import StyleTokens.Text.Composition
import StyleTokens.Text.Joining
import StyleTokens.Uri.DomainTable
import StyleTokens.Uri.Percent
import StyleTokens.Uri.Punycode

namespace StyleTokens.Uri.Domain

open Text (Direction)

def isForbiddenInHost (c : Char) : Bool := c.toNat == 0 || " \t\n\r#/:<>?@[\\]^|".toList.contains c

def isForbidden (c : Char) : Bool := isForbiddenInHost c || c.toNat < 0x20 || c.toNat == 0x7f || c == '%'

def mark : List Nat := "xn--".toList.map Char.toNat

def isAscii (label : List Nat) : Bool := label.all (· < 0x80)

-- A joiner must stand after a mark that asks for one. One that keeps letters apart may also stand between letters that
-- would join.
def joinerFits (before : List Nat) (code : Nat) (after : List Nat) : Bool :=
  let skip := List.dropWhile Text.Joining.isTransparent
  if (before.head?.map Text.Composition.markClass) == some 9 then true
  else if code = 0x200c then
    ((skip before).head?.any Text.Joining.joinsNext) && ((skip after).head?.any Text.Joining.joinsPrevious)
  else false

def joinersFit (before : List Nat) : List Nat → Bool
  | [] => true
  | code :: rest =>
    (!(code = 0x200c || code = 0x200d) || joinerFits before code rest) && joinersFit (code :: before) rest

def isWellFormed (label : List Nat) : Bool := !(label.head?.any marks.contains) && joinersFit [] label

def readLabel? (label : List Nat) : Option (List Nat) :=
  if mark.isPrefixOf label then do
    let decoded ← Punycode.decode? ((label.drop 4).map Char.ofNat)
    if !isAscii decoded && decoded.all isPlain && Text.Composition.normalize decoded = decoded then some decoded
    else none
  else some label

def writeLabel (label : List Nat) : List Char :=
  if isAscii label then label.map Char.ofNat else "xn--".toList ++ Punycode.encode label

def mayStand (rightToLeft : Bool) : Direction → Bool
  | .europeanNumber | .neutral | .mark => true
  | .rightToLeft | .arabicNumber => rightToLeft
  | .leftToRight => !rightToLeft
  | .separator => false

def mayEnd (rightToLeft : Bool) : Direction → Bool
  | .europeanNumber => true
  | .rightToLeft | .arabicNumber => rightToLeft
  | .leftToRight => !rightToLeft
  | _ => false

-- A label has one direction, which its first character gives, and only one kind of numbers if it is written from right
-- to left.
def hasOneDirection (label : List Nat) : Bool :=
  let directions := label.map Direction.ofCode
  match directions with
  | [] => true
  | first :: _ =>
    let rightToLeft : Bool := first = .rightToLeft
    (rightToLeft || first = .leftToRight) && directions.all (mayStand rightToLeft) &&
      ((directions.reverse.dropWhile (· = .mark)).head?.any (mayEnd rightToLeft)) &&
      !(rightToLeft && directions.contains .arabicNumber && directions.contains .europeanNumber)

def directionsFit (labels : List (List Nat)) : Bool :=
  let isMixed (code : Nat) : Bool := match Direction.ofCode code with
    | .rightToLeft | .arabicNumber => true
    | _ => false
  !(labels.any (·.any isMixed)) || labels.all hasOneDirection

def splitLabels : List Nat → List (List Nat)
  | [] => [[]]
  | code :: rest =>
    if code = '.'.toNat then [] :: splitLabels rest
    else
      match splitLabels rest with
      | first :: others => (code :: first) :: others
      | [] => [[code]]

def toAscii? (text : List Char) : Option (List Char) := do
  let mapped ← text.mapM fun c => replacement? c.toNat
  let labels := splitLabels (Text.Composition.normalize mapped.flatten)
  let decoded ← labels.mapM readLabel?
  let name := ['.'].intercalate (decoded.map writeLabel)
  if decoded.all isWellFormed && directionsFit decoded && !(name.any isForbidden) then some name else none

end StyleTokens.Uri.Domain
