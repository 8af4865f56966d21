import StyleTokens.Text.Digits
import StyleTokens.Yaml.Scanner

namespace StyleTokens.Yaml.Scanner

def isUriChar (verbatim : Bool) (c : Char) : Bool :=
  isNameChar c || ";/?:@&=+$.!~*'()".toList.contains c || (verbatim && ",[]".toList.contains c)

def octet? : List Char → Option Nat
  | '%' :: a :: b :: _ => Text.hexNumber? [a, b]
  | _ => none

def sequenceLength? (octet : Nat) : Option Nat :=
  if octet < 0x80 then some 1
  else if 0xc0 ≤ octet && octet < 0xe0 then some 2
  else if 0xe0 ≤ octet && octet < 0xf0 then some 3
  else if 0xf0 ≤ octet && octet < 0xf8 then some 4
  else none

def skipOctets : Nat → Scanner → Option Scanner
  | 0, s => some s
  | count + 1, s => do
    let octet ← octet? s.rest
    if 0x80 ≤ octet && octet < 0xc0 then skipOctets count (s.advance 3) else none

def skipUri (verbatim : Bool) : Nat → Bool → Scanner → Option (Bool × Scanner)
  | 0, _, _ => none
  | fuel + 1, found, s =>
    match s.rest with
    | '%' :: _ => do
      let length ← sequenceLength? (← octet? s.rest)
      skipUri verbatim fuel true (← skipOctets (length - 1) (s.advance 3))
    | c :: _ => if isUriChar verbatim c then skipUri verbatim fuel true (s.advance 1) else some (found, s)
    | [] => some (found, s)

def skipTagText (s : Scanner) (verbatim : Bool) : Option Scanner := do
  let (found, s) ← skipUri verbatim (s.rest.length + 1) false s
  if found then some s else none

def takeHandle (s : Scanner) : Option (List Char × Scanner) :=
  match s.rest with
  | '!' :: rest =>
    let name := rest.takeWhile isNameChar
    let s := s.advance (name.length + 1)
    if s.startsWith '!' then some ('!' :: name ++ ['!'], s.advance 1) else some ('!' :: name, s)
  | _ => none

-- A tag: its handle is empty when the tag needs none.
def takeTag (s : Scanner) : Option Scanner := do
  let (handle, s) ←
    if s.rest[1]? == some '<' then do
      let s ← (s.advance 2).skipTagText true
      if s.startsWith '>' then some ("", s.advance 1) else none
    else do
      let (handle, s) ← s.takeHandle
      if 2 ≤ handle.length && handle.getLast? == some '!' then
        some (String.ofList handle, ← s.skipTagText false)
      else
        let (found, s) ← skipUri false (s.rest.length + 1) false s
        some (if handle.length == 1 && !found then "" else "!", s)
  if (s.inFlow && s.startsWith ',') || atGap s.rest then some (s.push (.tag handle)) else none

def takeName (s : Scanner) (token : String → Token) : Option Scanner :=
  let s := s.advance 1
  let name := s.rest.takeWhile isNameChar
  let s := s.advance name.length
  let ends := match s.rest with
    | c :: _ => atGap s.rest || "?:,]\x7d%@`".toList.contains c
    | [] => true
  if !name.isEmpty && ends then some (s.push (token (String.ofList name))) else none

def takeNumber (s : Scanner) : Option (Nat × Scanner) :=
  let digits := s.rest.takeWhile Text.isDigit
  if digits.isEmpty || 9 < digits.length then none
  else some (Text.digitsValue digits, s.advance digits.length)

def finishLine (s : Scanner) : Option Scanner :=
  let s := s.skipWhile isBlank
  let s := if s.startsWith '#' then s.skipWhile (!isBreak ·) else s
  match s.rest with
  | [] => some s
  | c :: _ => if isBreak c then some s.skipBreak else none

def takeDirective (s : Scanner) : Option Scanner := do
  let s := s.advance 1
  let name := s.rest.takeWhile isNameChar
  let s := s.advance name.length
  if !atGap s.rest then none
  else
    match String.ofList name with
    | "YAML" => do
      let (major, s) ← (s.skipWhile isBlank).takeNumber
      if !s.startsWith '.' then none
      else do
        let (minor, s) ← (s.advance 1).takeNumber
        (s.push (.version major minor)).finishLine
    | "TAG" => do
      let (handle, s) ← (s.skipWhile isBlank).takeHandle
      if handle.length ≠ 1 && handle.getLast? ≠ some '!' then none
      else if !(s.rest.head?.any isBlank) then none
      else do
        let s ← (s.skipWhile isBlank).skipTagText true
        if atGap s.rest then (s.push (.tagDirective (String.ofList handle))).finishLine else none
    | _ => none

end StyleTokens.Yaml.Scanner
