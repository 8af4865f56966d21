import StyleTokens.Name.Letter
import StyleTokens.Text.Digits

namespace StyleTokens.Uri

open Text (isDigit digitsValue hexValue? hexNumber? hexDigits)

namespace FourByte

-- A number in one of three bases: after `0x` it is hexadecimal, after `0` octal.
def number? (text : List Char) : Option Nat :=
  match text with
  | [] => none
  | '0' :: 'x' :: digits | '0' :: 'X' :: digits => hexNumber? digits
  | '0' :: c :: rest =>
    let digits := c :: rest
    if digits.all fun c => '0' ≤ c && c ≤ '7' then
      some (digits.foldl (fun total c => 8 * total + (c.toNat - '0'.toNat)) 0)
    else none
  | digits => if digits.all isDigit then some (digitsValue digits) else none

def parts (text : List Char) : List (List Char) :=
  let pieces := Name.pieces '.' text
  if 1 < pieces.length && pieces.getLast? == some [] then pieces.dropLast else pieces

-- A host whose last part is a number can only be an address.
def isMeant (text : List Char) : Bool :=
  match (parts text).getLast? with
  | some last => !last.isEmpty && (last.all isDigit || (number? last).isSome)
  | none => false

-- Each part but the last is one byte, and the last fills the bytes that remain.
def parse? (text : List Char) : Option Nat := do
  let numbers ← (parts text).mapM number?
  let leading := numbers.dropLast
  let last ← numbers.getLast?
  if numbers.length ≤ 4 && leading.all (· < 256) && last < Nat.pow 256 (4 - leading.length) then
    some (leading.foldl (fun total byte => 256 * total + byte) 0 * Nat.pow 256 (4 - leading.length) + last)
  else none

def render (address : Nat) : List Char :=
  let byte (shift : Nat) : List Char := (toString (address / Nat.pow 256 shift % 256)).toList
  ['.'].intercalate [byte 3, byte 2, byte 1, byte 0]

end FourByte

namespace EightPiece

def lastPieces? (text : List Char) : Option (List Nat) := do
  let bytes ← (Name.pieces '.' text).mapM fun digits =>
    if digits.isEmpty || !digits.all isDigit || (digits.head? == some '0' && digits ≠ ['0']) then none
    else if digitsValue digits < 256 then some (digitsValue digits)
    else none
  match bytes with
  | [a, b, c, d] => some [256 * a + b, 256 * c + d]
  | _ => none

-- Reads the pieces, `done` holding those so far, the last one first. Two colons stand for a piece of zero after which
-- more zeros may be missing; `gap` counts the pieces up to there.
def readPieces (done : List Nat) (gap : Option Nat) (text : List Char) : Option (List Nat × Option Nat) :=
  if text = [] then some (done.reverse, gap)
  else if done.length = 8 then none
  else if text.head? = some ':' then
    if gap.isSome then none else readPieces (0 :: done) (some (done.length + 1)) (text.drop 1)
  else
    let digits := (text.take 4).takeWhile fun c => (hexValue? c).isSome
    match text.drop digits.length with
    | [] => (hexNumber? digits).map fun value => ((value :: done).reverse, gap)
    | '.' :: _ =>
      if digits.isEmpty || 6 < done.length then none
      else (lastPieces? text).map fun pieces => (done.reverse ++ pieces, gap)
    | [':'] => none
    | ':' :: _ =>
      if digits.isEmpty then none
      else (hexNumber? digits).bind fun value => readPieces (value :: done) gap (text.drop (digits.length + 1))
    | _ => none
termination_by text.length
decreasing_by all_goals
  have := List.length_pos_iff.mpr ‹¬text = []›
  simp only [List.length_drop]
  omega

def parse? (text : List Char) : Option (List Nat) := do
  let (pieces, gap) ← match text with
    | ':' :: ':' :: rest => readPieces [0] (some 1) rest
    | ':' :: _ => none
    | _ => if text.length < 2 then none else readPieces [] none text
  match gap with
  | some place =>
    if pieces.length ≤ 8 then
      some (pieces.take place ++ List.replicate (8 - pieces.length) 0 ++ pieces.drop place)
    else none
  | none => if pieces.length = 8 then some pieces else none

def longestZeros (pieces : List Nat) : Nat × Nat :=
  (List.range pieces.length).foldl (fun (best : Nat × Nat) start =>
    let length := ((pieces.drop start).takeWhile (· == 0)).length
    if best.2 < length then (start, length) else best) (0, 0)

def renderPieces (pieces : List Nat) : List Char := [':'].intercalate (pieces.map hexDigits)

-- Two colons stand for the longest run of at least two zeros.
def render (pieces : List Nat) : List Char :=
  let (start, length) := longestZeros pieces
  if length < 2 then renderPieces pieces
  else renderPieces (pieces.take start) ++ ':' :: ':' :: renderPieces (pieces.drop (start + length))

end EightPiece

end StyleTokens.Uri
