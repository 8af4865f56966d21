import StyleTokens.Json
import StyleTokens.Text.Digits

namespace StyleTokens.Json

open Text (isDigit digitsValue hexNumber?)

inductive StringUnit where
  | char (c : Char)
  | unit (code : Nat)
deriving DecidableEq, Repr

abbrev Literal := List StringUnit

structure NumberText where
  negative : Bool
  whole : List Char
  fraction : List Char
  exponentNegative : Bool
  exponent : List Char
deriving DecidableEq, Repr

-- A value as it was written, with the escapes of its strings and the parts of its numbers still apart: a reader that
-- skips a value need not make sense of them.
inductive Source where
  | null
  | bool (value : Bool)
  | number (text : NumberText)
  | string (literal : Literal)
  | array (items : List Source)
  | object (fields : List (Literal × Source))
deriving Repr, Inhabited

def isBlank (c : Char) : Bool := c == ' ' || c == '\n' || c == '\t' || c == '\r'

def skipBlanks (text : List Char) : List Char := text.dropWhile isBlank

def simpleEscape? : Char → Option Char
  | '"' => some '"'
  | '\\' => some '\\'
  | '/' => some '/'
  | 'b' => some '\x08'
  | 'f' => some '\x0c'
  | 'n' => some '\n'
  | 'r' => some '\r'
  | 't' => some '\t'
  | _ => none

def readString (done : Literal) : List Char → Option (Literal × List Char)
  | [] => none
  | '"' :: rest => some (done.reverse, rest)
  | '\\' :: 'u' :: a :: b :: c :: d :: rest =>
    match hexNumber? [a, b, c, d] with
    | some code => readString (.unit code :: done) rest
    | none => none
  | '\\' :: c :: rest =>
    match simpleEscape? c with
    | some meaning => readString (.char meaning :: done) rest
    | none => none
  | c :: rest => if c.toNat < 0x20 || c == '\\' then none else readString (.char c :: done) rest

def readExponent (number : NumberText) (text : List Char) : Option (NumberText × List Char) :=
  match text with
  | c :: rest =>
    if c == 'e' || c == 'E' then
      let (negative, rest) :=
        match rest with
        | '-' :: rest => (true, rest)
        | '+' :: rest => (false, rest)
        | rest => (false, rest)
      let digits := rest.takeWhile isDigit
      if digits.isEmpty then none
      else some ({ number with exponentNegative := negative, exponent := digits }, rest.dropWhile isDigit)
    else some (number, text)
  | [] => some (number, [])

-- A zero at the start stands alone before the point.
def readNumber (negative : Bool) (text : List Char) : Option (NumberText × List Char) := do
  let whole := text.takeWhile isDigit
  let rest := text.dropWhile isDigit
  if whole.isEmpty || (whole.head? == some '0' && 1 < whole.length) then none
  else
    let number : NumberText := ⟨negative, whole, [], false, []⟩
    match rest with
    | '.' :: rest =>
      let fraction := rest.takeWhile isDigit
      if fraction.isEmpty then none
      else readExponent { number with fraction } (rest.dropWhile isDigit)
    | rest => readExponent number rest

mutual

-- Reads one value, blanks before it included. Each nested value starts with a character of its own, so the length of
-- the text bounds the calls.
def readValue : Nat → List Char → Option (Source × List Char)
  | 0, _ => none
  | fuel + 1, text =>
    match skipBlanks text with
    | 'n' :: 'u' :: 'l' :: 'l' :: rest => some (.null, rest)
    | 't' :: 'r' :: 'u' :: 'e' :: rest => some (.bool true, rest)
    | 'f' :: 'a' :: 'l' :: 's' :: 'e' :: rest => some (.bool false, rest)
    | '"' :: rest => (readString [] rest).map fun (literal, rest) => (.string literal, rest)
    | '[' :: rest =>
      match skipBlanks rest with
      | ']' :: rest => some (.array [], rest)
      | rest => (readItems fuel [] rest).map fun (items, rest) => (.array items, rest)
    | '\x7b' :: rest =>
      match skipBlanks rest with
      | '\x7d' :: rest => some (.object [], rest)
      | rest => (readFields fuel [] rest).map fun (fields, rest) => (.object fields, rest)
    | '-' :: rest => (readNumber true rest).map fun (written, rest) => (.number written, rest)
    | rest => (readNumber false rest).map fun (written, rest) => (.number written, rest)

def readItems : Nat → List Source → List Char → Option (List Source × List Char)
  | 0, _, _ => none
  | fuel + 1, done, text =>
    match readValue fuel text with
    | none => none
    | some (item, rest) =>
      match skipBlanks rest with
      | ',' :: rest => readItems fuel (item :: done) rest
      | ']' :: rest => some ((item :: done).reverse, rest)
      | _ => none

def readFields : Nat → List (Literal × Source) → List Char → Option (List (Literal × Source) × List Char)
  | 0, _, _ => none
  | fuel + 1, done, text =>
    match skipBlanks text with
    | '"' :: rest =>
      match readString [] rest with
      | none => none
      | some (key, rest) =>
        match skipBlanks rest with
        | ':' :: rest =>
          match readValue fuel rest with
          | none => none
          | some (value, rest) =>
            match skipBlanks rest with
            | ',' :: rest => readFields fuel ((key, value) :: done) rest
            | '\x7d' :: rest => some (((key, value) :: done).reverse, rest)
            | _ => none
        | _ => none
    | _ => none

end

def Source.ofText? (text : String) : Option Source :=
  let chars := text.toList
  match readValue (chars.length + 1) chars with
  | some (value, rest) => if (skipBlanks rest).isEmpty then some value else none
  | none => none

def isHighSurrogate (code : Nat) : Bool := 0xd800 ≤ code && code < 0xdc00

def isLowSurrogate (code : Nat) : Bool := 0xdc00 ≤ code && code < 0xe000

-- Surrogates must come in pairs.
def Literal.chars? : Literal → Option (List Char)
  | [] => some []
  | .char c :: rest => (chars? rest).map (c :: ·)
  | .unit high :: .unit low :: rest =>
    if isHighSurrogate high then
      if isLowSurrogate low then
        (chars? rest).map (Char.ofNat (0x10000 + (high - 0xd800) * 0x400 + (low - 0xdc00)) :: ·)
      else none
    else if isLowSurrogate high then none
    else (chars? (.unit low :: rest)).map (Char.ofNat high :: ·)
  | .unit code :: rest =>
    if isHighSurrogate code || isLowSurrogate code then none
    else (chars? rest).map (Char.ofNat code :: ·)

def Literal.text? (literal : Literal) : Option String := (Literal.chars? literal).map String.ofList

def takeDigits (word : Nat) : List Char → Nat × List Char
  | [] => (word, [])
  | c :: rest =>
    let next := 10 * word + (c.toNat - '0'.toNat)
    if next < UInt64.size then takeDigits next rest else (word, c :: rest)

-- The number that the leading digits write, scaled by a power of ten. Digits left over before the point count in the
-- power only, those after the point not at all. An exponent that needs more than 31 bits makes the number zero or too
-- large.
def NumberText.double? (text : NumberText) : Option Double := do
  let (word, unreadWhole) := takeDigits 0 text.whole
  let (word, unreadFraction) := takeDigits word text.fraction
  let shift : Int := unreadWhole.length - (text.fraction.length - unreadFraction.length : Nat)
  let written := digitsValue text.exponent
  let size ←
    if written < 0x80000000 then
      Double.scale? word.toUInt64.toFloat (if text.exponentNegative then shift - written else shift + written)
    else if text.exponentNegative || word = 0 then some 0
    else none
  some (Double.ofFloat (if text.negative then -size else size))

-- Whole numbers that fit into 64 bits, signed or not, are integers. A negative zero is not.
def NumberText.value? (text : NumberText) : Option JsonNumber :=
  let whole := digitsValue text.whole
  let isInteger := text.fraction.isEmpty && text.exponent.isEmpty &&
    if text.negative then 0 < whole && whole ≤ 0x8000000000000000 else whole < UInt64.size
  if isInteger then some (.integer (if text.negative then -(whole : Int) else whole))
  else text.double?.map .double

mutual

def Source.value? : Source → Option Json
  | .null => some .null
  | .bool value => some (.bool value)
  | .number text => text.value?.map .number
  | .string literal => literal.text?.map .string
  | .array items => (itemValues? items).map .array
  | .object fields => (fieldValues? fields).map .object

def itemValues? : List Source → Option (List Json)
  | [] => some []
  | item :: rest =>
    match item.value?, itemValues? rest with
    | some value, some values => some (value :: values)
    | _, _ => none

def fieldValues? : List (Literal × Source) → Option (List (String × Json))
  | [] => some []
  | (key, item) :: rest =>
    match key.text?, item.value?, fieldValues? rest with
    | some key, some value, some values => some ((key, value) :: values)
    | _, _, _ => none

end

end StyleTokens.Json

namespace StyleTokens

def Json.ofText? (text : String) : Option Json := do (← Json.Source.ofText? text).value?

end StyleTokens
