import StyleTokens.Double
import StyleTokens.Text.Digits

namespace StyleTokens

-- Whole numbers that fit into 64 bits are kept as such; any other number is a floating point number.
inductive JsonNumber where
  | integer (value : Int)
  | double (value : Double)
deriving DecidableEq, Repr, Inhabited

inductive Json where
  | null
  | bool (value : Bool)
  | number (value : JsonNumber)
  | string (text : String)
  | array (items : List Json)
  | object (fields : List (String × Json))
deriving Repr, Inhabited

def JsonNumber.render : JsonNumber → String
  | .integer value => toString value
  | .double value => value.render

namespace Json

def escape (c : Char) : List Char :=
  match c with
  | '"' => ['\\', '"']
  | '\\' => ['\\', '\\']
  | '\x08' => ['\\', 'b']
  | '\t' => ['\\', 't']
  | '\n' => ['\\', 'n']
  | '\x0c' => ['\\', 'f']
  | '\r' => ['\\', 'r']
  | c =>
    if c.toNat < 0x20 then
      let digits := Text.hexDigits c.toNat
      '\\' :: 'u' :: List.replicate (4 - digits.length) '0' ++ digits
    else [c]

def renderString (text : String) : String :=
  String.ofList ('"' :: text.toList.flatMap escape ++ ['"'])

mutual

def render : Json → String
  | .null => "null"
  | .bool true => "true"
  | .bool false => "false"
  | .number value => value.render
  | .string text => renderString text
  | .array items => "[" ++ ",".intercalate (renderItems items) ++ "]"
  | .object fields => "\x7b" ++ ",".intercalate (renderFields fields) ++ "\x7d"

def renderItems : List Json → List String
  | [] => []
  | item :: rest => item.render :: renderItems rest

def renderFields : List (String × Json) → List String
  | [] => []
  | (key, value) :: rest => (renderString key ++ ":" ++ value.render) :: renderFields rest

end

def ofNat (n : Nat) : Json := .number (.integer n)

def ofInt (n : Int) : Json := .number (.integer n)

def ofOption (encode : α → Json) : Option α → Json
  | some value => encode value
  | none => .null

def ofList (encode : α → Json) (items : List α) : Json := .array (items.map encode)

def optional (key : String) (encode : α → Json) : Option α → List (String × Json)
  | some value => [(key, encode value)]
  | none => []

-- The last field of this name counts.
def field? (key : String) : Json → Option Json
  | .object fields => fields.reverse.lookup key
  | _ => none

def present? (key : String) (value : Json) : Option Json :=
  match value.field? key with
  | some .null => none
  | other => other

end Json

end StyleTokens
