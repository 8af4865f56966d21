import StyleTokens.Json.Source
import StyleTokens.Table
import StyleTokens.Text.Quoted

namespace StyleTokens

inductive Mismatch where
  | missing (field : String)
  | wrongType (found : Json) (expected : String)
  | wrongValue (found : Json) (expected : String)
  | tooShort (length : Nat) (record : String) (fields : Nat)
  | tooLong (length fields : Nat) (spread : Bool)
  | unknownName (name : String) (known : List String)
  | noAlternative (choice : String)
  | badUri (reason text : String)
deriving Inhabited

namespace Mismatch

def describe : Json → String
  | .null => "null"
  | .bool value => "boolean `" ++ (if value then "true" else "false") ++ "`"
  | .number (.integer value) => "integer `" ++ toString value ++ "`"
  | .number (.double value) => "floating point `" ++ value.render ++ "`"
  | .string text => "string " ++ Text.quote text
  | .array _ => "sequence"
  | .object _ => "map"

def countElements (n : Nat) : String := if n = 1 then "1 element" else toString n ++ " elements"

def listNames : List String → String
  | [] => "there are no variants"
  | [name] => "expected `" ++ name ++ "`"
  | [first, second] => "expected `" ++ first ++ "` or `" ++ second ++ "`"
  | names => "expected one of " ++ ", ".intercalate (names.map fun name => "`" ++ name ++ "`")

def message : Mismatch → String
  | .missing field => "missing field `" ++ field ++ "`"
  | .wrongType found expected => "invalid type: " ++ describe found ++ ", expected " ++ expected
  | .wrongValue found expected => "invalid value: " ++ describe found ++ ", expected " ++ expected
  | .tooShort length record fields =>
    "invalid length " ++ toString length ++ ", expected struct " ++ record ++ " with " ++ countElements fields
  | .tooLong length fields spread =>
    "invalid length " ++ toString length ++ ", expected " ++
      if spread then countElements fields ++ " in sequence" else "fewer elements in array"
  | .unknownName name known => "unknown variant `" ++ name ++ "`, " ++ listNames known
  | .noAlternative choice => "data did not match any variant of untagged enum " ++ choice
  | .badUri reason text => reason ++ ": " ++ Text.quote text

-- In a part that is spread into a record, a list that is too long is told the length it may have.
def inSpread : Mismatch → Mismatch
  | .tooLong length fields _ => .tooLong length fields true
  | other => other

end Mismatch

abbrev Decoder (α : Type) := Json → Except Mismatch α

namespace Decoder

def string : Decoder String
  | .string text => .ok text
  | other => .error (.wrongType other "a string")

def bool : Decoder Bool
  | .bool value => .ok value
  | other => .error (.wrongType other "a boolean")

def integer (low high : Int) (name : String) : Decoder Int
  | .number (.integer value) =>
    if low ≤ value && value < high then .ok value
    else .error (.wrongValue (.number (.integer value)) name)
  | other => .error (.wrongType other name)

def int32 : Decoder Int := integer (-0x80000000) 0x80000000 "i32"

def word32 : Decoder UInt32 := fun value => do return (← integer 0 UInt32.size "u32" value).toNat.toUInt32

def real : Decoder JsonNumber
  | .number value => .ok value
  | other => .error (.wrongType other "f32")

def any : Decoder Json := .ok

def checked (decode : Decoder α) : Decoder Unit := fun value => do let _ ← decode value

def nullable (decode : Decoder α) : Decoder (Option α)
  | .null => .ok none
  | value => do return some (← decode value)

def list (decode : Decoder α) : Decoder (List α)
  | .array items => items.mapM decode
  | other => .error (.wrongType other "a sequence")

def entries (fields : List (String × Json)) : List (String × Json) := (Table.ofList fields).entries

def table (decode : Decoder α) : Decoder (List (String × α))
  | .object fields => (entries fields).mapM fun (key, value) => do return (key, ← decode value)
  | other => .error (.wrongType other "a map")

-- One of several names: a string, or an object whose only field has that name and no value.
def name (known : List String) : Decoder String
  | .string text => if known.contains text then .ok text else .error (.unknownName text known)
  | .object [(text, value)] =>
    if !known.contains text then .error (.unknownName text known)
    else match value with
      | .null => .ok text
      | other => .error (.wrongType other "unit")
  | .object fields => .error (.wrongValue (.object fields) "map with a single key")
  | other => .error (.wrongType other "string or map")

def choice (name : String) (alternatives : List (Decoder α)) : Decoder α := fun value =>
  match alternatives.findSome? fun decode => (decode value).toOption with
  | some found => .ok found
  | none => .error (.noAlternative name)

def field (key : String) (decode : Decoder α) : Decoder α := fun value =>
  match value.field? key with
  | some found => decode found
  | none => .error (.missing key)

def field? (key : String) (decode : Decoder α) : Decoder (Option α) := fun value =>
  match value.present? key with
  | some found => do return some (← decode found)
  | none => .ok none

def listField (key : String) (decode : Decoder α) : Decoder (List α) := fun value => do
  return (← field? key (list decode) value).getD []

end Decoder

end StyleTokens
