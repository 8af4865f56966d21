import StyleTokens.Json

namespace StyleTokens

-- A call may lack a method, which is then an empty one.
inductive Message where
  | answer
  | call (method : String) (params id : Option Json)

namespace Message

def isVersion : Json → Bool
  | .string version => version == "2.0"
  | _ => false

def isInteger64 : Json → Bool
  | .number (.integer value) => -0x8000000000000000 ≤ value && value < 0x8000000000000000
  | _ => false

def isIdentifier : Json → Bool
  | .string _ | .null => true
  | other => isInteger64 other

def isText : Json → Bool
  | .string _ => true
  | _ => false

def isError : Json → Bool
  | .object fields =>
    (fields.lookup "code").any isInteger64 && (fields.lookup "message").any isText &&
      fields.all fun field => ["code", "message", "data"].contains field.1
  | .array [code, message, _] => isInteger64 code && isText message
  | _ => false

def isAnswer (message : Json) : Bool :=
  (message.field? "jsonrpc").any isVersion && (message.field? "id").any isIdentifier &&
    ((message.field? "result").isSome || (message.field? "error").any isError)

def ofParts? (version method params id : Option Json) : Option Message := do
  let method ← match method with
    | none => some ""
    | some (.string method) => some method
    | some _ => none
  if version.any isVersion && id.all isIdentifier then some (.call method params id) else none

-- A call may also be an array of its parts, of which the last ones may be missing.
def ofJson? (message : Json) : Option Message :=
  if isAnswer message then some .answer
  else
    match message with
    | .object _ =>
      ofParts? (message.field? "jsonrpc") (message.field? "method") (message.field? "params") (message.field? "id")
    | .array parts => if parts.length ≤ 4 then ofParts? parts[0]? parts[1]? parts[2]? parts[3]? else none
    | _ => none

end Message

end StyleTokens
