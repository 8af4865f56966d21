import StyleTokens.Server.Message
import StyleTokens.Server.Params
import StyleTokens.Server.Reply

namespace StyleTokens

inductive Phase where
  | fresh
  | running
  | stopped
  | closed
deriving DecidableEq, Repr

inductive Refusal where
  | notInitialized
  | noJson
  | invalidRequest
  | unknownMethod (method : String)
  | notImplemented
  | invalidParams (reason : String)
deriving DecidableEq, Repr

namespace Refusal

def code : Refusal → Int
  | .notInitialized => -32002
  | .noJson => -32700
  | .invalidRequest => -32600
  | .unknownMethod _ | .notImplemented => -32601
  | .invalidParams _ => -32602

def message : Refusal → String
  | .notInitialized => "Server not initialized"
  | .noJson => "Parse error"
  | .invalidRequest => "Invalid request"
  | .unknownMethod _ | .notImplemented => "Method not found"
  | .invalidParams reason => reason

def toJson (refusal : Refusal) : Json :=
  let data := match refusal with
    | .unknownMethod method => [("data", .string method)]
    | _ => []
  .object ([("code", .ofInt refusal.code), ("message", .string refusal.message)] ++ data)

end Refusal

inductive Method where
  | request (decode : Decoder ServerCall)
  | bareRequest (call : ServerCall)
  | unoffered (check : Decoder Unit)
  | notification (decode : Decoder ServerCall)
  | unheard

namespace Method

def unheardNames : List String :=
  ["textDocument/willSave", "textDocument/didSave", "workspace/didChangeConfiguration",
   "workspace/didChangeWorkspaceFolders", "workspace/didCreateFiles", "workspace/didRenameFiles",
   "workspace/didDeleteFiles", "workspace/didChangeWatchedFiles"]

def find? : String → Option Method
  | "initialize" => some (.request Params.negotiate)
  | "initialized" => some (.notification Params.ready)
  | "shutdown" => some (.bareRequest .shutdown)
  | "textDocument/didOpen" => some (.notification Params.didOpen)
  | "textDocument/didChange" => some (.notification Params.didChange)
  | "textDocument/didClose" => some (.notification Params.didClose)
  | "textDocument/diagnostic" => some (.request Params.diagnostic)
  | "textDocument/completion" => some (.request Params.completion)
  | "completionItem/resolve" => some (.request Params.resolve)
  | "textDocument/codeAction" => some (.request Params.codeAction)
  | "textDocument/hover" => some (.request Params.hover)
  | method =>
    match Params.unoffered.lookup method with
    | some check => some (.unoffered check)
    | none => if unheardNames.contains method then some .unheard else none

def isNotification : Method → Bool
  | .notification _ | .unheard => true
  | _ => false

def read (decode : Decoder α) (params : Option Json) : Except Refusal α :=
  match params with
  | none => .error (.invalidParams "Missing params field")
  | some params => (decode params).mapError fun mismatch => .invalidParams mismatch.message

def call? (method : Method) (params : Option Json) : Except Refusal (Option ServerCall) :=
  match method with
  | .request decode | .notification decode => some <$> read decode params
  | .bareRequest call =>
    match params with
    | none => .ok (some call)
    | some params => .error (.invalidParams ("Unexpected params: " ++ params.render))
  | .unoffered check => do
    read check params
    throw .notImplemented
  | .unheard => .ok none

end Method

structure Connection where
  server : Server
  phase : Phase := .fresh

structure Received where
  connection : Connection
  response : Option Json := none
  notifications : List Json := []
  log : List LogLine := []

namespace Connection

def versioned (fields : List (String × Json)) : Json := .object (("jsonrpc", .string "2.0") :: fields)

def answer (id : Option Json) (field : String) (content : Json) : Option Json :=
  id.map fun id => versioned [("id", id), (field, content)]

def refuse (connection : Connection) (id : Option Json) (refusal : Refusal) : Received :=
  { connection, response := answer id "error" refusal.toJson }

def perform (parser : Parser) (connection : Connection) (id : Option Json) (call : ServerCall) : Received :=
  let handled := connection.server.handle parser call
  let phase := match call with
    | .negotiate => .running
    | _ => connection.phase
  { connection := { server := handled.state, phase }
    response := answer id "result" (call.encodeReply handled.reply)
    notifications := handled.sent.map fun line =>
      let (method, params) := Server.logNotification line
      versioned [("method", .string method), ("params", params)]
    log := handled.log }

-- Takes a call of a known method. A request needs an identifier to be heard, and a notification must not have one.
def take (parser : Parser) (connection : Connection) (method : Method) (params id : Option Json) : Received :=
  if method.isNotification && id.isSome then connection.refuse id .invalidRequest
  else if !method.isNotification && id.isNone then { connection }
  else
    match method.call? params with
    | .error refusal => connection.refuse id refusal
    | .ok (some call) => connection.perform parser id call
    | .ok none => { connection }

def whenRunning (connection : Connection) (id : Option Json) (act : Received) : Received :=
  match connection.phase with
  | .running => act
  | .fresh => connection.refuse id .notInitialized
  | .stopped | .closed => connection.refuse id .invalidRequest

-- A shutdown stops the server whether or not it could be carried out.
def stopAfter (name : String) (received : Received) : Received :=
  if name = "shutdown" then { received with connection := { received.connection with phase := .stopped } }
  else received

def close (connection : Connection) : Connection := { connection with phase := .closed }

-- Takes a call. Negotiations come first and only once. A method that is not known may be passed over if its name says
-- so.
def call (parser : Parser) (connection : Connection) (name : String) (params id : Option Json) : Received :=
  if name = "exit" then { connection := connection.close }
  else if name = "$/cancelRequest" then
    if id.isSome then connection.refuse id .invalidRequest else { connection }
  else
    match Method.find? name with
    | some method =>
      let act := connection.take parser method params id
      if name = "initialize" then
        if connection.phase = .fresh then act else connection.refuse id .invalidRequest
      else connection.whenRunning id (stopAfter name act)
    | none =>
      if "$/".toList.isPrefixOf name.toList then { connection }
      else connection.refuse id (.unknownMethod name)

-- Takes the text of a message. Answers of the editor change nothing. What is no message is refused and ends the
-- conversation; after its end nothing happens any more.
def receive (parser : Parser) (connection : Connection) (text : String) : Received :=
  if connection.phase = .closed then { connection }
  else
    match Json.ofText? text with
    | none => connection.close.refuse (some .null) .noJson
    | some message =>
      match Message.ofJson? message with
      | none => connection.close.refuse (some .null) .invalidRequest
      | some .answer => { connection }
      | some (.call name params id) => connection.call parser name params id

end Connection

end StyleTokens
