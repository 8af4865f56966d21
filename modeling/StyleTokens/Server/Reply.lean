import StyleTokens.Server

namespace StyleTokens

def Server.capabilities : Json :=
  .object [
    ("textDocumentSync", .ofNat 1),
    ("diagnosticProvider", .object [
      ("identifier", .string Report.source),
      ("interFileDependencies", .bool false),
      ("workspaceDiagnostics", .bool false)]),
    ("hoverProvider", .bool true),
    ("completionProvider", .object [
      ("resolveProvider", .bool true),
      ("triggerCharacters", .ofList .string ["'", "\"", "$"])]),
    ("codeActionProvider", .bool true)]

namespace ServerCall

def encodeReply : (call : ServerCall) → call.Reply → Json
  | .negotiate, _ => .object [("capabilities", Server.capabilities)]
  | .diagnostic _, items => .object [("kind", .string "full"), ("items", .ofList Diagnostic.toJson items)]
  | .completion .., response => .ofOption CompletionResponse.toJson response
  | .resolve _, item => CompletionItem.toJson item
  | .codeAction .., fixes => .ofOption (.ofList Fix.toJson) fixes
  | .hover .., shown => .ofOption Hover.toJson shown
  | .ready, _ | .shutdown, _ | .didOpen .., _ | .didChange .., _ | .didClose _, _ => .null

end ServerCall

def Server.logNotification (message : String) : String × Json :=
  ("window/logMessage", .object [("type", .ofNat 3), ("message", .string message)])

end StyleTokens
