import StyleTokens.Server
import StyleTokens.Server.ClientCapabilities

namespace StyleTokens.Params

open Text (Position Range)
open Decoder (form)
open Fields (required optional spread all need may)

def progressToken : Decoder DiagnosticCode := DiagnosticCode.decode

def workDone : Fields Unit := spread (may "workDoneToken" progressToken)

def partialResult : Fields Unit := spread (may "partialResultToken" progressToken)

def document : Fields Uri :=
  required "textDocument" (.record "TextDocumentIdentifier" (required "uri" Uri.decode))

def place : Fields (Uri × Position) := Prod.mk <$> document <*> required "position" Position.decode

def versioned : Decoder (Uri × Int) :=
  .record "VersionedTextDocumentIdentifier" (Prod.mk <$> required "uri" Uri.decode <*> required "version" .int32)

def folder : Decoder Unit := .record "WorkspaceFolder" (all [need "uri" Uri.decode, need "name" .string])

def folders : Decoder (List Unit) := .list folder

def client : Decoder Unit := .record "ClientInfo" (all [need "name" .string, may "version" .string])

-- A field that may be null, and that an array may leave out.
def mayLack (key : String) (decode : Decoder α) : Fields Unit :=
  .defaulted key () (.checked (.nullable decode))

def negotiate : Decoder ServerCall :=
  .record "InitializeParams" (
    (fun _ => .negotiate) <$> all [
      may "processId" .word32,
      may "rootPath" .string,
      mayLack "rootUri" Uri.decode,
      may "initializationOptions" .any,
      need "capabilities" ClientCapabilities.decode,
      mayLack "trace" (.name ["off", "messages", "verbose"]),
      may "workspaceFolders" folders,
      may "clientInfo" client,
      may "locale" .string])

def ready : Decoder ServerCall := .record "InitializedParams" (pure .ready)

def didOpen : Decoder ServerCall :=
  let item : Decoder ServerCall := .record "TextDocumentItem" (
    (fun uri _ version text => .didOpen uri text version) <$> required "uri" Uri.decode
      <*> need "languageId" .string <*> required "version" .int32 <*> required "text" .string)
  .record "DidOpenTextDocumentParams" (required "textDocument" item)

-- A change gives a text. What it says about a range does not matter.
def contentChange : Decoder String :=
  .record "TextDocumentContentChangeEvent" (
    (fun _ _ text => text) <$> may "range" Range.decode <*> may "rangeLength" .word32 <*> required "text" .string)

def didChange : Decoder ServerCall :=
  .record "DidChangeTextDocumentParams" (
    (fun (uri, version) texts => .didChange uri version texts) <$> required "textDocument" versioned
      <*> required "contentChanges" (.list contentChange))

def didClose : Decoder ServerCall := .record "DidCloseTextDocumentParams" (ServerCall.didClose <$> document)

def diagnostic : Decoder ServerCall :=
  .record "DocumentDiagnosticParams" (
    (fun uri _ _ _ _ => .diagnostic uri) <$> document
      <*> may "identifier" .string <*> may "previousResultId" .string <*> workDone <*> partialResult)

def completionContext : Decoder CompletionContext :=
  .record "CompletionContext" (
    CompletionContext.mk <$> required "triggerKind" .int32 <*> optional "triggerCharacter" .string)

def completion : Decoder ServerCall :=
  .record "CompletionParams" (
    (fun (uri, position) _ _ context => .completion uri position context) <$> spread place
      <*> workDone <*> partialResult <*> optional "context" completionContext)

def resolve : Decoder ServerCall := fun params => .resolve <$> CompletionItem.decode params

def actionContext : Decoder (List Diagnostic) :=
  .record "CodeActionContext" (
    (fun diagnostics _ _ => diagnostics) <$> required "diagnostics" (.list Diagnostic.decode)
      <*> may "only" (.list .string) <*> may "triggerKind" .int32)

def codeAction : Decoder ServerCall :=
  .record "CodeActionParams" (
    (fun uri range diagnostics _ _ => .codeAction uri range diagnostics) <$> document
      <*> required "range" Range.decode <*> required "context" actionContext <*> workDone <*> partialResult)

def hover : Decoder ServerCall :=
  .record "HoverParams" ((fun (uri, position) _ => .hover uri position) <$> spread place <*> workDone)

def someDocument : Fields Unit := document.map fun _ => ()

def somePlace : Fields Unit := spread (place.map fun _ => ())

def save (name : String) : Decoder Unit := form name [someDocument, need "reason" .int32]

def goto : Decoder Unit := form "GotoDefinitionParams" [somePlace, workDone, partialResult]

def references : Decoder Unit :=
  form "ReferenceParams" [somePlace, workDone, partialResult,
    need "context" (form "ReferenceContext" [need "includeDeclaration" .bool])]

def callItem : Decoder Unit :=
  form "CallHierarchyItem" [need "name" .string, need "kind" .int32, may "tags" (.list .int32), may "detail" .string,
    need "uri" Uri.decode, need "range" Range.decode, need "selectionRange" Range.decode, may "data" .any]

def typeItem : Decoder Unit :=
  form "TypeHierarchyItem" [need "name" .string, need "kind" .int32, may "tags" .int32, may "detail" .string,
    need "uri" Uri.decode, need "range" Range.decode, need "selectionRange" Range.decode, may "data" .any]

def hierarchy (name : String) (item : Decoder Unit) : Decoder Unit :=
  form name [need "item" item, workDone, partialResult]

def wholeDocument (name : String) : Decoder Unit := form name [someDocument, workDone, partialResult]

def documentLink : Decoder Unit :=
  form "DocumentLink" [need "range" Range.decode, may "target" Uri.decode, may "tooltip" .string, may "data" .any]

def codeLens : Decoder Unit :=
  form "CodeLens" [need "range" Range.decode, may "command" Command.decode, may "data" .any]

def selectionRange : Decoder Unit :=
  form "SelectionRangeParams" [someDocument, need "positions" (.list Position.decode), workDone, partialResult]

def semanticTokens (name : String) (fields : List (Fields Unit)) : Decoder Unit :=
  form name ([workDone, partialResult, someDocument] ++ fields)

def inlineValue : Decoder Unit :=
  form "InlineValueParams" [workDone, someDocument, need "range" Range.decode,
    need "context" (form "InlineValueContext" [need "frameId" .int32, need "stoppedLocation" Range.decode])]

def inlayHintParams : Decoder Unit :=
  form "InlayHintParams" [workDone, someDocument, need "range" Range.decode]

def tooltip (name : String) : Decoder Unit := .choice name [.checked .string, .checked Markup.decode]

def inlayHint : Decoder Unit :=
  let part := form "InlayHintLabelPart" [need "value" .string,
    may "tooltip" (tooltip "InlayHintLabelPartTooltip"), may "location" Location.decode, may "command" Command.decode]
  form "InlayHint" [need "position" Position.decode,
    need "label" (.choice "InlayHintLabel" [.checked .string, .checked (.list part)]),
    may "kind" .int32, may "textEdits" (.list TextEdit.decode), may "tooltip" (tooltip "InlayHintTooltip"),
    may "paddingLeft" .bool, may "paddingRight" .bool, may "data" .any]

def workspaceDiagnostic : Decoder Unit :=
  let previous := form "PreviousResultId" [need "uri" Uri.decode, need "value" .string]
  form "WorkspaceDiagnosticParams" [may "identifier" .string, need "previousResultIds" (.list previous),
    workDone, partialResult]

def signature : Decoder Unit :=
  let pair : Decoder Unit := fun value => do
    match ← Decoder.list Decoder.word32 value with
    | [_, _] => return ()
    | _ => throw (.wrongType value "an array of length 2")
  let parameter := form "ParameterInformation" [
    need "label" (.choice "ParameterLabel" [.checked .string, pair]), may "documentation" Documentation.decode]
  form "SignatureInformation" [need "label" .string, may "documentation" Documentation.decode,
    may "parameters" (.list parameter), may "activeParameter" .word32]

def signatureHelp : Decoder Unit :=
  let help := form "SignatureHelp" [need "signatures" (.list signature), may "activeSignature" .word32,
    may "activeParameter" .word32]
  form "SignatureHelpParams" [
    may "context" (form "SignatureHelpContext" [need "triggerKind" .int32, may "triggerCharacter" .string,
      need "isRetrigger" .bool, may "activeSignatureHelp" help]),
    somePlace, workDone]

def colorPresentation : Decoder Unit :=
  let color := form "Color" [need "red" .real, need "green" .real, need "blue" .real, need "alpha" .real]
  form "ColorPresentationParams" [someDocument, need "color" color, need "range" Range.decode,
    workDone, partialResult]

def formattingOptions : Decoder Unit :=
  let value : Decoder Unit :=
    .choice "FormattingProperty" [.checked .bool, .checked .int32, .checked .string]
  let known := ["tabSize", "insertSpaces", "trimTrailingWhitespace", "insertFinalNewline", "trimFinalNewlines"]
  form "FormattingOptions" [need "tabSize" .word32, need "insertSpaces" .bool,
    (Fields.others known value).map fun _ => (),
    may "trimTrailingWhitespace" .bool, may "insertFinalNewline" .bool, may "trimFinalNewlines" .bool]

def rename : Decoder Unit := form "RenameParams" [somePlace, need "newName" .string, workDone]

def workspaceSymbol : Decoder Unit :=
  let somewhere := form "WorkspaceLocation" [need "uri" Uri.decode]
  form "WorkspaceSymbol" [need "name" .string, need "kind" .int32, may "tags" (.list .int32),
    may "containerName" .string,
    need "location" (.choice "OneOf" [.checked Location.decode, somewhere]), may "data" .any]

def files (name item : String) (keys : List String) : Decoder Unit :=
  form name [need "files" (.list (form item (keys.map fun key => need key .string)))]

def executeCommand : Decoder Unit :=
  form "ExecuteCommandParams" [need "command" .string,
    .defaulted "arguments" () (.checked (.list .any)), workDone]

def unoffered : List (String × Decoder Unit) := [
  ("textDocument/willSaveWaitUntil", save "WillSaveTextDocumentParams"),
  ("textDocument/declaration", goto),
  ("textDocument/definition", goto),
  ("textDocument/typeDefinition", goto),
  ("textDocument/implementation", goto),
  ("textDocument/references", references),
  ("textDocument/prepareCallHierarchy", form "CallHierarchyPrepareParams" [somePlace, workDone]),
  ("callHierarchy/incomingCalls", hierarchy "CallHierarchyIncomingCallsParams" callItem),
  ("callHierarchy/outgoingCalls", hierarchy "CallHierarchyOutgoingCallsParams" callItem),
  ("textDocument/prepareTypeHierarchy", form "TypeHierarchyPrepareParams" [somePlace, workDone]),
  ("typeHierarchy/supertypes", hierarchy "TypeHierarchySupertypesParams" typeItem),
  ("typeHierarchy/subtypes", hierarchy "TypeHierarchySubtypesParams" typeItem),
  ("textDocument/documentHighlight", form "DocumentHighlightParams" [somePlace, workDone, partialResult]),
  ("textDocument/documentLink", wholeDocument "DocumentLinkParams"),
  ("documentLink/resolve", documentLink),
  ("textDocument/codeLens", wholeDocument "CodeLensParams"),
  ("codeLens/resolve", codeLens),
  ("textDocument/foldingRange", wholeDocument "FoldingRangeParams"),
  ("textDocument/selectionRange", selectionRange),
  ("textDocument/documentSymbol", wholeDocument "DocumentSymbolParams"),
  ("textDocument/semanticTokens/full", semanticTokens "SemanticTokensParams" []),
  ("textDocument/semanticTokens/full/delta",
    semanticTokens "SemanticTokensDeltaParams" [need "previousResultId" .string]),
  ("textDocument/semanticTokens/range", semanticTokens "SemanticTokensRangeParams" [need "range" Range.decode]),
  ("textDocument/inlineValue", inlineValue),
  ("textDocument/inlayHint", inlayHintParams),
  ("inlayHint/resolve", inlayHint),
  ("textDocument/moniker", form "MonikerParams" [somePlace, workDone, partialResult]),
  ("workspace/diagnostic", workspaceDiagnostic),
  ("textDocument/signatureHelp", signatureHelp),
  ("codeAction/resolve", .checked CodeAction.decode),
  ("textDocument/documentColor", wholeDocument "DocumentColorParams"),
  ("textDocument/colorPresentation", colorPresentation),
  ("textDocument/formatting",
    form "DocumentFormattingParams" [someDocument, need "options" formattingOptions, workDone]),
  ("textDocument/rangeFormatting",
    form "DocumentRangeFormattingParams" [someDocument, need "range" Range.decode,
      need "options" formattingOptions, workDone]),
  ("textDocument/onTypeFormatting",
    form "DocumentOnTypeFormattingParams" [somePlace, need "ch" .string, need "options" formattingOptions]),
  ("textDocument/rename", rename),
  ("textDocument/prepareRename", .record "TextDocumentPositionParams" (place.map fun _ => ())),
  ("textDocument/linkedEditingRange", form "LinkedEditingRangeParams" [somePlace, workDone]),
  ("workspace/symbol", form "WorkspaceSymbolParams" [partialResult, workDone, need "query" .string]),
  ("workspaceSymbol/resolve", workspaceSymbol),
  ("workspace/willCreateFiles", files "CreateFilesParams" "FileCreate" ["uri"]),
  ("workspace/willRenameFiles", files "RenameFilesParams" "FileRename" ["oldUri", "newUri"]),
  ("workspace/willDeleteFiles", files "DeleteFilesParams" "FileDelete" ["uri"]),
  ("workspace/executeCommand", executeCommand)]

end StyleTokens.Params
