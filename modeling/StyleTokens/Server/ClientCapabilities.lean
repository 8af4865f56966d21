import StyleTokens.Wire.Completion

namespace StyleTokens.ClientCapabilities

open Decoder (form)
open Fields (need may)

def flags (names : List String) : List (Fields Unit) := names.map fun name => may name .bool

def texts : Decoder (List String) := .list .string

def numbers : Decoder (List Int) := .list .int32

def dynamic : Decoder Unit := form "DynamicRegistrationClientCapabilities" (flags ["dynamicRegistration"])

def refresh (name : String) : Decoder Unit := form name (flags ["refreshSupport"])

def resolving (name : String) : Decoder Unit := form name [need "properties" texts]

def tagSupport : Fields Unit :=
  .defaulted "tagSupport" () fun value =>
    match value with
    | .null | .bool _ => .ok ()
    | other => form "TagSupport" [need "valueSet" numbers] other

def symbolKinds : Decoder Unit := form "SymbolKindCapability" [may "valueSet" numbers]

def edits : Decoder Unit :=
  form "WorkspaceEditClientCapabilities" [
    may "documentChanges" .bool,
    may "resourceOperations" (.list (.name ["create", "rename", "delete"])),
    may "failureHandling" (.name ["abort", "transactional", "textOnlyTransactional", "undo"]),
    may "normalizesLineEndings" .bool,
    may "changeAnnotationSupport"
      (form "ChangeAnnotationWorkspaceEditClientCapabilities" (flags ["groupsOnLabel"]))]

def workspace : Decoder Unit :=
  form "WorkspaceClientCapabilities" [
    may "applyEdit" .bool,
    may "workspaceEdit" edits,
    may "didChangeConfiguration" dynamic,
    may "didChangeWatchedFiles"
      (form "DidChangeWatchedFilesClientCapabilities" (flags ["dynamicRegistration", "relativePatternSupport"])),
    may "symbol" (form "WorkspaceSymbolClientCapabilities" [
      may "dynamicRegistration" .bool,
      may "symbolKind" symbolKinds,
      tagSupport,
      may "resolveSupport" (resolving "WorkspaceSymbolResolveSupportCapability")]),
    may "executeCommand" dynamic,
    may "workspaceFolders" .bool,
    may "configuration" .bool,
    may "semanticTokens" (refresh "SemanticTokensWorkspaceClientCapabilities"),
    may "codeLens" (refresh "CodeLensWorkspaceClientCapabilities"),
    may "fileOperations" (form "WorkspaceFileOperationsClientCapabilities" (flags [
      "dynamicRegistration", "didCreate", "willCreate", "didRename", "willRename", "didDelete", "willDelete"])),
    may "inlineValue" (refresh "InlineValueWorkspaceClientCapabilities"),
    may "inlayHint" (refresh "InlayHintWorkspaceClientCapabilities"),
    may "diagnostic" (refresh "DiagnosticWorkspaceClientCapabilities")]

def completion : Decoder Unit :=
  form "CompletionClientCapabilities" [
    may "dynamicRegistration" .bool,
    may "completionItem" (form "CompletionItemCapability" [
      may "snippetSupport" .bool,
      may "commitCharactersSupport" .bool,
      may "documentationFormat" (.list Markup.decodeKind),
      may "deprecatedSupport" .bool,
      may "preselectSupport" .bool,
      tagSupport,
      may "insertReplaceSupport" .bool,
      may "resolveSupport" (resolving "CompletionItemCapabilityResolveSupport"),
      may "insertTextModeSupport" (form "InsertTextModeSupport" [need "valueSet" numbers]),
      may "labelDetailsSupport" .bool]),
    may "completionItemKind" (form "CompletionItemKindCapability" [may "valueSet" numbers]),
    may "contextSupport" .bool,
    may "insertTextMode" .int32,
    may "completionList" (form "CompletionListCapability" [may "itemDefaults" texts])]

def signatureHelp : Decoder Unit :=
  form "SignatureHelpClientCapabilities" [
    may "dynamicRegistration" .bool,
    may "signatureInformation" (form "SignatureInformationSettings" [
      may "documentationFormat" (.list Markup.decodeKind),
      may "parameterInformation" (form "ParameterInformationSettings" (flags ["labelOffsetSupport"])),
      may "activeParameterSupport" .bool]),
    may "contextSupport" .bool]

def documentSymbol : Decoder Unit :=
  form "DocumentSymbolClientCapabilities" [
    may "dynamicRegistration" .bool,
    may "symbolKind" symbolKinds,
    may "hierarchicalDocumentSymbolSupport" .bool,
    tagSupport]

def goto : Decoder Unit := form "GotoCapability" (flags ["dynamicRegistration", "linkSupport"])

def codeAction : Decoder Unit :=
  form "CodeActionClientCapabilities" [
    may "dynamicRegistration" .bool,
    may "codeActionLiteralSupport" (form "CodeActionLiteralSupport" [
      need "codeActionKind" (form "CodeActionKindLiteralSupport" [need "valueSet" texts])]),
    may "isPreferredSupport" .bool,
    may "disabledSupport" .bool,
    may "dataSupport" .bool,
    may "resolveSupport" (resolving "CodeActionCapabilityResolveSupport"),
    may "honorsChangeAnnotations" .bool]

def foldingRange : Decoder Unit :=
  form "FoldingRangeClientCapabilities" [
    may "dynamicRegistration" .bool,
    may "rangeLimit" .word32,
    may "lineFoldingOnly" .bool,
    may "foldingRangeKind" (form "FoldingRangeKindCapability" [
      may "valueSet" (.list (.name ["comment", "imports", "region"]))]),
    may "foldingRange" (form "FoldingRangeCapability" (flags ["collapsedText"]))]

def semanticTokens : Decoder Unit :=
  let full : Decoder Unit := .choice "SemanticTokensFullOptions" [
    .checked .bool, form "SemanticTokensFullOptions" (flags ["delta"])]
  form "SemanticTokensClientCapabilities" [
    may "dynamicRegistration" .bool,
    need "requests" (form "SemanticTokensClientCapabilitiesRequests" [may "range" .bool, may "full" full]),
    need "tokenTypes" texts,
    need "tokenModifiers" texts,
    need "formats" (.list (.name ["relative"])),
    may "overlappingTokenSupport" .bool,
    may "multilineTokenSupport" .bool,
    may "serverCancelSupport" .bool,
    may "augmentsSyntaxTokens" .bool]

def textDocument : Decoder Unit :=
  form "TextDocumentClientCapabilities" [
    may "synchronization" (form "TextDocumentSyncClientCapabilities"
      (flags ["dynamicRegistration", "willSave", "willSaveWaitUntil", "didSave"])),
    may "completion" completion,
    may "hover" (form "HoverClientCapabilities" [
      may "dynamicRegistration" .bool, may "contentFormat" (.list Markup.decodeKind)]),
    may "signatureHelp" signatureHelp,
    may "references" dynamic,
    may "documentHighlight" dynamic,
    may "documentSymbol" documentSymbol,
    may "formatting" dynamic,
    may "rangeFormatting" dynamic,
    may "onTypeFormatting" dynamic,
    may "declaration" goto,
    may "definition" goto,
    may "typeDefinition" goto,
    may "implementation" goto,
    may "codeAction" codeAction,
    may "codeLens" dynamic,
    may "documentLink" (form "DocumentLinkClientCapabilities" (flags ["dynamicRegistration", "tooltipSupport"])),
    may "colorProvider" dynamic,
    may "rename" (form "RenameClientCapabilities" [
      may "dynamicRegistration" .bool,
      may "prepareSupport" .bool,
      may "prepareSupportDefaultBehavior" .int32,
      may "honorsChangeAnnotations" .bool]),
    may "publishDiagnostics" (form "PublishDiagnosticsClientCapabilities" [
      may "relatedInformation" .bool,
      tagSupport,
      may "versionSupport" .bool,
      may "codeDescriptionSupport" .bool,
      may "dataSupport" .bool]),
    may "foldingRange" foldingRange,
    may "selectionRange" (form "SelectionRangeClientCapabilities" (flags ["dynamicRegistration"])),
    may "linkedEditingRange" dynamic,
    may "callHierarchy" dynamic,
    may "semanticTokens" semanticTokens,
    may "moniker" dynamic,
    may "typeHierarchy" dynamic,
    may "inlineValue" dynamic,
    may "inlayHint" (form "InlayHintClientCapabilities" [
      may "dynamicRegistration" .bool,
      may "resolveSupport" (resolving "InlayHintResolveClientCapabilities")]),
    may "diagnostic" (form "DiagnosticClientCapabilities"
      (flags ["dynamicRegistration", "relatedDocumentSupport"]))]

def window : Decoder Unit :=
  form "WindowClientCapabilities" [
    may "workDoneProgress" .bool,
    may "showMessage" (form "ShowMessageRequestClientCapabilities" [
      may "messageActionItem" (form "MessageActionItemCapabilities" (flags ["additionalPropertiesSupport"]))]),
    may "showDocument" (form "ShowDocumentClientCapabilities" [need "support" .bool])]

def general : Decoder Unit :=
  form "GeneralClientCapabilities" [
    may "regularExpressions" (form "RegularExpressionsClientCapabilities" [
      need "engine" .string, may "version" .string]),
    may "markdown" (form "MarkdownClientCapabilities" [
      need "parser" .string, may "version" .string, may "allowedTags" texts]),
    may "staleRequestSupport" (form "StaleRequestSupportClientCapabilities" [
      need "cancel" .bool, need "retryOnContentModified" texts]),
    may "positionEncodings" texts]

def decode : Decoder Unit :=
  form "ClientCapabilities" [
    may "workspace" workspace,
    may "textDocument" textDocument,
    may "window" window,
    may "general" general,
    may "experimental" .any]

end StyleTokens.ClientCapabilities
