import StyleTokens.Config
import StyleTokens.Name.Arbitrary
import StyleTokens.Name.Reference
import StyleTokens.Service
import StyleTokens.TokenPair

namespace StyleTokens

open Text (LineTable Position)

structure Workspace where
  documents : Table SourceFile := ∅
  config : Option Config := none

namespace Workspace

def source : String := "ts"

def file? (workspace : Workspace) (uri : Uri) : Option SourceFile := workspace.documents.get? uri.text

def parsed (parser : Parser) (uri : Uri) (content : String) (version : Int) : SourceFile × List LogLine :=
  let tree := parser (.ofUri uri) content
  (⟨uri, content, version, tree⟩, if tree.isNone then [.warn ("Failed to parse " ++ uri.text)] else [])

def openDocument (parser : Parser) (workspace : Workspace) (uri : Uri) (content : String) (version : Int) :
    Outcome Workspace Unit :=
  let (file, log) := parsed parser uri content version
  ⟨(), { workspace with documents := workspace.documents.insert uri.text file }, log⟩

def updateDocument (parser : Parser) (workspace : Workspace) (uri : Uri) (content : String) (version : Int) :
    Outcome Workspace Unit :=
  match workspace.file? uri with
  | none => ⟨(), workspace, [.warn ("[update_document] Document not open: " ++ uri.text)]⟩
  | some _ => workspace.openDocument parser uri content version

def closeDocument (workspace : Workspace) (uri : Uri) : Workspace :=
  { workspace with documents := workspace.documents.erase uri.text }

def syntaxErrorOf (lines : LineTable) (content : String) (node : SyntaxNode) : Diagnostic :=
  let message := if node.info.isMissing then "'" ++ node.kind ++ "' expected."
    else "Syntax error: " ++ node.text content
  .error (node.range lines) Diagnostic.syntaxError source message

def syntacticDiagnostics (workspace : Workspace) (uri : Uri) : List Diagnostic :=
  match workspace.file? uri with
  | none => []
  | some file =>
    match file.tree with
    | none => []
    | some tree => tree.faults.map (syntaxErrorOf (LineTable.ofText file.content) file.content)

def isAssignableText (config : Config) (text : String) : Bool :=
  Arbitrary.isMarked text || ((Reference.decode? text).bind (·.resolve? config)).isSome

-- Strings are judged by their text, numbers are refused, and all else is typed elsewhere.
def isAssignable (config : Config) (content : String) (value : SyntaxNode) : Bool :=
  match value.literalText? content with
  | some text => isAssignableText config text
  | none => !value.isNumber

def valueError? (config : Config) (lines : LineTable) (content : String) (token : TokenPair) :
    Option Diagnostic := do
  let value ← token.pair.value?
  if isAssignable config content value then none
  else
    some (.error (token.key.range lines) Diagnostic.valueNotAssignable source
      ("Type '" ++ value.text content ++ "' is not assignable to type 'TokenValue'."))

def valueErrors (config : Config) (root : SyntaxNode) (content : String) : List Diagnostic :=
  (TokenPair.ofTree root content).filterMap (valueError? config (LineTable.ofText content) content)

def semanticDiagnostics (workspace : Workspace) (uri : Uri) : List Diagnostic :=
  match workspace.config, workspace.file? uri with
  | some config, some file =>
    match file.tree with
    | none => []
    | some tree => valueErrors config tree file.content
  | _, _ => []

-- The character before the cursor lies in a string that is the value of a pair.
def isInValueString (file : SourceFile) (position : Position) : Bool :=
  match file.tree with
  | none => false
  | some tree =>
    let offset := position.offsetIn file.content - 1
    match (tree.namedAt offset).toLiteral? with
    | none => false
    | some cursor => cursor.node.isString && cursor.isValueOfPair

def themeItems (config : Config) : List CompletionItem :=
  config.theme.entries.flatMap fun (themeKey, tokens) =>
    tokens.keys.map fun token =>
      { label := Reference.encode ⟨themeKey, token⟩, kind := some CompletionItem.valueKind }

def completions (workspace : Workspace) (uri : Uri) (position : Position) : Option CompletionResponse := do
  let config ← workspace.config
  let file ← workspace.file? uri
  if isInValueString file position then
    let items := themeItems config
    if items.isEmpty then none else some (.array items)
  else none

def disposed (workspace : Workspace) : LogLine :=
  .info ("Standalone host disposed with " ++ toString workspace.documents.size ++ " open documents")

def respond (workspace : Workspace) : (query : Query) → Outcome Workspace query.Answer
  | .sourceFile uri => ⟨workspace.file? uri, workspace, []⟩
  | .syntacticDiagnostics uri => ⟨workspace.syntacticDiagnostics uri, workspace, []⟩
  | .semanticDiagnostics uri => ⟨workspace.semanticDiagnostics uri, workspace, []⟩
  | .codeFixes .. => ⟨([] : List Fix), workspace, []⟩
  | .completions uri position _ => ⟨workspace.completions uri position, workspace, []⟩
  | .entryDetails .. => ⟨(none : Option EntryDetails), workspace, []⟩
  | .quickInfo .. => ⟨(none : Option Hover), workspace, []⟩
  | .definition .. => ⟨(none : Option (List Location)), workspace, []⟩
  | .references .. => ⟨(none : Option (List Location)), workspace, []⟩
  | .formatting .. => ⟨(none : Option (List TextEdit)), workspace, []⟩
  | .dispose => ⟨(), workspace, [workspace.disposed]⟩

def service : Service Workspace := ⟨respond⟩

end Workspace

end StyleTokens
