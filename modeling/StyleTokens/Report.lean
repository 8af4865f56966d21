import StyleTokens.Diagnostic
import StyleTokens.Name.Arbitrary
import StyleTokens.TokenPair

namespace StyleTokens.Report

open Text (LineTable Position)

def source : String := "token-lens"

def invalidValueMessage (property : String) : Option String → String
  | some literal =>
    "Value '" ++ literal ++ "' is not a theme token for '" ++ property ++
      "'. Use a theme token or mark it arbitrary with '" ++ Arbitrary.encode literal ++ "'."
  | none => "Grid values are not assignable to '" ++ property ++ "'."

def selectorNotFoundMessage (property : String) : String :=
  "Invalid property '" ++ property ++ "'. Selector not found in theme."

def isValueErrorAt (start : Position) (diagnostic : Diagnostic) : Bool :=
  diagnostic.range.start == start && diagnostic.code == some (.number Diagnostic.valueNotAssignable)

def reword (start : Position) (message : String) : List Diagnostic → List Diagnostic
  | [] => []
  | diagnostic :: rest =>
    if isValueErrorAt start diagnostic then { diagnostic with message } :: rest
    else diagnostic :: reword start message rest

def selectorError? (config : Config) (lines : LineTable) (token : TokenPair) : Option Diagnostic :=
  if (Property.decode? config token.name).isNone then
    some (.error (token.key.range lines) Diagnostic.selectorNotFound source (selectorNotFoundMessage token.name))
  else none

-- What a walk has made so far of the host's report, and the errors it has added.
structure Draft where
  report : List Diagnostic
  added : List Diagnostic := []

def Draft.check (config : Config) (lines : LineTable) (content : String) (draft : Draft) (pair : SyntaxNode) : Draft :=
  match TokenPair.ofPair? content pair with
  | none => draft
  | some token =>
    { report := reword (lines.position pair.start) (invalidValueMessage token.name (token.literal? content)) draft.report
      added := draft.added ++ (selectorError? config lines token).toList }

-- One walk in pre-order does both. Of two pairs at one position the later has the last word.
mutual

def walk (config : Config) (lines : LineTable) (content : String) (draft : Draft) : SyntaxNode → Draft
  | .node info children =>
    let pair : SyntaxNode := .node info children
    walkAll config lines content (if pair.isPair then draft.check config lines content pair else draft) children

def walkAll (config : Config) (lines : LineTable) (content : String) (draft : Draft) : List SyntaxNode → Draft
  | [] => draft
  | first :: rest => walkAll config lines content (walk config lines content draft first) rest

end

def augment (config : Config) (root : SyntaxNode) (content : String) (report : List Diagnostic) :
    List Diagnostic :=
  let draft := walk config (LineTable.ofText content) content { report } root
  draft.report ++ draft.added

end StyleTokens.Report
