import StyleTokens.CompletionItem
import StyleTokens.Diagnostic
import StyleTokens.Log
import StyleTokens.SourceFile

namespace StyleTokens

open Text (Position Range)

structure FormatOptions where
  tabSize : Nat := 0
  insertSpaces : Bool := false
deriving DecidableEq, Repr

structure CompletionContext where
  triggerKind : Int
  triggerCharacter : Option String := none
deriving DecidableEq, Repr

inductive Query where
  | sourceFile (uri : Uri)
  | syntacticDiagnostics (uri : Uri)
  | semanticDiagnostics (uri : Uri)
  | codeFixes (uri : Uri) (range : Range) (codes : List Int) (options : FormatOptions)
  | completions (uri : Uri) (position : Position) (context : Option CompletionContext)
  | entryDetails (uri : Uri) (position : Position) (name : String) (options : FormatOptions)
      (source : Option String) (data : Option Json)
  | quickInfo (uri : Uri) (position : Position)
  | definition (uri : Uri) (position : Position)
  | references (uri : Uri) (position : Position)
  | formatting (uri : Uri) (options : FormatOptions)
  | dispose

@[reducible] def Query.Answer : Query → Type
  | .sourceFile .. => Option SourceFile
  | .syntacticDiagnostics .. => List Diagnostic
  | .semanticDiagnostics .. => List Diagnostic
  | .codeFixes .. => List Fix
  | .completions .. => Option CompletionResponse
  | .entryDetails .. => Option EntryDetails
  | .quickInfo .. => Option Hover
  | .definition .. => Option (List Location)
  | .references .. => Option (List Location)
  | .formatting .. => Option (List TextEdit)
  | .dispose => Unit

structure Outcome (σ α : Type) where
  answer : α
  state : σ
  log : List LogLine := []

structure Service (σ : Type) where
  respond : σ → (query : Query) → Outcome σ query.Answer

namespace Service

def recorded (service : Service σ) : Service (σ × List Query) where
  respond state query :=
    let outcome := service.respond state.1 query
    ⟨outcome.answer, (outcome.state, state.2 ++ [query]), outcome.log⟩

def run (service : Service σ) (state : σ) : List Query → σ × List (Sigma Query.Answer)
  | [] => (state, [])
  | query :: rest =>
    let outcome := service.respond state query
    let (state, answers) := service.run outcome.state rest
    (state, ⟨query, outcome.answer⟩ :: answers)

end Service

end StyleTokens
