import StyleTokens.Plugin
import StyleTokens.Wire.Completion
import StyleTokens.Workspace

namespace StyleTokens

open Text (Position Range)

structure Origin where
  uri : Uri
  position : Position
deriving DecidableEq, Repr

namespace Origin

def toJson (origin : Origin) : Json :=
  .object [("uri", origin.uri.toJson), ("position", origin.position.toJson)]

def decode : Decoder Origin :=
  .record "Origin"
    (Origin.mk <$> Fields.required "uri" Uri.decode <*> Fields.required "position" Position.decode)

def ofData? (data : Json) : Option Origin := (decode data).toOption

end Origin

-- A change gives the whole text each time, and the last one counts.
inductive ServerCall where
  | negotiate
  | ready
  | shutdown
  | didOpen (uri : Uri) (text : String) (version : Int)
  | didChange (uri : Uri) (version : Int) (texts : List String)
  | didClose (uri : Uri)
  | diagnostic (uri : Uri)
  | completion (uri : Uri) (position : Position) (context : Option CompletionContext)
  | resolve (item : CompletionItem)
  | codeAction (uri : Uri) (range : Range) (diagnostics : List Diagnostic)
  | hover (uri : Uri) (position : Position)

@[reducible] def ServerCall.Reply : ServerCall → Type
  | .diagnostic .. => List Diagnostic
  | .completion .. => Option CompletionResponse
  | .resolve .. => CompletionItem
  | .codeAction .. => Option (List Fix)
  | .hover .. => Option Hover
  | .negotiate | .ready | .shutdown | .didOpen .. | .didChange .. | .didClose .. => Unit

abbrev Server := Plugin Workspace

structure Handled (α : Type) where
  reply : α
  state : Server
  log : List LogLine := []
  sent : List String := []

namespace Server

def start (config : Option Config) : Server := .withConfig { config } config

def ask (server : Server) (query : Query) : Outcome Server query.Answer :=
  Plugin.respond Workspace.service server query

def edit (server : Server) (change : Workspace → Outcome Workspace Unit) : Outcome Server Unit :=
  let outcome := change server.host
  ⟨(), { server with host := outcome.state }, outcome.log⟩

def greeting (server : Server) : String :=
  if server.isEnabled then "Token Language Server initialized"
  else "Token Language Server initialized without a token config"

-- An item that has data of its own keeps it.
def markOrigin (origin : Origin) (item : CompletionItem) : CompletionItem :=
  { item with data := item.data.or (some origin.toJson) }

def detailText (details : EntryDetails) : String :=
  if details.kindModifiers.isEmpty then details.display
  else details.kindModifiers ++ ": " ++ details.display

def withDetails (item : CompletionItem) : Option EntryDetails → CompletionItem
  | none => item
  | some details =>
    { item with
      detail := some (detailText details)
      documentation := (details.documentation.map .plain).or item.documentation }

def numericCodes (diagnostics : List Diagnostic) : List Int :=
  diagnostics.filterMap fun diagnostic =>
    match diagnostic.code with
    | some (.number code) => some code
    | _ => none

def handle (parser : Parser) (server : Server) : (call : ServerCall) → Handled call.Reply
  | .negotiate => ⟨(), server, [], []⟩
  | .ready => ⟨(), server, [], [server.greeting]⟩
  | .shutdown =>
    let outcome := server.ask .dispose
    ⟨(), outcome.state, outcome.log, []⟩
  | .didOpen uri text version =>
    let outcome := server.edit (·.openDocument parser uri text version)
    ⟨(), outcome.state, .info ("Opened document: " ++ uri.text) :: outcome.log, []⟩
  | .didChange uri version texts =>
    match texts.getLast? with
    | none => ⟨(), server, [], []⟩
    | some text =>
      let outcome := server.edit (·.updateDocument parser uri text version)
      ⟨(), outcome.state, outcome.log, []⟩
  | .didClose uri =>
    let outcome := server.edit fun workspace => ⟨(), workspace.closeDocument uri, []⟩
    ⟨(), outcome.state, .info ("Closed document: " ++ uri.text) :: outcome.log, []⟩
  | .diagnostic uri =>
    let parse := server.ask (.syntacticDiagnostics uri)
    let check := parse.state.ask (.semanticDiagnostics uri)
    let (parseErrors, valueErrors) : List Diagnostic × List Diagnostic := (parse.answer, check.answer)
    ⟨parseErrors ++ valueErrors, check.state, parse.log ++ check.log, []⟩
  | .completion uri position context =>
    let outcome := server.ask (.completions uri position context)
    let answer : Option CompletionResponse := outcome.answer
    match answer with
    | none => ⟨(none : Option CompletionResponse), outcome.state, outcome.log, []⟩
    | some response =>
      let items := response.items.map (markOrigin ⟨uri, position⟩)
      let line := "Returning " ++ toString items.length ++ " completions for " ++ uri.text
      ⟨some (response.withItems items), outcome.state, outcome.log ++ [.debug line], []⟩
  | .resolve item =>
    match item.data.bind Origin.ofData? with
    | none => ⟨item, server, [], []⟩
    | some origin =>
      let outcome := server.ask (.entryDetails origin.uri origin.position item.label {} none item.data)
      ⟨withDetails item outcome.answer, outcome.state, outcome.log, []⟩
  | .codeAction uri range diagnostics =>
    let outcome := server.ask (.codeFixes uri range (numericCodes diagnostics) {})
    let fixes : List Fix := outcome.answer
    ⟨(if fixes.isEmpty then none else some fixes : Option (List Fix)), outcome.state, outcome.log, []⟩
  | .hover uri position =>
    let outcome := server.ask (.quickInfo uri position)
    ⟨outcome.answer, outcome.state, outcome.log, []⟩

def run (parser : Parser) (server : Server) (calls : List ServerCall) : Server :=
  calls.foldl (fun server call => (server.handle parser call).state) server

end Server

end StyleTokens
