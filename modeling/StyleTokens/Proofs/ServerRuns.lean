import StyleTokens.Proofs.PluginSteps
import StyleTokens.Server

namespace StyleTokens

namespace ServerCall

-- The document that a call opens, changes or closes.
def document? : ServerCall → Option Uri
  | .didOpen uri .. | .didChange uri .. | .didClose uri => some uri
  | _ => none

-- What a call asks the plugin, in order.
def queries : ServerCall → List Query
  | .shutdown => [.dispose]
  | .diagnostic uri => [.syntacticDiagnostics uri, .semanticDiagnostics uri]
  | .completion uri position context => [.completions uri position context]
  | .resolve item =>
    match item.data.bind Origin.ofData? with
    | none => []
    | some origin => [.entryDetails origin.uri origin.position item.label {} none item.data]
  | .codeAction uri range diagnostics => [.codeFixes uri range (Server.numericCodes diagnostics) {}]
  | .hover uri position => [.quickInfo uri position]
  | _ => []

end ServerCall

namespace Workspace

variable (parser : Parser) (workspace : Workspace)

-- What a call does to the documents.
def after : ServerCall → Workspace
  | .didOpen uri text version => (workspace.openDocument parser uri text version).state
  | .didChange uri version texts =>
    match texts.getLast? with
    | none => workspace
    | some text => (workspace.updateDocument parser uri text version).state
  | .didClose uri => workspace.closeDocument uri
  | _ => workspace

theorem after_undocumented {call : ServerCall} (undocumented : call.document? = none) :
    workspace.after parser call = workspace := by
  cases call with
  | didOpen uri text version => cases undocumented
  | didChange uri version texts => cases undocumented
  | didClose uri => cases undocumented
  | _ => rfl

theorem after_config (call : ServerCall) : (workspace.after parser call).config = workspace.config := by
  cases call with
  | didChange uri version texts =>
    simp only [after, updateDocument]
    split
    · rfl
    · split <;> rfl
  | _ => rfl

end Workspace

namespace Server

theorem respond_documents (workspace : Workspace) (query : Query) : (workspace.respond query).state = workspace := by
  cases query <;> rfl

-- The workspace answers every query from its documents and keeps them as they are.
theorem ask_host (server : Server) (query : Query) : (server.ask query).state.host = server.host := by
  rcases Plugin.respond_host Workspace.service server query with own | ⟨uri, -, besides⟩
  · exact own.trans (respond_documents _ query)
  · exact besides.trans ((respond_documents _ (.sourceFile uri)).trans (respond_documents _ query))

def asked (server : Server) (queries : List Query) : Server :=
  ((Plugin.service Workspace.service).run server queries).1

theorem asked_host (server : Server) (queries : List Query) : (server.asked queries).host = server.host := by
  have step : ∀ (state : Server) (query : Query), state.host = server.host →
      ((Plugin.service Workspace.service).respond state query).state.host = server.host :=
    fun state query same => (ask_host state query).trans same
  exact Service.run_preserves step rfl queries

theorem asked_config (server : Server) (queries : List Query) : (server.asked queries).config? = server.config? := by
  have step : ∀ (state : Server) (query : Query), state.config? = server.config? →
      ((Plugin.service Workspace.service).respond state query).state.config? = server.config? :=
    fun state query same => (Plugin.respond_config Workspace.service state query).trans same
  exact Service.run_preserves step rfl queries

-- All that a call does: the plugin comes to the state in which its queries leave it, and the documents are edited.
theorem handle_state (parser : Parser) (server : Server) (call : ServerCall) :
    (server.handle parser call).state = ⟨server.host.after parser call, (server.asked call.queries).tokens⟩ := by
  have asks (queries : List Query) : server.asked queries = ⟨server.host, (server.asked queries).tokens⟩ := by
    rw [← asked_host server queries]
  cases call with
  | negotiate => rfl
  | ready => rfl
  | shutdown => exact asks [.dispose]
  | didOpen uri text version => rfl
  | didChange uri version texts =>
    simp only [handle, Workspace.after]
    cases texts.getLast? <;> rfl
  | didClose uri => rfl
  | diagnostic uri => exact asks [.syntacticDiagnostics uri, .semanticDiagnostics uri]
  | completion uri position context =>
    have completes := asks [.completions uri position context]
    simp only [handle]
    split <;> exact completes
  | resolve item =>
    simp only [handle, ServerCall.queries]
    cases item.data.bind Origin.ofData? with
    | none => rfl
    | some origin => exact asks [.entryDetails origin.uri origin.position item.label {} none item.data]
  | codeAction uri range diagnostics => exact asks [.codeFixes uri range (numericCodes diagnostics) {}]
  | hover uri position => exact asks [.quickInfo uri position]

theorem handle_host (parser : Parser) (server : Server) (call : ServerCall) :
    (server.handle parser call).state.host = server.host.after parser call := by
  rw [handle_state]

theorem handle_tokens (parser : Parser) (server : Server) (call : ServerCall) :
    (server.handle parser call).state.tokens = (server.asked call.queries).tokens := by
  rw [handle_state]

-- The plugin and the workspace hold this config.
def Shares (config : Config) (server : Server) : Prop :=
  server.config? = some config ∧ server.host.config = some config

theorem start_shares (config : Config) : (start (some config)).Shares config := ⟨rfl, rfl⟩

theorem handle_configs (parser : Parser) (server : Server) (call : ServerCall) :
    (server.handle parser call).state.config? = server.config? ∧
      (server.handle parser call).state.host.config = server.host.config := by
  refine ⟨?_, ?_⟩
  · rw [Plugin.config?, handle_tokens]
    exact asked_config server call.queries
  · rw [handle_host, Workspace.after_config]

theorem handle_shares (parser : Parser) {config : Config} {server : Server} (shares : server.Shares config)
    (call : ServerCall) : (server.handle parser call).state.Shares config := by
  obtain ⟨own, host⟩ := handle_configs parser server call
  exact ⟨own.trans shares.1, host.trans shares.2⟩

-- What every allowed call keeps, a run of allowed calls keeps.
theorem run_preserves (parser : Parser) (Holds : Server → Prop) (Allowed : ServerCall → Prop)
    (step : ∀ server call, Holds server → Allowed call → Holds (server.handle parser call).state) {server : Server}
    (holds : Holds server) {calls : List ServerCall} (allowed : ∀ call ∈ calls, Allowed call) :
    Holds (server.run parser calls) := by
  induction calls generalizing server with
  | nil => exact holds
  | cons call rest ih =>
    have next := step server call holds (allowed call List.mem_cons_self)
    exact ih next fun later member => allowed later (List.mem_cons_of_mem _ member)

theorem run_append (parser : Parser) (server : Server) (first last : List ServerCall) :
    server.run parser (first ++ last) = (server.run parser first).run parser last := List.foldl_append

theorem run_shares (parser : Parser) {config : Config} {server : Server} (shares : server.Shares config)
    (calls : List ServerCall) : (server.run parser calls).Shares config :=
  run_preserves parser (Shares config) (fun _ => True) (fun _ call holds _ => handle_shares parser holds call) shares
    fun _ _ => trivial

-- Both hold the config they started with, or none if they started without.
theorem run_configs (parser : Parser) (config : Option Config) (calls : List ServerCall) :
    ((start config).run parser calls).config? = config ∧ ((start config).run parser calls).host.config = config := by
  refine run_preserves parser (fun server => server.config? = config ∧ server.host.config = config) (fun _ => True)
    ?_ ?_ fun _ _ => trivial
  · intro server call holds _
    obtain ⟨own, host⟩ := handle_configs parser server call
    exact ⟨own.trans holds.1, host.trans holds.2⟩
  · cases config <;> exact ⟨rfl, rfl⟩

-- Some calls lead here from the start.
def Reachable (parser : Parser) (config : Config) (server : Server) : Prop :=
  ∃ calls, (start (some config)).run parser calls = server

theorem Reachable.shares {parser : Parser} {config : Config} {server : Server}
    (reachable : server.Reachable parser config) : server.Shares config := by
  obtain ⟨calls, rfl⟩ := reachable
  exact run_shares parser (start_shares config) calls

end Server

end StyleTokens
