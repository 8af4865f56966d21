import StyleTokens.Proofs.DocumentStore
import StyleTokens.Proofs.FixOfReport
import StyleTokens.Proofs.ResolvedItems

namespace StyleTokens

open Text (Position Range)

-- The requests that are answered from one document.
inductive ServerCall.Reads (uri : Uri) : ServerCall → Prop where
  | diagnostic : Reads uri (.diagnostic uri)
  | completion (position : Position) (context : Option CompletionContext) :
      Reads uri (.completion uri position context)
  | codeAction (range : Range) (diagnostics : List Diagnostic) : Reads uri (.codeAction uri range diagnostics)
  | hover (position : Position) : Reads uri (.hover uri position)

namespace Workspace

-- The text that is open under a URI.
def text? (workspace : Workspace) (uri : Uri) : Option String := (workspace.file? uri).map (·.content)

-- The document has the same text and tree in both, or is open in neither. Its version does not count, nor does
-- any other document.
structure AgreeOn (uri : Uri) (one other : Workspace) : Prop where
  config : one.config = other.config
  document : (one.file? uri).map (fun file => (file.content, file.tree)) =
    (other.file? uri).map fun file => (file.content, file.tree)

namespace AgreeOn

variable {uri : Uri} {one other : Workspace} (agree : AgreeOn uri one other)

include agree

theorem files : (one.file? uri = none ∧ other.file? uri = none) ∨
    ∃ content tree own version own' version',
      one.file? uri = some ⟨own, content, version, tree⟩ ∧ other.file? uri = some ⟨own', content, version', tree⟩ := by
  have document := agree.document
  cases found : one.file? uri with
  | none =>
    cases found' : other.file? uri with
    | none => exact .inl ⟨rfl, rfl⟩
    | some file' => simp [found, found'] at document
  | some file =>
    cases found' : other.file? uri with
    | none => simp [found, found'] at document
    | some file' =>
      rw [found, found', Option.map_some, Option.map_some, Option.some.injEq, Prod.mk.injEq] at document
      refine .inr ⟨file.content, file.tree, file.uri, file.version, file'.uri, file'.version, rfl, ?_⟩
      rw [document.1, document.2]

theorem syntacticDiagnostics : one.syntacticDiagnostics uri = other.syntacticDiagnostics uri := by
  rcases agree.files with ⟨closed, closed'⟩ | ⟨content, tree, own, version, own', version', opened, opened'⟩
  · simp only [Workspace.syntacticDiagnostics, closed, closed']
  · simp only [Workspace.syntacticDiagnostics, opened, opened']

theorem semanticDiagnostics : one.semanticDiagnostics uri = other.semanticDiagnostics uri := by
  rcases agree.files with ⟨closed, closed'⟩ | ⟨content, tree, own, version, own', version', opened, opened'⟩
  · simp only [Workspace.semanticDiagnostics, agree.config, closed, closed']
  · simp only [Workspace.semanticDiagnostics, agree.config, opened, opened']
    cases other.config <;> rfl

theorem completions (position : Position) : one.completions uri position = other.completions uri position := by
  rcases agree.files with ⟨closed, closed'⟩ | ⟨content, tree, own, version, own', version', opened, opened'⟩
  · simp only [Workspace.completions, agree.config, closed, closed']
  · simp only [Workspace.completions, agree.config, opened, opened']
    cases other.config <;> rfl

end AgreeOn

end Workspace

namespace Server

theorem completion_reply_disabled (parser : Parser) {server : Server} (disabled : server.tokens = none) {uri : Uri}
    {position : Position} {context : Option CompletionContext} :
    (server.handle parser (.completion uri position context)).reply =
      (server.host.completions uri position).map fun offered =>
        offered.withItems (offered.items.map (markOrigin ⟨uri, position⟩)) := by
  obtain ⟨workspace, tokens⟩ := server
  cases disabled
  cases answered : workspace.completions uri position <;>
    simp [handle, ask, Plugin.respond, Plugin.ask, Workspace.service, Workspace.respond, answered]

-- Nothing is asked of the caches.
structure AgreeOn (uri : Uri) (one other : Server) : Prop where
  config : one.config? = other.config?
  host : Workspace.AgreeOn uri one.host other.host

namespace AgreeOn

variable {uri : Uri} {one other : Server} (agree : AgreeOn uri one other)

include agree

theorem tokens : (one.tokens = none ∧ other.tokens = none) ∨
    ∃ config cache cache', one.tokens = some ⟨config, cache⟩ ∧ other.tokens = some ⟨config, cache'⟩ := by
  have config := agree.config
  unfold Plugin.config? at config
  cases enabled : one.tokens with
  | none =>
    cases enabled' : other.tokens with
    | none => exact .inl ⟨rfl, rfl⟩
    | some tokens' => simp [enabled, enabled'] at config
  | some tokens =>
    cases enabled' : other.tokens with
    | none => simp [enabled, enabled'] at config
    | some tokens' =>
      rw [enabled, enabled', Option.map_some, Option.map_some, Option.some.injEq] at config
      refine .inr ⟨tokens.config, tokens.cache, tokens'.cache, rfl, ?_⟩
      rw [config]

theorem report : Plugin.report one uri = Plugin.report other uri := by
  have own := agree.host.semanticDiagnostics
  unfold Plugin.report
  simp only [Plugin.service, Plugin.respond, Plugin.semanticDiagnostics, Plugin.ask, Workspace.service,
    Workspace.respond]
  rcases agree.tokens with ⟨disabled, disabled'⟩ | ⟨config, cache, cache', enabled, enabled'⟩
  · simp only [disabled, disabled', own]
  · rcases agree.host.files with ⟨closed, closed'⟩ | ⟨content, tree, _, _, _, _, opened, opened'⟩
    · simp only [enabled, enabled', closed, closed', own]
    · simp only [enabled, enabled', opened, opened', own]
      cases tree <;> rfl

theorem codeFixes (range : Range) (codes : List Int) :
    (one.ask (.codeFixes uri range codes {})).answer = (other.ask (.codeFixes uri range codes {})).answer := by
  rcases agree.tokens with ⟨disabled, disabled'⟩ | ⟨config, cache, cache', enabled, enabled'⟩
  · simp [ask, Plugin.respond, Plugin.codeFixes, Plugin.isEnabled, disabled, disabled', Plugin.ask, Workspace.service,
      Workspace.respond]
  · have fixes : Plugin.fixIn? uri range codes (one.host.file? uri) =
        Plugin.fixIn? uri range codes (other.host.file? uri) := by
      rcases agree.host.files with ⟨closed, closed'⟩ | ⟨content, tree, _, _, _, _, opened, opened'⟩
      · rw [closed, closed']
      · rw [opened, opened']
        rfl
    have answer := Plugin.codeFixes_answer Workspace.service enabled uri range codes {}
    have answer' := Plugin.codeFixes_answer Workspace.service enabled' uri range codes {}
    exact answer.trans (Eq.trans (congrArg (Option.elim · _ _) fixes) answer'.symm)

theorem reply (parser : Parser) {call : ServerCall} (reads : call.Reads uri) :
    (one.handle parser call).reply = (other.handle parser call).reply := by
  cases reads with
  | diagnostic => rw [diagnostic_reply, diagnostic_reply, agree.host.syntacticDiagnostics, agree.report]
  | completion position context =>
    rcases agree.tokens with ⟨disabled, disabled'⟩ | ⟨config, cache, cache', enabled, enabled'⟩
    · rw [completion_reply_disabled parser disabled, completion_reply_disabled parser disabled',
        agree.host.completions]
    · rw [completion_reply parser enabled, completion_reply parser enabled', agree.host.completions]
  | codeAction range diagnostics => simp only [handle, agree.codeFixes]
  | hover position => rfl

end AgreeOn

-- The tree is that of the text, so a document is known by its text alone.
theorem Recorded.reading {parser : Parser} {uri : Uri} {calls : List ServerCall} {workspace : Workspace}
    (recorded : Recorded parser uri calls workspace) :
    (workspace.file? uri).map (fun file => (file.content, file.tree)) =
      (workspace.text? uri).map fun text => (text, parser (.ofUri uri) text) := by
  unfold Workspace.text?
  cases found : workspace.file? uri with
  | none => rfl
  | some file =>
    obtain ⟨text, version, -, rfl⟩ := (recorded.latest file).mp found
    rfl

theorem agreeOn_of_text {parser : Parser} (config : Option Config) {calls others : List ServerCall} {uri : Uri}
    (same : (store parser config calls).text? uri = (store parser config others).text? uri) :
    AgreeOn uri ((start config).run parser calls) ((start config).run parser others) := by
  obtain ⟨own, host⟩ := run_configs parser config calls
  obtain ⟨own', host'⟩ := run_configs parser config others
  refine ⟨own.trans own'.symm, host.trans host'.symm, ?_⟩
  have recorded : Recorded parser uri calls (store parser config calls) := store_recorded config calls uri
  have recorded' : Recorded parser uri others (store parser config others) := store_recorded config others uri
  have reading := recorded.reading
  rw [same, ← recorded'.reading] at reading
  exact reading

-- A call that neither edits a document nor lists tokens nor ends the session leaves no trace.
theorem handle_keeps (parser : Parser) (server : Server) {call : ServerCall} (undocumented : call.document? = none)
    (goesOn : call ≠ .shutdown) (listsNone : ∀ uri position context, call ≠ .completion uri position context) :
    (server.handle parser call).state = server := by
  rw [handle_state, Workspace.after_undocumented parser _ undocumented, asked_quiet (quiet_queries goesOn listsNone)]

-- Two sessions that have nothing in common but the text of one document, or that it is open in neither, answer
-- every request on it alike. What was listed before, and where, has no part in the answers, though a completion
-- both fills the cache and is answered. The other requests change nothing at all.
theorem replies_of_open_text (parser : Parser) (config : Option Config) (calls others : List ServerCall)
    (uri : Uri) (same : (store parser config calls).text? uri = (store parser config others).text? uri) :
    (∀ call : ServerCall, call.Reads uri →
      (((start config).run parser calls).handle parser call).reply =
        (((start config).run parser others).handle parser call).reply) ∧
    ∀ server : Server,
      (∀ uri, (server.handle parser (.diagnostic uri)).state = server) ∧
      (∀ uri range diagnostics, (server.handle parser (.codeAction uri range diagnostics)).state = server) ∧
      (∀ uri position, (server.handle parser (.hover uri position)).state = server) ∧
      ∀ item, (server.handle parser (.resolve item)).state = server := by
  have agree := agreeOn_of_text config same
  refine ⟨fun call reads => agree.reply parser reads, fun server => ⟨?_, ?_, ?_, ?_⟩⟩
  · intro uri
    exact handle_keeps parser server rfl (by simp) (by simp)
  · intro uri range diagnostics
    exact handle_keeps parser server rfl (by simp) (by simp)
  · intro uri position
    exact handle_keeps parser server rfl (by simp) (by simp)
  · intro item
    exact handle_keeps parser server rfl (by simp) (by simp)

end Server

namespace Sample

-- The same text comes about by other versions, among other documents, and with tokens listed on the way.
def detour : List ServerCall :=
  [.didOpen page "b" 7, .didOpen uri "x" 4, .completion uri ⟨0, 5⟩ none, .didChange uri 9 ["y", text],
   .completion uri ⟨1, 17⟩ none, .didClose page, .hover uri ⟨0, 0⟩]

theorem detour_unseen :
    (Server.store parser (some themed) [.didOpen uri text 1]).text? uri =
        (Server.store parser (some themed) detour).text? uri ∧
      ((Server.start (some themed)).run parser [.didOpen uri text 1]).cache?.map SessionCache.size = some 0 ∧
      ((Server.start (some themed)).run parser detour).cache?.map SessionCache.size = some 2 ∧
      (((Server.start (some themed)).run parser [.didOpen uri text 1]).handle parser
        (.completion uri ⟨1, 17⟩ none)).reply =
      (((Server.start (some themed)).run parser detour).handle parser (.completion uri ⟨1, 17⟩ none)).reply := by
  have same : (Server.store parser (some themed) [.didOpen uri text 1]).text? uri =
      (Server.store parser (some themed) detour).text? uri := rfl
  obtain ⟨replies, -⟩ :=
    Server.replies_of_open_text parser (some themed) [.didOpen uri text 1] detour uri same
  exact ⟨same, rfl, rfl, replies _ (.completion ⟨1, 17⟩ none)⟩

end Sample

end StyleTokens
