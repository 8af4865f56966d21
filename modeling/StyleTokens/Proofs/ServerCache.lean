import StyleTokens.Proofs.ServerRuns
import StyleTokens.Proofs.ThemeListing

namespace StyleTokens

open Completion (augmentItems)
open Workspace (themeItems)

-- Whatever the answer, it lists nothing and the session goes on.
def Query.Quiet (query : Query) : Prop :=
  ∀ answer, Exchange.items ⟨query, answer⟩ = [] ∧ Exchange.isEnd ⟨query, answer⟩ = false

namespace Server

open Text (Position)

-- What a call can do to the cache. Whether a completion lists the theme depends on the documents; if it does not,
-- it is as quiet as any other call.
inductive CacheStep (config : Config) (cache : SessionCache) : ServerCall → SessionCache → Prop where
  | shutdown : CacheStep config cache .shutdown {}
  | listing (uri : Uri) (position : Position) (context : Option CompletionContext) :
      CacheStep config cache (.completion uri position context) (augmentItems config cache (themeItems config)).1
  | quiet {call : ServerCall} (goesOn : call ≠ .shutdown) : CacheStep config cache call cache

variable {config : Config} {server : Server} {cache : SessionCache} {uri : Uri} {position : Position}

theorem ask_tokens (server : Server) (query : Query) :
    (server.ask query).state.tokens =
      Plugin.tokensAfter server.tokens ⟨query, (Workspace.respond server.host query).answer⟩ :=
  Plugin.respond_tokens Workspace.service server query

theorem asked_quiet {queries : List Query} (quiet : ∀ query ∈ queries, query.Quiet) :
    (server.asked queries).tokens = server.tokens := by
  induction queries generalizing server with
  | nil => rfl
  | cons query rest ih =>
    obtain ⟨now, later⟩ := List.forall_mem_cons.mp quiet
    refine (ih later).trans ?_
    exact (ask_tokens server query).trans (Plugin.tokensAfter_quiet _ (now _).1 (now _).2)

theorem quiet_queries {call : ServerCall} (goesOn : call ≠ .shutdown)
    (listsNone : ∀ uri position context, call ≠ .completion uri position context) :
    ∀ query ∈ call.queries, query.Quiet := by
  have none : ∀ query ∈ [], Query.Quiet query := List.forall_mem_nil _
  have one {query : Query} (quiet : query.Quiet) : ∀ other ∈ [query], other.Quiet := List.forall_mem_singleton.mpr quiet
  cases call with
  | shutdown => exact absurd rfl goesOn
  | completion uri position context => exact absurd rfl (listsNone uri position context)
  | diagnostic uri => exact List.forall_mem_cons.mpr ⟨fun _ => ⟨rfl, rfl⟩, one fun _ => ⟨rfl, rfl⟩⟩
  | resolve item =>
    simp only [ServerCall.queries]
    split
    · exact none
    · exact one fun _ => ⟨rfl, rfl⟩
  | codeAction uri range diagnostics => exact one fun _ => ⟨rfl, rfl⟩
  | hover uri position => exact one fun _ => ⟨rfl, rfl⟩
  | _ => exact none

-- The workspace lists the whole theme or nothing.
theorem completions_items (shares : server.Shares config) {offered : CompletionResponse}
    (answered : server.host.completions uri position = some offered) : offered = .array (themeItems config) := by
  simp only [Workspace.completions, shares.2, Option.bind_eq_bind, Option.bind_some] at answered
  obtain ⟨file, -, listed⟩ := Option.bind_eq_some_iff.mp answered
  split at listed
  · split at listed
    · cases listed
    · exact (Option.some.inj listed).symm
  · cases listed

theorem completion_cache (parser : Parser) (enabled : server.tokens = some ⟨config, cache⟩)
    (context : Option CompletionContext) :
    (server.handle parser (.completion uri position context)).state.tokens =
      some ⟨config, (augmentItems config cache
        ((server.host.completions uri position).elim [] CompletionResponse.items)).1⟩ := by
  have asked := ask_tokens server (.completions uri position context)
  rw [enabled] at asked
  refine (handle_tokens parser server _).trans (asked.trans ?_)
  simp [Plugin.tokensAfter, Plugin.cacheAfter, Exchange.isEnd, Exchange.items_completions, Workspace.respond]

theorem handle_cache (parser : Parser) (shares : server.Shares config)
    (enabled : server.tokens = some ⟨config, cache⟩) (call : ServerCall) :
    ∃ after, (server.handle parser call).state.tokens = some ⟨config, after⟩ ∧ CacheStep config cache call after := by
  by_cases lists : ∃ uri position context, call = .completion uri position context
  · obtain ⟨uri, position, context, rfl⟩ := lists
    refine ⟨_, completion_cache parser enabled context, ?_⟩
    cases answered : server.host.completions uri position with
    | none => exact .quiet (by simp)
    | some offered =>
      rw [completions_items shares answered]
      exact .listing uri position context
  · by_cases ends : call = .shutdown
    · subst ends
      refine ⟨{}, ?_, .shutdown⟩
      refine (handle_tokens parser server .shutdown).trans ((ask_tokens server .dispose).trans ?_)
      rw [enabled]
      rfl
    · have quiet := quiet_queries ends fun uri position context same => lists ⟨uri, position, context, same⟩
      refine ⟨cache, ?_, .quiet ends⟩
      rw [handle_tokens, asked_quiet quiet, enabled]

-- Plugin and workspace hold the config, and the cache satisfies the condition.
def Caches (config : Config) (condition : SessionCache → Prop) (server : Server) : Prop :=
  server.Shares config ∧ ∃ cache, server.tokens = some ⟨config, cache⟩ ∧ condition cache

def EmptyOrListed (config : Config) (server : Server) : Prop :=
  server.Caches config fun cache => cache = {} ∨ cache.Lists config

def Listed (config : Config) (server : Server) : Prop := server.Caches config fun cache => cache.Lists config

theorem start_emptyOrListed (config : Config) : (start (some config)).EmptyOrListed config :=
  ⟨start_shares config, {}, rfl, .inl rfl⟩

theorem handle_caches (parser : Parser) {call : ServerCall} {old new : SessionCache → Prop}
    (before : server.Caches config old)
    (step : ∀ {cache after}, old cache → CacheStep config cache call after → new after) :
    (server.handle parser call).state.Caches config new := by
  obtain ⟨shares, cache, enabled, holds⟩ := before
  obtain ⟨after, tokens, stepped⟩ := handle_cache parser shares enabled call
  exact ⟨handle_shares parser shares call, after, tokens, step holds stepped⟩

theorem handle_emptyOrListed (parser : Parser) (server : Server) (call : ServerCall)
    (before : server.EmptyOrListed config) : (server.handle parser call).state.EmptyOrListed config := by
  refine handle_caches parser before fun holds step => ?_
  cases step with
  | shutdown => exact .inl rfl
  | listing => exact .inr (Workspace.lists_themeItems holds)
  | quiet => exact holds

theorem handle_listed (parser : Parser) (server : Server) (call : ServerCall) (before : server.Listed config)
    (goesOn : call ≠ .shutdown) : (server.handle parser call).state.Listed config := by
  refine handle_caches parser before fun holds step => ?_
  cases step with
  | shutdown => exact absurd rfl goesOn
  | listing => exact Workspace.lists_themeItems (.inr holds)
  | quiet => exact holds

theorem run_emptyOrListed (parser : Parser) (config : Config) (calls : List ServerCall) :
    ((start (some config)).run parser calls).EmptyOrListed config :=
  run_preserves parser (EmptyOrListed config) (fun _ => True)
    (fun server call holds _ => handle_emptyOrListed parser server call holds) (start_emptyOrListed config)
    fun _ _ => trivial

theorem run_listed (parser : Parser) (before : server.Listed config) {calls : List ServerCall}
    (goesOn : .shutdown ∉ calls) : (server.run parser calls).Listed config :=
  run_preserves parser (Listed config) (· ≠ .shutdown) (handle_listed parser) before
    fun _ member same => goesOn (same ▸ member)

theorem completion_listed (parser : Parser) (before : server.EmptyOrListed config) {context : Option CompletionContext}
    {offered : CompletionResponse} (answered : server.host.completions uri position = some offered) :
    (server.handle parser (.completion uri position context)).state.Listed config := by
  obtain ⟨shares, cache, enabled, holds⟩ := before
  refine ⟨handle_shares parser shares _, _, completion_cache parser enabled context, ?_⟩
  rw [answered, completions_items shares answered]
  exact Workspace.lists_themeItems holds

end Server

end StyleTokens
