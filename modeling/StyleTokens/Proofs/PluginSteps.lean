import StyleTokens.Plugin
import StyleTokens.Proofs.ServiceRuns

namespace StyleTokens

namespace Query

-- The plugin may change the answer.
def isIntercepted : Query → Bool
  | .semanticDiagnostics _ | .codeFixes .. | .completions .. | .entryDetails .. => true
  | _ => false

-- The document whose source file the plugin may ask for besides.
def consulted? : Query → Option Uri
  | .semanticDiagnostics uri | .codeFixes uri .. => some uri
  | _ => none

end Query

namespace Plugin

variable {σ τ : Type}

-- Whether or not a source file is asked for besides, the plugin's own state stays as it is.
def Consults (host : Service σ) (plugin : Plugin σ) (query : Query) (uri : Uri) (after : Plugin σ) : Prop :=
  after = ⟨(host.respond plugin.host query).state, plugin.tokens⟩ ∨
    after = ⟨(host.respond (host.respond plugin.host query).state (.sourceFile uri)).state, plugin.tokens⟩

theorem Consults.tokens {host : Service σ} {plugin after : Plugin σ} {query : Query} {uri : Uri}
    (consults : Consults host plugin query uri after) : after.tokens = plugin.tokens := by
  rcases consults with rfl | rfl <;> rfl

theorem semanticDiagnostics_consults (host : Service σ) (plugin : Plugin σ) (uri : Uri) :
    Consults host plugin (.semanticDiagnostics uri) uri (plugin.semanticDiagnostics host uri).state := by
  obtain ⟨state, tokens⟩ := plugin
  cases tokens with
  | none => exact .inl rfl
  | some tokens =>
    refine .inr ?_
    simp only [semanticDiagnostics]
    split
    · rfl
    · split <;> rfl

theorem codeFixes_consults (host : Service σ) (plugin : Plugin σ) (uri : Uri) (range : Text.Range)
    (codes : List Int) (options : FormatOptions) :
    Consults host plugin (.codeFixes uri range codes options) uri
      (plugin.codeFixes host uri range codes options).state := by
  simp only [codeFixes]
  split
  · refine .inr ?_
    split <;> rfl
  · exact .inl rfl

-- The fix that takes the place of the host's own, if the source file gives one.
def fixIn? (uri : Uri) (range : Text.Range) (codes : List Int) (found : Option SourceFile) : Option CodeAction :=
  if Diagnostic.valueNotAssignable ∈ codes then
    found.bind fun file => file.tree.bind fun root =>
      ArbitraryFix.actionAt? root file.content uri (range.start.offsetIn file.content)
  else none

theorem codeFixes_answer (host : Service σ) {plugin : Plugin σ} {tokens : TokenState}
    (enabled : plugin.tokens = some tokens) (uri : Uri) (range : Text.Range) (codes : List Int)
    (options : FormatOptions) :
    (plugin.codeFixes host uri range codes options).answer =
      (fixIn? uri range codes (host.respond (host.respond plugin.host (.codeFixes uri range codes options)).state
        (.sourceFile uri)).answer).elim (host.respond plugin.host (.codeFixes uri range codes options)).answer
          fun action => [.action action] := by
  have isEnabled : plugin.isEnabled = true := by rw [Plugin.isEnabled, enabled, Option.isSome_some]
  by_cases coded : Diagnostic.valueNotAssignable ∈ codes
  · simp only [codeFixes, ask, fixIn?, isEnabled, coded, List.contains_iff_mem.mpr coded, Bool.and_self, if_true,
      Option.bind_eq_bind]
    split
    · rename_i action offered
      rw [offered]
      rfl
    · rename_i refused
      rw [refused]
      rfl
  · simp [codeFixes, ask, fixIn?, coded]

-- The host is asked the query itself first, and for a source file after it at most.
theorem respond_host (host : Service σ) (plugin : Plugin σ) (query : Query) :
    (respond host plugin query).state.host = (host.respond plugin.host query).state ∨
      ∃ uri, query.consulted? = some uri ∧ (respond host plugin query).state.host =
        (host.respond (host.respond plugin.host query).state (.sourceFile uri)).state := by
  have hosts {after : Plugin σ} {uri : Uri} (named : query.consulted? = some uri)
      (consults : Consults host plugin query uri after) :
      after.host = (host.respond plugin.host query).state ∨ ∃ uri, query.consulted? = some uri ∧
        after.host = (host.respond (host.respond plugin.host query).state (.sourceFile uri)).state := by
    rcases consults with rfl | rfl
    · exact .inl rfl
    · exact .inr ⟨uri, named, rfl⟩
  cases query with
  | semanticDiagnostics uri => exact hosts rfl (semanticDiagnostics_consults host plugin uri)
  | codeFixes uri range codes options => exact hosts rfl (codeFixes_consults host plugin uri range codes options)
  | completions uri position context =>
    obtain ⟨state, tokens⟩ := plugin
    cases tokens <;> exact .inl rfl
  | entryDetails uri position name options source data =>
    obtain ⟨state, tokens⟩ := plugin
    cases tokens <;> exact .inl rfl
  | dispose => exact .inl rfl
  | sourceFile uri => exact .inl rfl
  | syntacticDiagnostics uri => exact .inl rfl
  | quickInfo uri position => exact .inl rfl
  | definition uri position => exact .inl rfl
  | references uri position => exact .inl rfl
  | formatting uri options => exact .inl rfl

-- Only what the host lists and the end of a session change the cache.
def cacheAfter (config : Config) (cache : SessionCache) (exchange : Exchange) : SessionCache :=
  if exchange.isEnd then {} else (Completion.augmentItems config cache exchange.items).1

-- The plugin's own state after an exchange with the host.
def tokensAfter (tokens : Option TokenState) (exchange : Exchange) : Option TokenState :=
  tokens.map fun tokens => { tokens with cache := cacheAfter tokens.config tokens.cache exchange }

theorem tokensAfter_quiet {exchange : Exchange} (tokens : Option TokenState) (listsNone : exchange.items = [])
    (goesOn : exchange.isEnd = false) : tokensAfter tokens exchange = tokens := by
  cases tokens <;> simp [tokensAfter, cacheAfter, listsNone, goesOn, Completion.augmentItems]

theorem tokensAfter_config (tokens : Option TokenState) (exchange : Exchange) :
    (tokensAfter tokens exchange).map (·.config) = tokens.map (·.config) := by
  simp [tokensAfter, Function.comp_def]

theorem respond_tokens (host : Service σ) (plugin : Plugin σ) (query : Query) :
    (respond host plugin query).state.tokens =
      tokensAfter plugin.tokens ⟨query, (host.respond plugin.host query).answer⟩ := by
  obtain ⟨state, tokens⟩ := plugin
  cases query with
  | semanticDiagnostics uri =>
    rw [tokensAfter_quiet tokens rfl rfl]
    exact (semanticDiagnostics_consults host _ uri).tokens
  | codeFixes uri range codes options =>
    rw [tokensAfter_quiet tokens rfl rfl]
    exact (codeFixes_consults host _ uri range codes options).tokens
  | completions uri position context =>
    cases tokens with
    | none => rfl
    | some tokens =>
      cases answered : (host.respond state (.completions uri position context)).answer <;>
        simp [respond, ask, withCache, tokensAfter, cacheAfter, Exchange.isEnd, Exchange.items_completions,
          Completion.augment, Completion.augmentItems, answered]
  | entryDetails uri position name options source data => cases tokens <;> rfl
  | dispose => rfl
  | sourceFile uri => cases tokens <;> rfl
  | syntacticDiagnostics uri => cases tokens <;> rfl
  | quickInfo uri position => cases tokens <;> rfl
  | definition uri position => cases tokens <;> rfl
  | references uri position => cases tokens <;> rfl
  | formatting uri options => cases tokens <;> rfl

theorem respond_config (host : Service σ) (plugin : Plugin σ) (query : Query) :
    (respond host plugin query).state.config? = plugin.config? := by
  rw [config?, respond_tokens, tokensAfter_config]
  rfl

def mapHost (view : τ → σ) (plugin : Plugin τ) : Plugin σ := ⟨view plugin.host, plugin.tokens⟩

section

variable {view : τ → σ} {outer : Service τ} {inner : Service σ} (views : Service.Views view outer inner)
  (plugin : Plugin τ)

include views

theorem ask_views (query : Query) :
    (plugin.mapHost view).ask inner query = (plugin.ask outer query).mapState (mapHost view) := by
  simp only [ask, mapHost, views plugin.host query, Outcome.mapState]

theorem semanticDiagnostics_views (uri : Uri) :
    (plugin.mapHost view).semanticDiagnostics inner uri =
      (plugin.semanticDiagnostics outer uri).mapState (mapHost view) := by
  have tokens : (plugin.mapHost view).tokens = plugin.tokens := rfl
  simp only [semanticDiagnostics, ask_views views, tokens, Outcome.mapState]
  split
  · rfl
  · split
    · rfl
    · split <;> rfl

theorem codeFixes_views (uri : Uri) (range : Text.Range) (codes : List Int) (options : FormatOptions) :
    (plugin.mapHost view).codeFixes inner uri range codes options =
      (plugin.codeFixes outer uri range codes options).mapState (mapHost view) := by
  have enabled : (plugin.mapHost view).isEnabled = plugin.isEnabled := rfl
  simp only [codeFixes, ask_views views, enabled, Outcome.mapState]
  split
  · split <;> rfl
  · rfl

end

-- The plugin knows its host by its answers alone.
theorem service_views {view : τ → σ} {outer : Service τ} {inner : Service σ}
    (views : Service.Views view outer inner) : Service.Views (mapHost view) (service outer) (service inner) := by
  rintro ⟨state, tokens⟩ query
  have asked := ask_views views
  cases query with
  | semanticDiagnostics uri => exact semanticDiagnostics_views views _ uri
  | codeFixes uri range codes options => exact codeFixes_views views _ uri range codes options
  | completions uri position context =>
    cases tokens with
    | none => exact asked _ _
    | some tokens =>
      simp only [service, respond, asked]
      rfl
  | entryDetails uri position name options source data =>
    cases tokens with
    | none => exact asked _ _
    | some tokens =>
      simp only [service, respond, asked]
      rfl
  | dispose => exact asked (withCache ⟨state, tokens⟩ {}) .dispose
  | sourceFile uri => exact asked _ _
  | syntacticDiagnostics uri => exact asked _ _
  | quickInfo uri position => exact asked _ _
  | definition uri position => exact asked _ _
  | references uri position => exact asked _ _
  | formatting uri options => exact asked _ _

end Plugin

end StyleTokens
