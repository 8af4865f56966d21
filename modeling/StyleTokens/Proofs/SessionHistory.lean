import Mathlib.Data.List.DropRight
import StyleTokens.Proofs.CacheEntries
import StyleTokens.Proofs.PluginSteps

namespace StyleTokens

open Completion (entryFor?)

-- All items listed since the last end of a session, in the order in which the host listed them.
def listed (transcript : List Exchange) : List CompletionItem :=
  (transcript.rtakeWhile fun exchange => !exchange.isEnd).flatMap Exchange.items

theorem listed_concat (transcript : List Exchange) (exchange : Exchange) :
    listed (transcript ++ [exchange]) = if exchange.isEnd then [] else listed transcript ++ exchange.items := by
  rw [listed, List.rtakeWhile_concat]
  cases exchange.isEnd <;> simp [listed]

namespace Plugin

variable {σ : Type}

-- A source file is asked for besides at most, and nothing is listed by that.
theorem respond_listed (host : Service σ) (plugin : Plugin (σ × List Exchange)) (query : Query) :
    listed (respond host.transcribed plugin query).state.host.2 =
      listed (plugin.host.2 ++ [⟨query, (host.respond plugin.host.1 query).answer⟩]) := by
  rcases respond_host host.transcribed plugin query with own | ⟨uri, -, besides⟩
  · rw [own]
    rfl
  · rw [besides]
    refine (listed_concat _ _).trans ?_
    simp [Exchange.isEnd, Exchange.items, Service.transcribed]

-- The last of the listed items that speaks of a token gives its entry; a token of no item has none.
def Remembered (config : Config) (transcript : List Exchange) (cache : SessionCache) : Prop :=
  ∀ token, cache.get? token = ((listed transcript).filterMap (entryFor? config token)).getLast?

theorem cacheAfter_remembered {config : Config} {transcript : List Exchange} {cache : SessionCache}
    (remembered : Remembered config transcript cache) (exchange : Exchange) :
    Remembered config (transcript ++ [exchange]) (cacheAfter config cache exchange) := by
  intro token
  rw [cacheAfter, listed_concat]
  split
  · rfl
  · rw [Completion.augmentItems_get?, remembered token, List.filterMap_append, List.getLast?_append]

def Remembers (config : Config) (plugin : Plugin (σ × List Exchange)) : Prop :=
  ∃ cache, plugin.tokens = some ⟨config, cache⟩ ∧ Remembered config plugin.host.2 cache

theorem respond_remembers (host : Service σ) {config : Config} (plugin : Plugin (σ × List Exchange)) (query : Query)
    (remembers : Remembers config plugin) : Remembers config (respond host.transcribed plugin query).state := by
  obtain ⟨cache, enabled, remembered⟩ := remembers
  refine ⟨cacheAfter config cache ⟨query, (host.respond plugin.host.1 query).answer⟩, ?_, ?_⟩
  · rw [respond_tokens, enabled]
    rfl
  · unfold Remembered
    rw [respond_listed]
    exact cacheAfter_remembered remembered _

-- A session from its start, on a host in any state.
def session (host : Service σ) (state : σ) (config : Config) (queries : List Query) : Plugin σ × List Exchange :=
  (service host).run (withConfig state (some config)) queries

-- What the host was asked in a session, and what it answered.
def hostTranscript (host : Service σ) (state : σ) (config : Config) (queries : List Query) : List Exchange :=
  (session host.transcribed (state, []) config queries).1.host.2

theorem session_remembers (host : Service σ) (state : σ) (config : Config) (queries : List Query) :
    Remembers config (session host.transcribed (state, []) config queries).1 :=
  Service.run_preserves (respond_remembers host) ⟨{}, rfl, fun _ => rfl⟩ queries

theorem remembered_size {config : Config} {transcript : List Exchange} {cache : SessionCache}
    (remembered : Remembered config transcript cache) :
    cache.size = {token | ∃ item ∈ listed transcript, (entryFor? config token item).isSome = true}.ncard := by
  have tokens : {token | (cache.get? token).isSome = true} =
      {token | ∃ item ∈ listed transcript, (entryFor? config token item).isSome = true} := by
    ext token
    simp [remembered token]
  rw [← tokens]
  exact cache.entries.size_eq_ncard

-- After any operations on any host the cache is read off the host's answers alone. That the transcript is of
-- this very session is the first part: keeping it changes neither the state nor an answer.
theorem cache_of_history (host : Service σ) (state : σ) (config : Config) (queries : List Query) :
    session host state config queries =
        ((session host.transcribed (state, []) config queries).1.mapHost Prod.fst,
          (session host.transcribed (state, []) config queries).2) ∧
      (session host state config queries).1.config? = some config ∧
      ∃ cache, (session host state config queries).1.cache? = some cache ∧
        (∀ token, cache.get? token =
          ((listed (hostTranscript host state config queries)).filterMap (entryFor? config token)).getLast?) ∧
        cache.size = {token | ∃ item ∈ listed (hostTranscript host state config queries),
          (entryFor? config token item).isSome = true}.ncard ∧
        ∀ query, (∃ uri position context, query = .completions uri position context) ∨ query = .dispose ∨
          (respond host (session host state config queries).1 query).state.cache? = some cache := by
  have view : session host state config queries = (mapHost Prod.fst _, _) :=
    (service_views host.transcribed_views).run (withConfig (state, []) (some config)) queries
  obtain ⟨cache, told, remembered⟩ := session_remembers host state config queries
  have enabled : (session host state config queries).1.tokens = some ⟨config, cache⟩ := by
    rw [view]
    exact told
  refine ⟨view, by simp [config?, enabled], cache, by simp [cache?, enabled], remembered,
    remembered_size remembered, ?_⟩
  intro query
  by_cases lists : ∃ uri position context, query = .completions uri position context
  · exact .inl lists
  by_cases ends : query = .dispose
  · exact .inr (.inl ends)
  refine .inr (.inr ?_)
  obtain ⟨listsNone, goesOn⟩ := Exchange.quiet
    ⟨query, (host.respond (session host state config queries).1.host query).answer⟩
    (fun uri position context same => lists ⟨uri, position, context, same⟩) ends
  rw [cache?, respond_tokens, tokensAfter_quiet _ listsNone goesOn, enabled]
  rfl

end Plugin

namespace Sample

def styles : Uri :=
  ⟨⟨"file:///project/src/styles.ts", "/project/src/styles.ts"⟩, "file:///project/src/styles.ts", rfl⟩

-- A host that lists what its script holds, one response for each request, and has the same details on everything.
structure Script where
  responses : List CompletionResponse
  details : Option EntryDetails := none

def scripted : Service Script where
  respond script query :=
    match query with
    | .completions .. => ⟨script.responses.head?, { script with responses := script.responses.tail }, []⟩
    | .entryDetails .. => ⟨script.details, script, []⟩
    | .sourceFile _ => ⟨none, script, []⟩
    | .syntacticDiagnostics _ => ⟨[], script, []⟩
    | .semanticDiagnostics _ => ⟨[], script, []⟩
    | .codeFixes .. => ⟨[], script, []⟩
    | .quickInfo .. => ⟨none, script, []⟩
    | .definition .. => ⟨none, script, []⟩
    | .references .. => ⟨none, script, []⟩
    | .formatting .. => ⟨none, script, []⟩
    | .dispose => ⟨(), script, []⟩

def labelled (labels : List String) : List CompletionItem := labels.map ({ label := · })

def colors : Config :=
  { theme := .ofList [("color", .ofList [("blue", "#00f"), ("green", "#0f0"), ("red", "#f00")]),
      ("text", .ofList [("red", "crimson")])] }

def listings : Script :=
  { responses := [.array (labelled ["$color.green", "$color.red"]),
      .list true (labelled ["$color.red", "plain", "$color.grey", "$color.blue"]), .array (labelled ["$text.red"])] }

def stylesListing : Query := .completions styles ⟨0, 0⟩ none

-- One token is listed before the end only, one in a list, and one in a list and then under another key in an array.
def listingsOverEnd : List Query :=
  [stylesListing, .dispose, stylesListing, .semanticDiagnostics styles, stylesListing, stylesListing]

theorem tokens_listed_since_end :
    (listed (Plugin.hostTranscript scripted listings colors listingsOverEnd)).map (·.label) =
        ["$color.red", "plain", "$color.grey", "$color.blue", "$text.red"] ∧
      ∃ cache, (Plugin.session scripted listings colors listingsOverEnd).1.cache? = some cache ∧
        cache.get? "red" = some ⟨"text", "crimson"⟩ ∧ cache.get? "blue" = some ⟨"color", "#00f"⟩ ∧
        cache.get? "green" = none ∧ cache.get? "grey" = none ∧ cache.size = 2 := by
  obtain ⟨-, -, cache, held, entries, -, -⟩ := Plugin.cache_of_history scripted listings colors listingsOverEnd
  refine ⟨by decide, cache, held, ?_, ?_, ?_, ?_, ?_⟩
  · rw [entries]
    decide
  · rw [entries]
    decide
  · rw [entries]
    decide
  · rw [entries]
    decide
  · cases held
    decide

end Sample

end StyleTokens
