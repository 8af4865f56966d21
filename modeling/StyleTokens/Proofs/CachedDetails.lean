import StyleTokens.Proofs.PropertyCodec
import StyleTokens.Proofs.SessionHistory

namespace StyleTokens

namespace Completion

variable {config : Config}

-- One of the items is shown under the label, and was listed under another.
def Gives (config : Config) (items : List CompletionItem) (label : String) : Prop :=
  ∃ item ∈ items, (shown config item).label ≠ item.label ∧ (shown config item).label = label

theorem shortName_ne_encode (reference : Reference) : reference.shortName ≠ reference.encode := by
  intro same
  have lengths := congrArg (fun text => text.toList.length) same
  simp only [Reference.shortName, Reference.toList_encode, String.toList_append, String.toList_singleton,
    List.length_append, List.length_cons, List.length_nil] at lengths
  omega

-- An item that speaks of a token is one that is shown under the short name of the token.
theorem entryFor?_isSome_iff {token : String} {item : CompletionItem} :
    (entryFor? config token item).isSome = true ↔
      (shown config item).label ≠ item.label ∧ (shown config item).label = "$" ++ token := by
  constructor
  · intro speaks
    cases decoded : Reference.decode? item.label with
    | none => simp [entryFor?, decoded] at speaks
    | some reference =>
      by_cases same : reference.token = token
      · subst same
        cases found : config.themeValue? reference.themeKey reference.token with
        | none => simp [entryFor?, decoded, found] at speaks
        | some value =>
          have resolved : resolved? config item.label = some (reference, value) :=
            resolved?_eq_some_iff.mpr ⟨decoded, found⟩
          have short : (shown config item).label = reference.shortName := by
            rw [shown, resolved]
            rfl
          rw [short, ← (Reference.shaped_of_decode? decoded).2]
          exact ⟨shortName_ne_encode reference, rfl⟩
      · simp [entryFor?, decoded, same] at speaks
  · rintro ⟨shortened, label⟩
    obtain ⟨reference, value, shaped, encoded, found, short⟩ := shown_label shortened
    obtain rfl : reference.token = token := Reference.shortName_inj (short.symm.trans label)
    simp [entryFor?, encoded, Reference.decode?_encode, shaped, found]

theorem gives_short_iff {items : List CompletionItem} {token : String} :
    Gives config items ("$" ++ token) ↔ ∃ item ∈ items, (entryFor? config token item).isSome = true := by
  simp only [Gives, entryFor?_isSome_iff]

-- A given label is a mark and a token, which is not empty and holds no mark.
theorem Gives.short {items : List CompletionItem} {label : String} (gives : Gives config items label) :
    ∃ token, label = "$" ++ token ∧ '$' ∉ token.toList ∧ token ≠ "" := by
  obtain ⟨item, -, shortened, rfl⟩ := gives
  obtain ⟨reference, value, shaped, -, -, short⟩ := shown_label shortened
  exact ⟨reference.token, short, shaped.token_unmarked, shaped.token_filled⟩

-- A property begins with a variant, a given label with the mark.
theorem not_gives_property {items : List CompletionItem} {name : String} (isProperty : Property.isName name = true) :
    ¬ Gives config items name := by
  intro gives
  obtain ⟨token, rfl, -, -⟩ := gives.short
  have text : ("$" ++ token).toList = '$' :: token.toList := by simp
  rw [Property.not_isName_of_mark text] at isProperty
  cases isProperty

end Completion

namespace Plugin

open Completion (Gives)

variable {σ : Type}

theorem session_tokens (host : Service σ) (state : σ) (config : Config) (queries : List Query) :
    ∃ cache, (session host state config queries).1.tokens = some ⟨config, cache⟩ ∧
      Remembered config (hostTranscript host state config queries) cache := by
  have view : session host state config queries = (mapHost Prod.fst _, _) :=
    (service_views host.transcribed_views).run (withConfig (state, []) (some config)) queries
  obtain ⟨cache, told, remembered⟩ := session_remembers host state config queries
  refine ⟨cache, ?_, remembered⟩
  rw [view]
  exact told

variable {config : Config} {transcript : List Exchange} {cache : SessionCache}

theorem get?_isSome_iff (remembered : Remembered config transcript cache) (token : String) :
    (cache.get? token).isSome = true ↔ Gives config (listed transcript) ("$" ++ token) := by
  rw [remembered token, Completion.gives_short_iff]
  simp

theorem details?_isSome (cache : SessionCache) (name : String) :
    (cache.details? name).isSome = true ↔
      ∃ token, SessionCache.shortToken? name = some token ∧ (cache.get? token).isSome = true := by
  cases short : SessionCache.shortToken? name with
  | none => simp [SessionCache.details?, short]
  | some token => cases found : cache.get? token <;> simp [SessionCache.details?, short, found]

-- Only what follows the last mark of the name counts, so every text that ends in a given label is answered.
theorem details?_isSome_iff (remembered : Remembered config transcript cache) (name : String) :
    (cache.details? name).isSome = true ↔
      ∃ before label, name = before ++ label ∧ Gives config (listed transcript) label := by
  simp only [details?_isSome, SessionCache.shortToken?_eq_some_iff, get?_isSome_iff remembered]
  constructor
  · rintro ⟨token, ⟨⟨before, rfl⟩, -, -⟩, gives⟩
    exact ⟨before, "$" ++ token, String.append_assoc, gives⟩
  · rintro ⟨before, label, rfl, gives⟩
    obtain ⟨token, rfl, unmarked, filled⟩ := gives.short
    exact ⟨token, ⟨⟨before, String.append_assoc.symm⟩, unmarked, filled⟩, gives⟩

-- Of the texts that end in a given label, the label itself is the one with no mark after its first character.
theorem gives_iff_unmarked {items : List CompletionItem} {before label : String} (gives : Gives config items label) :
    Gives config items (before ++ label) ↔ '$' ∉ (before ++ label).toList.tail := by
  constructor
  · intro whole
    obtain ⟨token, same, unmarked, -⟩ := whole.short
    simpa [same] using unmarked
  · obtain ⟨token, rfl, -, -⟩ := gives.short
    intro unmarked
    cases start : before.toList with
    | nil =>
      have empty : before = "" := String.toList_injective start
      simpa [empty] using gives
    | cons c rest => simp [start] at unmarked

-- What a session answers from its cache, after any operations on any host: the names that end in a label which it
-- has given since its last end. A longer name than the label, such as a property whose last part is a listed
-- token, is answered so as well.
theorem details_of_history (host : Service σ) (state : σ) (config : Config) (queries : List Query) (name : String) :
    ∃ cache, (session host state config queries).1.cache? = some cache ∧
      (∀ uri position options source data,
        (respond host (session host state config queries).1
            (.entryDetails uri position name options source data)).answer =
          (cache.details? name).or (host.respond (session host state config queries).1.host
            (.entryDetails uri position name options source data)).answer) ∧
      ((cache.details? name).isSome = true ↔ ∃ before label, name = before ++ label ∧
        Gives config (listed (hostTranscript host state config queries)) label) ∧
      ((cache.details? name).isSome = true →
        (Gives config (listed (hostTranscript host state config queries)) name ↔ '$' ∉ name.toList.tail)) ∧
      (Property.isName name = true → ¬ Gives config (listed (hostTranscript host state config queries)) name) := by
  obtain ⟨cache, enabled, remembered⟩ := session_tokens host state config queries
  have answered := details?_isSome_iff remembered name
  refine ⟨cache, by simp [cache?, enabled], ?_, answered, ?_, Completion.not_gives_property⟩
  · intro uri position options source data
    simp only [respond, enabled]
    rfl
  · intro cached
    obtain ⟨before, label, rfl, gives⟩ := answered.mp cached
    exact gives_iff_unmarked gives

end Plugin

namespace Sample

def spacedAtMedium : Config :=
  { theme := .ofList [("space", .ofList [("gap", "4px")])], responsive := .ofList [("md", "@media (min-width: 700px)")] }

def mediumGap : EntryDetails := { name := "md$gap", kind := "property", kindModifiers := "", display := "gap at md" }

def gaps : Script := { responses := [.array (labelled ["$space.gap", "md$gap"])], details := some mediumGap }

-- A name of a property is answered from the cache, though the item under it was listed as it stands and the host has
-- details on it: its last part is a token that was listed as well.
theorem property_answered_from_cache :
    (listed (Plugin.hostTranscript scripted gaps spacedAtMedium [stylesListing])).map
        (fun item => (Completion.shown spacedAtMedium item).label) = ["$gap", "md$gap"] ∧
      Property.isName "md$gap" = true ∧
      ¬ Completion.Gives spacedAtMedium (listed (Plugin.hostTranscript scripted gaps spacedAtMedium [stylesListing]))
        "md$gap" ∧
      (Plugin.respond scripted (Plugin.session scripted gaps spacedAtMedium [stylesListing]).1
          (.entryDetails styles ⟨0, 0⟩ "md$gap" {} none none)).answer =
        some { name := "md$gap", kind := "string", kindModifiers := "space", display := "4px" } ∧
      (scripted.respond (Plugin.session scripted gaps spacedAtMedium [stylesListing]).1.host
          (.entryDetails styles ⟨0, 0⟩ "md$gap" {} none none)).answer = some mediumGap := by
  have isProperty : Property.isName "md$gap" = true := by decide
  refine ⟨?_, isProperty, Completion.not_gives_property isProperty, ?_, ?_⟩
  · decide
  · rfl
  · rfl

end Sample

end StyleTokens
