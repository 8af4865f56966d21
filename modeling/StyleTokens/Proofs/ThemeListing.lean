import StyleTokens.Proofs.ByteOrder
import StyleTokens.Proofs.CacheEntries
import StyleTokens.Proofs.ReferenceCodec
import StyleTokens.Workspace

namespace StyleTokens

namespace Table

variable {α : Type}

theorem mem_entries_iff {table : Table α} {key : String} {value : α} :
    (key, value) ∈ table.entries ↔ table.get? key = some value := by
  obtain ⟨entries, sorted⟩ := table
  simp only [get?]
  induction entries with
  | nil => simp
  | cons head rest ih =>
    obtain ⟨above, later⟩ := List.pairwise_cons.mp sorted
    rw [lookup_entry, List.mem_cons]
    by_cases same : key = head.1
    · subst same
      have absent : (head.1, value) ∉ rest := fun among => String.lt_irrefl head.1 (above (head.1, value) among)
      simp [absent, Prod.ext_iff, eq_comm]
    · have other : (key, value) ≠ head := fun whole => same (congrArg Prod.fst whole)
      simp [other, same, ih later]

end Table

-- The theme has the token under this key, and a reference can be written with both.
def Config.Names (config : Config) (themeKey token : String) : Prop :=
  (config.themeValue? themeKey token).isSome = true ∧ Reference.isName (Reference.encode ⟨themeKey, token⟩) = true

-- What is to be remembered of a token: its value under that key which comes last by its bytes, of all keys that
-- name the token.
structure LastEntry (config : Config) (token : String) (entry : CacheEntry) : Prop where
  value : config.themeValue? entry.themeKey token = some entry.tokenValue
  named : Reference.isName (Reference.encode ⟨entry.themeKey, token⟩) = true
  last : ∀ other, config.Names other token → other = entry.themeKey ∨ Text.BytesBefore other entry.themeKey

theorem LastEntry.names {config : Config} {token : String} {entry : CacheEntry} (last : LastEntry config token entry) :
    config.Names entry.themeKey token := ⟨by rw [last.value]; rfl, last.named⟩

theorem LastEntry.eq_of_key {config : Config} {token themeKey value : String} {entry : CacheEntry}
    (last : LastEntry config token entry) (key : entry.themeKey = themeKey)
    (found : config.themeValue? themeKey token = some value) : entry = ⟨themeKey, value⟩ := by
  subst key
  have same := last.value.symm.trans found
  cases entry
  exact congrArg _ (Option.some.inj same)

theorem LastEntry.unique {config : Config} {token : String} {one other : CacheEntry}
    (first : LastEntry config token one) (second : LastEntry config token other) : one = other := by
  have keys : one.themeKey = other.themeKey := by
    rcases second.last _ first.names with same | before
    · exact same
    · rcases first.last _ second.names with same | after
      · exact same.symm
      · exact absurd after before.asymm
  exact first.eq_of_key keys second.value

-- The cache holds exactly these entries.
def SessionCache.Lists (config : Config) (cache : SessionCache) : Prop :=
  ∀ token entry, cache.get? token = some entry ↔ LastEntry config token entry

namespace Workspace

open Completion (entryFor? augmentItems)

-- What one key of the theme says of a token.
def saidUnder? (token : String) (keyed : String × Table String) : Option CacheEntry :=
  if Reference.Shaped ⟨keyed.1, token⟩ then (keyed.2.get? token).map (CacheEntry.mk keyed.1) else none

theorem entryFor?_label (config : Config) (token : String) {item : CompletionItem} {reference : Reference}
    (label : item.label = reference.encode) :
    entryFor? config token item =
      if reference.Shaped ∧ reference.token = token then
        (config.themeValue? reference.themeKey token).map (CacheEntry.mk reference.themeKey)
      else none := by
  rw [entryFor?, label, Reference.decode?_encode]
  by_cases shaped : reference.Shaped
  · by_cases same : reference.token = token
    · cases found : config.themeValue? reference.themeKey token <;> simp [shaped, same, found]
    · simp [shaped, same]
  · simp [shaped]

-- A key lists each of its tokens once, and so speaks of a token once at most.
theorem filterMap_keys {f : String → Option CacheEntry} {keys : List String} (token : String) (nodup : keys.Nodup)
    (own : ∀ key, key ≠ token → f key = none) :
    keys.filterMap f = if token ∈ keys then (f token).toList else [] := by
  induction keys with
  | nil => rfl
  | cons key rest ih =>
    obtain ⟨absent, later⟩ := List.nodup_cons.mp nodup
    rw [List.filterMap_cons, ih later]
    by_cases same : key = token
    · subst same
      cases f key <;> simp [absent]
    · have asked : token ∈ key :: rest ↔ token ∈ rest := by simp [Ne.symm same]
      simp only [own key same, asked]

theorem themeValue?_of_mem {config : Config} {keyed : String × Table String} (among : keyed ∈ config.theme.entries)
    (token : String) : config.themeValue? keyed.1 token = keyed.2.get? token := by
  have found := Table.mem_entries_iff.mp among
  simp [Config.themeValue?, found]

theorem themeItems_entries (config : Config) (token : String) :
    (themeItems config).filterMap (entryFor? config token) = config.theme.entries.filterMap (saidUnder? token) := by
  rw [themeItems, List.filterMap_flatMap, List.filterMap_eq_flatMap_toList]
  refine List.flatMap_congr ?_
  rintro ⟨themeKey, tokens⟩ among
  have value := themeValue?_of_mem among token
  have listed (name : String) := entryFor?_label config token
    (show CompletionItem.label { label := Reference.encode ⟨themeKey, name⟩, kind := some CompletionItem.valueKind } = _
      from rfl)
  rw [List.filterMap_map, filterMap_keys token tokens.nodup_keys]
  · simp only [Function.comp_apply, listed, and_true, value, saidUnder?, Table.mem_keys]
    cases tokens.get? token <;> simp
  · intro name other
    simp [listed, other]

theorem exists_keyed {config : Config} {themeKey token value : String}
    (found : config.themeValue? themeKey token = some value) :
    ∃ tokens, (themeKey, tokens) ∈ config.theme.entries ∧ tokens.get? token = some value := by
  obtain ⟨tokens, under, own⟩ := Option.bind_eq_some_iff.mp found
  exact ⟨tokens, Table.mem_entries_iff.mpr under, own⟩

theorem saidUnder?_eq_some {config : Config} {token : String} {keyed : String × Table String} {entry : CacheEntry}
    (among : keyed ∈ config.theme.entries) :
    saidUnder? token keyed = some entry ↔
      keyed.1 = entry.themeKey ∧ config.themeValue? entry.themeKey token = some entry.tokenValue ∧
        Reference.isName (Reference.encode ⟨entry.themeKey, token⟩) = true := by
  have value := themeValue?_of_mem among token
  rw [Reference.isName_encode, saidUnder?, ← value]
  constructor
  · intro said
    split at said
    · rename_i shaped
      obtain ⟨text, found, rfl⟩ := Option.map_eq_some_iff.mp said
      exact ⟨rfl, found, shaped⟩
    · cases said
  · rintro ⟨key, found, shaped⟩
    rw [key, if_pos shaped, found]
    rfl

-- The keys of the theme ascend, so the last key that says something of a token is the greatest one.
theorem lastEntry_of_getLast? {config : Config} {token : String} {entry : CacheEntry}
    (ends : (config.theme.entries.filterMap (saidUnder? token)).getLast? = some entry) :
    LastEntry config token entry := by
  rw [List.getLast?_filterMap, List.findSome?_eq_some_iff] at ends
  obtain ⟨after, keyed, before, order, said, silent⟩ := ends
  have entries : config.theme.entries = before.reverse ++ keyed :: after.reverse := by
    rw [← List.reverse_reverse config.theme.entries, order]
    simp
  have sorted := config.theme.ascending
  rw [Ascending, entries] at sorted
  have within : keyed ∈ config.theme.entries := by simp [entries]
  obtain ⟨key, value, named⟩ := (saidUnder?_eq_some within).mp said
  refine ⟨value, named, ?_⟩
  rintro other ⟨held, otherNamed⟩
  obtain ⟨text, found⟩ := Option.isSome_iff_exists.mp held
  obtain ⟨tokens, among, -⟩ := exists_keyed found
  have spoken : saidUnder? token (other, tokens) = some ⟨other, text⟩ :=
    (saidUnder?_eq_some among).mpr ⟨rfl, found, otherNamed⟩
  rw [entries, List.mem_append, List.mem_cons] at among
  rcases among with earlier | rfl | later
  · have below := (List.pairwise_append.mp sorted).2.2 _ earlier keyed (by simp)
    rw [key] at below
    exact .inr (Text.bytesBefore_of_lt below)
  · exact .inl key
  · rw [silent _ (List.mem_reverse.mp later)] at spoken
    cases spoken

theorem exists_getLast? {config : Config} {themeKey token : String} (names : config.Names themeKey token) :
    ∃ entry, (config.theme.entries.filterMap (saidUnder? token)).getLast? = some entry := by
  obtain ⟨text, found⟩ := Option.isSome_iff_exists.mp names.1
  obtain ⟨tokens, among, -⟩ := exists_keyed found
  have said : saidUnder? token (themeKey, tokens) = some ⟨themeKey, text⟩ :=
    (saidUnder?_eq_some among).mpr ⟨rfl, found, names.2⟩
  have member := List.mem_filterMap.mpr ⟨_, among, said⟩
  exact ⟨_, List.getLast?_eq_some_getLast (List.ne_nil_of_mem member)⟩

theorem getLast?_entries_iff {config : Config} {token : String} {entry : CacheEntry} :
    (config.theme.entries.filterMap (saidUnder? token)).getLast? = some entry ↔ LastEntry config token entry := by
  constructor
  · exact lastEntry_of_getLast?
  · intro shown
    obtain ⟨found, ends⟩ := exists_getLast? shown.names
    rw [ends, (lastEntry_of_getLast? ends).unique shown]

theorem exists_lastEntry {config : Config} {themeKey token : String} (names : config.Names themeKey token) :
    ∃ entry, LastEntry config token entry := by
  obtain ⟨entry, ends⟩ := exists_getLast? names
  exact ⟨entry, lastEntry_of_getLast? ends⟩

-- Listing the theme fills an empty cache, and leaves a full one as it is.
theorem lists_themeItems {config : Config} {cache : SessionCache} (before : cache = {} ∨ cache.Lists config) :
    (augmentItems config cache (themeItems config)).1.Lists config := by
  intro token entry
  rw [Completion.augmentItems_get?, themeItems_entries, ← getLast?_entries_iff]
  cases ends : (config.theme.entries.filterMap (saidUnder? token)).getLast? with
  | some found => simp
  | none =>
    rcases before with rfl | lists
    · rfl
    · rw [Option.none_or, lists token entry, ← getLast?_entries_iff, ends]

end Workspace

end StyleTokens
