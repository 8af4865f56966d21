import Mathlib.Data.Set.Card
import StyleTokens.Completion
import StyleTokens.Proofs.ReferenceCodec

namespace StyleTokens

namespace Table

variable {α : Type}

theorem nodup_keys (table : Table α) : table.keys.Nodup := by
  refine List.pairwise_map.mpr (table.ascending.imp ?_)
  intro one other below same
  rw [same] at below
  exact String.lt_irrefl _ below

theorem mem_keys {table : Table α} {key : String} : key ∈ table.keys ↔ (table.get? key).isSome = true := by
  obtain ⟨entries, sorted⟩ := table
  simp only [keys, get?]
  clear sorted
  induction entries with
  | nil => simp
  | cons head rest ih =>
    rw [List.map_cons, List.mem_cons, lookup_entry, ih]
    by_cases same : key = head.1 <;> simp [same]

theorem size_eq_ncard (table : Table α) : table.size = {key | (table.get? key).isSome = true}.ncard := by
  have found : {key | (table.get? key).isSome = true} = (table.keys.toFinset : Set String) := by
    ext key
    simp [mem_keys]
  rw [found, Set.ncard_coe_finset, List.toFinset_card_of_nodup table.nodup_keys, keys, List.length_map, size]

end Table

namespace Completion

-- What an item says of a token: the theme key and the value, if its label refers to the token under a key
-- where the theme has it.
def entryFor? (config : Config) (token : String) (item : CompletionItem) : Option CacheEntry :=
  match Reference.decode? item.label with
  | none => none
  | some reference =>
    if reference.token = token then
      match config.themeValue? reference.themeKey token with
      | none => none
      | some value => some ⟨reference.themeKey, value⟩
    else none

theorem augmentItem_get? (config : Config) (cache : SessionCache) (item : CompletionItem) (token : String) :
    (augmentItem config cache item).1.get? token = (entryFor? config token item).or (cache.get? token) := by
  unfold augmentItem resolved? entryFor?
  cases Reference.decode? item.label with
  | none => rfl
  | some reference =>
    have inserted (entry : CacheEntry) : (cache.insert reference.token entry).get? token =
        if token = reference.token then some entry else cache.get? token :=
      cache.entries.get?_insert reference.token token entry
    by_cases same : reference.token = token
    · subst same
      cases found : config.themeValue? reference.themeKey reference.token with
      | none => simp [Reference.resolve?, found]
      | some value => simp [Reference.resolve?, found, inserted]
    · cases found : config.themeValue? reference.themeKey reference.token with
      | none => simp [Reference.resolve?, found, same]
      | some value => simp [Reference.resolve?, found, inserted, same, Ne.symm same]

-- The last item that speaks of a token decides; without one the cache is as before.
theorem augmentItems_get? (config : Config) (cache : SessionCache) (items : List CompletionItem) (token : String) :
    (augmentItems config cache items).1.get? token =
      ((items.filterMap (entryFor? config token)).getLast?).or (cache.get? token) := by
  induction items generalizing cache with
  | nil => rfl
  | cons item rest ih =>
    rw [augmentItems]
    simp only [ih, augmentItem_get?, List.filterMap_cons]
    cases entryFor? config token item with
    | none => rfl
    | some entry => cases rest.filterMap (entryFor? config token) <;> simp [List.getLast?_cons]

-- An item as it is shown, which does not depend on the cache.
def shown (config : Config) (item : CompletionItem) : CompletionItem :=
  match resolved? config item.label with
  | some (reference, _) => shorten reference (augmentProperty config item)
  | none => augmentProperty config item

theorem augmentItems_items (config : Config) (cache : SessionCache) (items : List CompletionItem) :
    (augmentItems config cache items).2 = items.map (shown config) := by
  induction items generalizing cache with
  | nil => rfl
  | cons item rest ih =>
    have first : (augmentItem config cache item).2 = shown config item := by
      unfold augmentItem shown
      cases resolved? config item.label <;> rfl
    simp only [augmentItems, ih, first, List.map_cons]

-- The property branch writes two fields.
theorem augmentProperty_eq (config : Config) (item : CompletionItem) :
    ∃ details sortText, augmentProperty config item = { item with labelDetails := details, sortText := some sortText } ∧
      sortText = if (Property.decode? config item.label).isSome = true then "!" ++ item.label else item.label := by
  unfold augmentProperty
  cases Property.decode? config item.label with
  | none => exact ⟨item.labelDetails, item.label, rfl, rfl⟩
  | some property =>
    dsimp only
    cases responsiveDescription? config property with
    | none => exact ⟨item.labelDetails, _, rfl, rfl⟩
    | some description => exact ⟨some { description := some description }, _, rfl, rfl⟩

theorem augmentProperty_label (config : Config) (item : CompletionItem) :
    (augmentProperty config item).label = item.label ∧ (augmentProperty config item).data = item.data := by
  obtain ⟨details, sortText, written, -⟩ := augmentProperty_eq config item
  rw [written]
  exact ⟨rfl, rfl⟩

theorem shown_data (config : Config) (item : CompletionItem) : (shown config item).data = item.data := by
  unfold shown
  split <;> exact (augmentProperty_label config item).2

theorem resolved?_eq_some_iff {config : Config} {label value : String} {reference : Reference} :
    resolved? config label = some (reference, value) ↔
      Reference.decode? label = some reference ∧ reference.resolve? config = some value := by
  constructor
  · intro found
    obtain ⟨decoded, isDecoded, rest⟩ := Option.bind_eq_some_iff.mp found
    obtain ⟨text, resolved, same⟩ := Option.bind_eq_some_iff.mp rest
    obtain ⟨rfl, rfl⟩ := Prod.mk.inj (Option.some.inj same)
    exact ⟨isDecoded, resolved⟩
  · rintro ⟨decoded, resolved⟩
    simp [resolved?, decoded, resolved]

-- Only the label of a reference that the theme resolves is changed, and then to the short name.
theorem shown_label {config : Config} {item : CompletionItem} (shortened : (shown config item).label ≠ item.label) :
    ∃ reference : Reference, ∃ value, reference.Shaped ∧ item.label = reference.encode ∧
      config.themeValue? reference.themeKey reference.token = some value ∧
      (shown config item).label = reference.shortName := by
  unfold shown at shortened ⊢
  split at shortened
  · rename_i reference value found
    obtain ⟨decoded, resolved⟩ := resolved?_eq_some_iff.mp found
    obtain ⟨shaped, encoded⟩ := Reference.shaped_of_decode? decoded
    exact ⟨reference, value, shaped, encoded.symm, resolved, rfl⟩
  · exact absurd (augmentProperty_label config item).1 shortened

end Completion

end StyleTokens
