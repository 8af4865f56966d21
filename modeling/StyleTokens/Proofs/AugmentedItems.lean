import StyleTokens.Proofs.CacheEntries
import StyleTokens.Proofs.PropertyCodec

namespace StyleTokens

def CompletionEdit.newText : CompletionEdit → String
  | .edit change => change.newText
  | .insertReplace newText _ _ => newText

-- What comes into the document when the item is accepted.
def CompletionItem.inserted (item : CompletionItem) : String :=
  match item.textEdit with
  | some edit => edit.newText
  | none => item.insertText.getD item.label

theorem CompletionItem.inserted_edit {item : CompletionItem} {edit : CompletionEdit}
    (edited : item.textEdit = some edit) : item.inserted = edit.newText := by
  rw [inserted, edited]

theorem CompletionItem.inserted_plain {item : CompletionItem} (unedited : item.textEdit = none) :
    item.inserted = item.insertText.getD item.label := by
  rw [inserted, unedited]

theorem Property.not_isName_reference {name : String} (isReference : Reference.isName name = true) :
    Property.isName name = false := by
  obtain ⟨reference, -, rfl⟩ := Reference.isName_iff.mp isReference
  exact Property.not_isName_of_mark (Reference.toList_encode reference)

namespace Completion

variable {config : Config} {item : CompletionItem} {value : String} {reference : Reference}

theorem shown_resolved (found : resolved? config item.label = some (reference, value)) :
    ∃ labelDetails sortText, shown config item = shorten reference { item with labelDetails, sortText } := by
  obtain ⟨details, sortText, written, -⟩ := augmentProperty_eq config item
  refine ⟨details, some sortText, ?_⟩
  rw [shown, found, written]

theorem shown_unresolved (unresolved : resolved? config item.label = none) :
    ∃ labelDetails sortText, shown config item = { item with labelDetails, sortText } := by
  obtain ⟨details, sortText, written, -⟩ := augmentProperty_eq config item
  refine ⟨details, some sortText, ?_⟩
  rw [shown, unresolved, written]

-- What an item may become. The first equation lists all fields that can differ.
structure Augmented (config : Config) (before after : CompletionItem) : Prop where
  kept : after =
    { before with
      label := after.label
      detail := after.detail
      insertText := after.insertText
      labelDetails := after.labelDetails
      sortText := after.sortText }
  shortened : ∀ reference value, Reference.decode? before.label = some reference →
    reference.resolve? config = some value →
    after.label = "$" ++ reference.token ∧ after.detail = some reference.themeKey ∧
      (∀ edit, before.textEdit = some edit → after.textEdit = some edit ∧ after.inserted = edit.newText) ∧
      (before.textEdit = none → after.inserted = before.label ∧ Reference.decode? after.inserted = some reference)
  untouched : (∀ reference, Reference.decode? before.label = some reference → reference.resolve? config = none) →
    after.label = before.label ∧ after.detail = before.detail ∧ after.insertText = before.insertText ∧
      after.inserted = before.inserted
  oneBranch : ¬ (Property.isName before.label = true ∧ Reference.isName before.label = true)

theorem shown_kept (config : Config) (item : CompletionItem) :
    shown config item =
      { item with
        label := (shown config item).label
        detail := (shown config item).detail
        insertText := (shown config item).insertText
        labelDetails := (shown config item).labelDetails
        sortText := (shown config item).sortText } := by
  cases found : resolved? config item.label with
  | none =>
    obtain ⟨details, sortText, written⟩ := shown_unresolved found
    rw [written]
  | some resolved =>
    obtain ⟨details, sortText, written⟩ := shown_resolved found
    rw [written]
    rfl

-- The value branch takes the label as it was before.
theorem inserted_shorten (reference : Reference) {item : CompletionItem} (unedited : item.textEdit = none) :
    (shorten reference item).inserted = item.label := by
  have still : (shorten reference item).textEdit = none := unedited
  rw [CompletionItem.inserted_plain still]
  simp [shorten, unedited]

theorem shown_augmented (config : Config) (item : CompletionItem) : Augmented config item (shown config item) where
  kept := shown_kept config item
  shortened := by
    intro reference value decoded resolved
    obtain ⟨details, sortText, written⟩ := shown_resolved (resolved?_eq_some_iff.mpr ⟨decoded, resolved⟩)
    rw [written]
    refine ⟨rfl, rfl, ?_, ?_⟩
    · intro edit edited
      exact ⟨edited, CompletionItem.inserted_edit edited⟩
    · intro unedited
      rw [inserted_shorten]
      · exact ⟨rfl, decoded⟩
      · exact unedited
  untouched := by
    intro unresolved
    have none : resolved? config item.label = none := by
      rw [Option.eq_none_iff_forall_not_mem]
      rintro ⟨reference, value⟩ found
      obtain ⟨decoded, resolved⟩ := resolved?_eq_some_iff.mp found
      rw [unresolved reference decoded] at resolved
      cases resolved
    obtain ⟨details, sortText, written⟩ := shown_unresolved none
    rw [written]
    exact ⟨rfl, rfl, rfl, rfl⟩
  oneBranch := by
    rintro ⟨isProperty, isReference⟩
    rw [Property.not_isName_reference isReference] at isProperty
    cases isProperty

theorem augmentItems_augmented (config : Config) (cache : SessionCache) (items : List CompletionItem) :
    List.Forall₂ (Augmented config) items (augmentItems config cache items).2 := by
  rw [augmentItems_items]
  induction items with
  | nil => exact .nil
  | cons item rest ih => exact .cons (shown_augmented config item) ih

-- A response keeps its form and its items keep their number and order. No item comes to insert another text, but for
-- a resolved reference without an edit of its own, which comes to insert its full name.
theorem augment_preserves (config : Config) (cache : SessionCache) :
    (augment config cache none).2 = none ∧
    (∀ items, ∃ augmented, (augment config cache (some (.array items))).2 = some (.array augmented) ∧
      List.Forall₂ (Augmented config) items augmented) ∧
    ∀ isIncomplete items, ∃ augmented,
      (augment config cache (some (.list isIncomplete items))).2 = some (.list isIncomplete augmented) ∧
      List.Forall₂ (Augmented config) items augmented := by
  refine ⟨rfl, ?_, ?_⟩
  · intro items
    exact ⟨_, rfl, augmentItems_augmented config cache items⟩
  · intro isIncomplete items
    exact ⟨_, rfl, augmentItems_augmented config cache items⟩

end Completion

end StyleTokens
