import Mathlib.Data.List.Sort
import StyleTokens.Proofs.AugmentedItems
import StyleTokens.Proofs.TokenPairs

namespace StyleTokens

-- The same members in ascending order of their keys, and those with one key in the order they had. Texts are compared
-- by code points.
structure StableSort {α : Type} (key : α → String) (list sorted : List α) : Prop where
  perm : sorted.Perm list
  ordered : sorted.Pairwise fun one other => key one ≤ key other
  stable : ∀ member ∈ list, sorted.filter (key · = key member) = list.filter (key · = key member)

-- The stable sort, one member after the other put in its place.
def arranged {α : Type} (key : α → String) (list : List α) : List α :=
  list.insertionSort fun one other => key one ≤ key other

namespace StableSort

variable {α β : Type} {key : α → String} {list sorted one other : List α}

theorem head_le {first a : α} {rest : List α} (ordered : (first :: rest).Pairwise fun one other => key one ≤ key other)
    (member : a ∈ first :: rest) : key first ≤ key a := by
  rcases List.mem_cons.mp member with rfl | later
  · exact String.le_refl _
  · exact (List.pairwise_cons.mp ordered).1 a later

-- By induction on one of two sorted lists: their heads have the least key and lead the ties under it.
theorem eq_of_ties (perm : one.Perm other) (ordered : one.Pairwise fun a b => key a ≤ key b)
    (ordered' : other.Pairwise fun a b => key a ≤ key b)
    (ties : ∀ member ∈ one, one.filter (key · = key member) = other.filter (key · = key member)) : one = other := by
  induction one generalizing other with
  | nil => exact perm.nil_eq
  | cons first rest ih =>
    cases other with
    | nil => exact perm.symm.nil_eq.symm
    | cons first' rest' =>
      have least := head_le ordered (perm.mem_iff.mpr (List.mem_cons_self ..))
      have least' := head_le ordered' (perm.mem_iff.mp (List.mem_cons_self ..))
      have same : key first' = key first := String.le_antisymm least' least
      have leads := ties first (List.mem_cons_self ..)
      rw [List.filter_cons_of_pos (by simp), List.filter_cons_of_pos (by simp [same])] at leads
      obtain ⟨rfl, -⟩ := List.cons.inj leads
      have onward : rest = rest' := by
        refine ih perm.cons_inv (List.pairwise_cons.mp ordered).2 (List.pairwise_cons.mp ordered').2 ?_
        intro member within
        have tied := ties member (List.mem_cons_of_mem _ within)
        by_cases equal : key first = key member
        · rw [List.filter_cons_of_pos (by simp [equal]), List.filter_cons_of_pos (by simp [equal])] at tied
          exact (List.cons.inj tied).2
        · rwa [List.filter_cons_of_neg (by simp [equal]), List.filter_cons_of_neg (by simp [equal])] at tied
      rw [onward]

theorem unique (sort : StableSort key list one) (sort' : StableSort key list other) : one = other := by
  refine eq_of_ties (sort.perm.trans sort'.perm.symm) sort.ordered sort'.ordered ?_
  intro member within
  have among := sort.perm.mem_iff.mp within
  rw [sort.stable member among, sort'.stable member among]

-- Ties are in order before, so they stay a sublist, and there are no more of them after.
theorem arranged_stable (key : α → String) (list : List α) : StableSort key list (arranged key list) := by
  have total : Std.Total fun one other : α => key one ≤ key other := ⟨fun one other => String.le_total _ _⟩
  have trans : IsTrans α fun one other => key one ≤ key other := ⟨fun _ _ _ => String.le_trans⟩
  have perm : (arranged key list).Perm list := List.perm_insertionSort _ list
  refine ⟨perm, List.pairwise_insertionSort _ list, ?_⟩
  intro member within
  have tied : (list.filter (key · = key member)).Pairwise fun one other => key one ≤ key other := by
    apply List.pairwise_of_forall_mem_list
    intro one isTied other isTied'
    have same := of_decide_eq_true (List.mem_filter.mp isTied).2
    have same' := of_decide_eq_true (List.mem_filter.mp isTied').2
    exact (same.trans same'.symm) ▸ String.le_refl (key one)
  have kept := (List.sublist_insertionSort tied List.filter_sublist).filter (key · = key member)
  rw [List.filter_filter] at kept
  simp only [Bool.and_self] at kept
  exact (kept.eq_of_length (perm.symm.filter _).length_eq).symm

theorem map {view : β → α} {list sorted : List β} (sort : StableSort (key ∘ view) list sorted) :
    StableSort key (list.map view) (sorted.map view) where
  perm := sort.perm.map view
  ordered := List.pairwise_map.mpr sort.ordered
  stable := by
    intro member within
    obtain ⟨item, among, rfl⟩ := List.mem_map.mp within
    rw [List.filter_map, List.filter_map]
    exact congrArg (List.map view) (sort.stable item among)

-- Another key that puts the members in the same order.
theorem rekey {key' : α → String} (sort : StableSort key list sorted)
    (agree : ∀ a ∈ list, ∀ b ∈ list, key a ≤ key b ↔ key' a ≤ key' b) : StableSort key' list sorted := by
  have equal : ∀ a ∈ list, ∀ b ∈ list, key a = key b ↔ key' a = key' b := by
    intro a inList b inList'
    constructor
    · intro same
      apply String.le_antisymm
      · exact (agree a inList b inList').mp (same ▸ String.le_refl _)
      · exact (agree b inList' a inList).mp (same ▸ String.le_refl _)
    · intro same
      apply String.le_antisymm
      · exact (agree a inList b inList').mpr (same ▸ String.le_refl _)
      · exact (agree b inList' a inList).mpr (same ▸ String.le_refl _)
  refine ⟨sort.perm, ?_, ?_⟩
  · apply sort.ordered.imp_of_mem
    intro a b inSorted inSorted' before
    exact (agree a (sort.perm.mem_iff.mp inSorted) b (sort.perm.mem_iff.mp inSorted')).mp before
  · intro member within
    have ties {part : List α} (inner : ∀ a ∈ part, a ∈ list) :
        part.filter (key' · = key' member) = part.filter (key · = key member) := by
      apply List.filter_congr
      intro a among
      rw [decide_eq_decide]
      exact (equal a (inner a among) member within).symm
    rw [ties fun a => sort.perm.mem_iff.mp, ties fun a => id, sort.stable member within]

theorem filter_part {chosen : α → Bool} {text : String} (all : ∀ a ∈ list, key a = text → chosen a = true) :
    (list.filter chosen).filter (key · = text) = list.filter (key · = text) := by
  rw [List.filter_filter]
  apply List.filter_congr
  intro a member
  by_cases same : key a = text
  · simp [same, all a member same]
  · simp [same]

-- Two parts, each sorted, where all keys of one are below those of the other. Ties are then on one side only.
theorem append {isFirst : α → Bool} (first : StableSort key (list.filter isFirst) one)
    (second : StableSort key (list.filter (!isFirst ·)) other)
    (below : ∀ a ∈ list, ∀ b ∈ list, isFirst a = true → isFirst b = false → key a < key b) :
    StableSort key list (one ++ other) := by
  have early {a : α} (member : a ∈ one) : a ∈ list ∧ isFirst a = true :=
    List.mem_filter.mp (first.perm.mem_iff.mp member)
  have late {a : α} (member : a ∈ other) : a ∈ list ∧ isFirst a = false := by
    simpa using second.perm.mem_iff.mp member
  have apart : ∀ a ∈ list, ∀ b ∈ list, isFirst a = true → isFirst b = false → key a ≠ key b := by
    intro a inList b inList' isEarly isLate same
    have before := below a inList b inList' isEarly isLate
    rw [same] at before
    exact String.lt_irrefl _ before
  refine ⟨(first.perm.append second.perm).trans (List.filter_append_perm isFirst list), ?_, ?_⟩
  · refine List.pairwise_append.mpr ⟨first.ordered, second.ordered, ?_⟩
    intro a inOne b inOther
    have before := below a (early inOne).1 b (late inOther).1 (early inOne).2 (late inOther).2
    exact String.not_lt.mp (String.lt_asymm before)
  · intro member within
    rw [List.filter_append]
    cases side : isFirst member with
    | true =>
      have none : other.filter (key · = key member) = [] := by
        rw [List.filter_eq_nil_iff]
        intro a inOther
        simpa using (apart member within a (late inOther).1 side (late inOther).2).symm
      rw [none, List.append_nil, first.stable member (by simp [within, side])]
      apply filter_part
      intro a inList same
      by_contra isLate
      exact apart member within a inList side (by simpa using isLate) same.symm
    | false =>
      have none : one.filter (key · = key member) = [] := by
        rw [List.filter_eq_nil_iff]
        intro a inOne
        simpa using apart a (early inOne).1 member within (early inOne).2 side
      rw [none, List.nil_append, second.stable member (by simp [within, side])]
      apply filter_part
      intro a inList same
      by_contra isEarly
      exact apart a inList member within (by simpa using isEarly) side same

end StableSort

-- What an editor sorts an item by.
def CompletionItem.sortKey (item : CompletionItem) : String := item.sortText.getD item.label

namespace Completion

variable {config : Config}

def isProperty (config : Config) (item : CompletionItem) : Bool := (Property.decode? config item.label).isSome

theorem shown_sortText (config : Config) (item : CompletionItem) :
    (shown config item).sortText = some (if isProperty config item then "!" ++ item.label else item.label) := by
  obtain ⟨details, sortText, written, rfl⟩ := augmentProperty_eq config item
  unfold shown
  split
  · rw [written]
    rfl
  · rw [written]
    rfl

theorem sortKey_property {item : CompletionItem} (decodes : isProperty config item = true) :
    (shown config item).sortKey = "!" ++ item.label := by
  rw [CompletionItem.sortKey, shown_sortText, if_pos decodes]
  rfl

theorem sortKey_other {item : CompletionItem} (plain : isProperty config item = false) :
    (shown config item).sortKey = item.label := by
  rw [CompletionItem.sortKey, shown_sortText, plain]
  rfl

theorem toList_marked (text : String) : ("!" ++ text).toList = '!' :: text.toList := by
  rw [String.toList_append]
  rfl

theorem marked_le_marked {one other : String} : "!" ++ one ≤ "!" ++ other ↔ one ≤ other := by
  rw [← String.not_lt, ← String.not_lt, String.lt_iff, String.lt_iff, toList_marked, toList_marked,
    List.cons_lt_cons_iff]
  simp

theorem marked_lt {text other : String} {c : Char} {rest : List Char} (starts : other.toList = c :: rest)
    (above : '!' < c) : "!" ++ text < other := by
  rw [String.lt_iff, toList_marked, starts, List.cons_lt_cons_iff]
  exact .inl above

-- Each part is sorted by the label alone, and the mark keeps the parts apart.
theorem shown_sorted {items first second : List CompletionItem}
    (others : ∀ item ∈ items, Property.decode? config item.label = none →
      ∃ c rest, item.label.toList = c :: rest ∧ '!' < c)
    (properties : StableSort CompletionItem.label (items.filter (isProperty config)) first)
    (rest : StableSort CompletionItem.label (items.filter (!isProperty config ·)) second) :
    StableSort CompletionItem.sortKey (items.map (shown config)) ((first ++ second).map (shown config)) := by
  apply StableSort.map
  apply StableSort.append
  · apply properties.rekey
    intro a member b member'
    rw [Function.comp_apply, Function.comp_apply, sortKey_property (List.mem_filter.mp member).2,
      sortKey_property (List.mem_filter.mp member').2, marked_le_marked]
  · apply rest.rekey
    intro a member b member'
    rw [Function.comp_apply, Function.comp_apply, sortKey_other (by simpa using (List.mem_filter.mp member).2),
      sortKey_other (by simpa using (List.mem_filter.mp member').2)]
  · intro a member b member' decodes plain
    obtain ⟨c, rest, starts, above⟩ := others b member' (by simpa [isProperty] using plain)
    rw [Function.comp_apply, Function.comp_apply, sortKey_property decodes, sortKey_other plain]
    exact marked_lt starts above

-- What an editor makes of an answer. The items of property names come first and then the others, each part by the
-- labels that the host gave and in the host's order where these are the same.
theorem sorted_by_text (config : Config) (cache : SessionCache) (response : CompletionResponse)
    (others : ∀ item ∈ response.items, Property.decode? config item.label = none →
      ∃ c rest, item.label.toList = c :: rest ∧ '!' < c) :
    ∃ answer first second, (augment config cache (some response)).2 = some answer ∧
      answer.items = response.items.map (shown config) ∧ (∀ item ∈ answer.items, item.sortText.isSome = true) ∧
      StableSort CompletionItem.label (response.items.filter (isProperty config)) first ∧
      StableSort CompletionItem.label (response.items.filter (!isProperty config ·)) second ∧
      ∀ sorted, StableSort CompletionItem.sortKey answer.items sorted ↔
        sorted = (first ++ second).map (shown config) := by
  have properties := StableSort.arranged_stable CompletionItem.label (response.items.filter (isProperty config))
  have rest := StableSort.arranged_stable CompletionItem.label (response.items.filter (!isProperty config ·))
  have sort := shown_sorted others properties rest
  have items : (response.withItems (augmentItems config cache response.items).2).items =
      response.items.map (shown config) := by
    rw [augmentItems_items]
    cases response <;> rfl
  refine ⟨_, _, _, rfl, items, ?_, properties, rest, ?_⟩
  · rw [items]
    intro item member
    obtain ⟨own, -, rfl⟩ := List.mem_map.mp member
    rw [shown_sortText]
    rfl
  · rw [items]
    intro sorted
    constructor
    · intro given
      exact given.unique sort
    · intro given
      rw [given]
      exact sort

end Completion

namespace Sample

-- Responsive variants and a theme.
def mixed : Config := { config with theme := .ofList [("color", .ofList [("red", "#f00")])] }

def kinded (label : String) (kind : Int) : CompletionItem := { label, kind := some kind }

def offered : CompletionResponse :=
  .list true [kinded "zoom" 1, kinded "md$b" 2, kinded "$color.red" 3, kinded "xl$a" 4, kinded "md$a" 5, kinded "zoom" 6,
    kinded "$color.tan" 7]

-- The variant of one name is unknown and one reference is not resolved, so both stay where their labels put them.
theorem properties_lead :
    (∀ item ∈ offered.items, Property.decode? mixed item.label = none →
      ∃ c rest, item.label.toList = c :: rest ∧ '!' < c) ∧
    ∃ answer sorted, (Completion.augment mixed {} (some offered)).2 = some answer ∧
      StableSort CompletionItem.sortKey answer.items sorted ∧
      sorted.map (fun item => (item.label, item.kind)) =
        [("md$a", some 5), ("md$b", some 2), ("$red", some 3), ("$color.tan", some 7), ("xl$a", some 4),
          ("zoom", some 1), ("zoom", some 6)] := by
  have others : ∀ item ∈ offered.items, Property.decode? mixed item.label = none →
      ∃ c rest, item.label.toList = c :: rest ∧ '!' < c := by
    intro item member _
    simp only [offered, CompletionResponse.items, List.mem_cons, List.not_mem_nil, or_false] at member
    rcases member with rfl | rfl | rfl | rfl | rfl | rfl | rfl <;> exact ⟨_, _, rfl, by decide⟩
  obtain ⟨answer, first, second, answered, -, -, properties, rest, sorts⟩ :=
    Completion.sorted_by_text mixed {} offered others
  have early := properties.unique (StableSort.arranged_stable _ _)
  have late := rest.unique (StableSort.arranged_stable _ _)
  refine ⟨others, answer, _, answered, (sorts _).mpr rfl, ?_⟩
  rw [early, late]
  decide

end Sample

end StyleTokens
