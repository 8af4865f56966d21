namespace StyleTokens

def Ascending (entries : List (String × α)) : Prop := entries.Pairwise fun a b => a.1 < b.1

namespace Table

def insertEntry (key : String) (value : α) : List (String × α) → List (String × α)
  | [] => [(key, value)]
  | (k, v) :: rest =>
    if key < k then (key, value) :: (k, v) :: rest
    else if key = k then (key, value) :: rest
    else (k, v) :: insertEntry key value rest

theorem mem_insertEntry {key : String} {value : α} {entries : List (String × α)} {entry : String × α}
    (h : entry ∈ insertEntry key value entries) : entry = (key, value) ∨ entry ∈ entries := by
  induction entries with
  | nil => simpa [insertEntry] using h
  | cons head rest ih =>
    unfold insertEntry at h
    split at h
    · simpa using h
    · split at h
      · rcases List.mem_cons.mp h with rfl | old
        · exact .inl rfl
        · exact .inr (List.mem_cons_of_mem _ old)
      · rcases List.mem_cons.mp h with rfl | old
        · exact .inr (by simp)
        · exact (ih old).imp id (List.mem_cons_of_mem _)

theorem ascending_insertEntry (key : String) (value : α) {entries : List (String × α)}
    (h : Ascending entries) : Ascending (insertEntry key value entries) := by
  induction entries with
  | nil => exact List.pairwise_singleton _ _
  | cons head rest ih =>
    obtain ⟨above, sorted⟩ := List.pairwise_cons.mp h
    unfold insertEntry
    split
    · rename_i below
      refine List.pairwise_cons.mpr ⟨?_, h⟩
      intro entry member
      rcases List.mem_cons.mp member with rfl | old
      · exact below
      · exact String.lt_trans below (above entry old)
    · split
      · rename_i same
        subst same
        exact List.pairwise_cons.mpr ⟨above, sorted⟩
      · rename_i notBelow notSame
        refine List.pairwise_cons.mpr ⟨?_, ih sorted⟩
        intro entry member
        rcases mem_insertEntry member with rfl | old
        · refine Decidable.byContradiction fun notAbove => notSame ?_
          exact String.le_antisymm (String.not_lt.mp notAbove) (String.not_lt.mp notBelow)
        · exact above entry old

end Table

-- The order of the keys is that of their code points and so also of their UTF-8 bytes.
structure Table (α : Type) where
  entries : List (String × α)
  ascending : Ascending entries

namespace Table

def empty : Table α := ⟨[], .nil⟩

instance : Inhabited (Table α) := ⟨empty⟩
instance : EmptyCollection (Table α) := ⟨empty⟩

instance [DecidableEq α] : DecidableEq (Table α) := fun a b =>
  match decEq a.entries b.entries with
  | isTrue h => isTrue (by cases a; cases b; cases h; rfl)
  | isFalse h => isFalse fun same => h (by rw [same])

def insert (table : Table α) (key : String) (value : α) : Table α :=
  ⟨insertEntry key value table.entries, ascending_insertEntry key value table.ascending⟩

-- Of several pairs with one key the last counts.
def ofList (pairs : List (String × α)) : Table α :=
  pairs.foldl (fun table pair => table.insert pair.1 pair.2) empty

def get? (table : Table α) (key : String) : Option α := table.entries.lookup key

def contains (table : Table α) (key : String) : Bool := (table.get? key).isSome

def erase (table : Table α) (key : String) : Table α :=
  ⟨table.entries.filter (·.1 ≠ key), table.ascending.filter _⟩

def size (table : Table α) : Nat := table.entries.length

def keys (table : Table α) : List String := table.entries.map (·.1)

@[simp] theorem get?_empty (key : String) : (∅ : Table α).get? key = none := rfl

theorem lookup_entry (wanted : String) (entry : String × α) (entries : List (String × α)) :
    (entry :: entries).lookup wanted = if wanted = entry.1 then some entry.2 else entries.lookup wanted := by
  rw [List.lookup_cons]
  by_cases h : wanted = entry.1
  · simp [h]
  · rw [if_neg h, beq_false_of_ne h]

theorem lookup_insertEntry (key wanted : String) (value : α) (entries : List (String × α)) :
    (insertEntry key value entries).lookup wanted =
      if wanted = key then some value else entries.lookup wanted := by
  induction entries with
  | nil => simp [insertEntry, lookup_entry]
  | cons head rest ih =>
    unfold insertEntry
    split
    · rw [lookup_entry]
    · split
      · rename_i same
        rw [lookup_entry, lookup_entry]
        by_cases h : wanted = key <;> simp [← same, h]
      · rename_i notSame
        rw [lookup_entry, ih, lookup_entry]
        by_cases h : wanted = key
        · simp [h, notSame]
        · simp [h]

theorem get?_insert (table : Table α) (key wanted : String) (value : α) :
    (table.insert key value).get? wanted = if wanted = key then some value else table.get? wanted :=
  lookup_insertEntry key wanted value table.entries

theorem get?_erase (table : Table α) (key wanted : String) :
    (table.erase key).get? wanted = if wanted = key then none else table.get? wanted := by
  obtain ⟨entries, sorted⟩ := table
  simp only [get?, erase]
  clear sorted
  induction entries with
  | nil => simp
  | cons head rest ih =>
    by_cases gone : head.1 = key
    · rw [List.filter_cons_of_neg (by simp [gone]), ih, lookup_entry]
      by_cases h : wanted = key <;> simp [h, gone]
    · rw [List.filter_cons_of_pos (by simp [gone]), lookup_entry, ih, lookup_entry]
      by_cases h : wanted = key
      · simp [h, Ne.symm gone]
      · simp [h]

end Table

end StyleTokens
