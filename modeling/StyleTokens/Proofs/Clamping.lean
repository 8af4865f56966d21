import Mathlib.Data.Prod.Lex
import Mathlib.Order.Bounds.Basic
import StyleTokens.Proofs.LinePositions

namespace StyleTokens.Text

-- Line and column as unbounded numbers. Places are compared in the lexicographic order of pairs.
def Position.place (p : Position) : Nat × Nat := (p.line.toNat, p.character.toNat)

theorem Position.atMost_iff {p q : Position} : p.AtMost q ↔ toLex p.place ≤ toLex q.place := by
  rw [Prod.Lex.toLex_le_toLex, Position.AtMost, UInt32.lt_iff_toNat_lt, UInt32.le_iff_toNat_le, ← UInt32.toNat_inj]
  rfl

theorem Position.before_iff {p q : Position} : p.Before q ↔ toLex p.place < toLex q.place := by
  rw [Prod.Lex.toLex_lt_toLex, Position.Before, UInt32.lt_iff_toNat_lt, UInt32.lt_iff_toNat_lt, ← UInt32.toNat_inj]
  rfl

-- The end of the shorter of two beginnings of a text is the start of a character in the longer one.
theorem exists_longer {before after longer rest : List Char} (same : before ++ after = longer ++ rest)
    (longerBy : byteLength before < byteLength longer) :
    ∃ c more, longer = before ++ c :: more ∧ after = c :: more ++ rest := by
  rcases List.append_eq_append_iff.mp same with ⟨between, rfl, ends⟩ | ⟨between, rfl, -⟩
  · cases between with
    | nil => simp at longerBy
    | cons c more => exact ⟨c, more, rfl, ends⟩
  · rw [byteLength_append] at longerBy
    omega

theorem charsBefore_least {bound : Nat} {before after : List Char} (reached : bound ≤ byteLength before) :
    byteLength (charsBefore bound (before ++ after)) ≤ byteLength before := by
  by_contra longerBy
  obtain ⟨rest, split⟩ := exists_after bound (before ++ after)
  obtain ⟨c, more, longer, -⟩ := exists_longer split (Nat.lt_of_not_le longerBy)
  exact absurd (starts_before longer) (Nat.not_lt.mpr reached)

theorem lt_advance (place : Nat × Nat) (c : Char) : toLex place < toLex (advance place c) := by
  rw [Prod.Lex.toLex_lt_toLex, advance]
  split
  · exact .inl (Nat.lt_succ_self _)
  · exact .inr ⟨rfl, Nat.lt_add_of_pos_right (unitCount_pos c)⟩

theorem le_foldl_advance (text : List Char) (place : Nat × Nat) : toLex place ≤ toLex (text.foldl advance place) := by
  induction text generalizing place with
  | nil => exact le_refl _
  | cons c rest ih => exact (lt_advance place c).le.trans (ih _)

-- A longer beginning of a text ends at a later place.
theorem placeAfter_lt (before more : List Char) (c : Char) :
    toLex (placeAfter before) < toLex (placeAfter (before ++ c :: more)) := by
  rw [placeAfter, placeAfter, List.foldl_append, List.foldl_cons]
  exact (lt_advance _ c).trans_le (le_foldl_advance more _)

-- As long as the scan is not past the wanted place, it stops exactly where the next character would lead past it.
theorem stops_iff {p : Position} {line column : Nat} (c : Char) (within : toLex (line, column) ≤ toLex p.place) :
    (line = p.line.toNat ∧ (c = '\n' ∨ p.character.toNat < column + unitCount c)) ↔
      toLex p.place < toLex (advance (line, column) c) := by
  rw [Prod.Lex.toLex_le_toLex] at within
  rw [Prod.Lex.toLex_lt_toLex, advance]
  simp only [Position.place] at within ⊢
  by_cases newline : c = '\n'
  · simp only [newline, if_true, true_or, and_true, Nat.not_lt_zero, and_false, or_false]
    omega
  · simp only [newline, if_false, false_or]
    omega

-- What the scan passes ends at or before the wanted place, and with the next character it would not. The
-- induction carries the current line and column.
theorem scan_passes (p : Position) (text : List Char) (line column offset : Nat)
    (within : toLex (line, column) ≤ toLex p.place) :
    ∃ passed left, text = passed ++ left ∧ p.scan line column offset text = offset + byteLength passed ∧
      toLex (passed.foldl advance (line, column)) ≤ toLex p.place ∧
      ∀ c rest, left = c :: rest → toLex p.place < toLex (advance (passed.foldl advance (line, column)) c) := by
  induction text generalizing line column offset with
  | nil => exact ⟨[], [], rfl, rfl, within, fun c rest ends => nomatch ends⟩
  | cons c rest ih =>
    by_cases stops : line = p.line.toNat ∧ (c = '\n' ∨ p.character.toNat < column + unitCount c)
    · refine ⟨[], c :: rest, rfl, by rw [Position.scan, if_pos stops]; rfl, within, ?_⟩
      rintro first more ends
      obtain ⟨rfl, -⟩ := List.cons.inj ends
      exact (stops_iff c within).mp stops
    · have onward : toLex (advance (line, column) c) ≤ toLex p.place :=
        le_of_not_gt fun past => stops ((stops_iff c within).mpr past)
      have goesOn : p.scan line column offset (c :: rest) =
          p.scan (advance (line, column) c).1 (advance (line, column) c).2 (offset + c.utf8Size) rest := by
        rw [Position.scan, if_neg stops, advance]
        split <;> rfl
      obtain ⟨passed, left, rfl, reached, before, next⟩ :=
        ih (advance (line, column) c).1 (advance (line, column) c).2 (offset + c.utf8Size) onward
      exact ⟨c :: passed, left, rfl, by rw [goesOn, reached, byteLength_cons, Nat.add_assoc], before, next⟩

-- The offset of a position is the end of a beginning of the text which does not lead past the position, while
-- every longer beginning does.
theorem offsetIn_passes (p : Position) (text : String) :
    ∃ passed left, text.toList = passed ++ left ∧ p.offsetIn text = byteLength passed ∧
      toLex (placeAfter passed) ≤ toLex p.place ∧
      ∀ longer rest, text.toList = longer ++ rest → byteLength passed < byteLength longer →
        toLex p.place < toLex (placeAfter longer) := by
  have origin : toLex ((0, 0) : Nat × Nat) ≤ toLex p.place := by
    rw [Prod.Lex.toLex_le_toLex, Position.place]
    omega
  obtain ⟨passed, left, split, reached, before, next⟩ := scan_passes p text.toList 0 0 0 origin
  refine ⟨passed, left, split, by rw [Position.offsetIn, reached, Nat.zero_add], before, ?_⟩
  intro longer rest other longerBy
  obtain ⟨c, more, rfl, rfl⟩ := exists_longer (split.symm.trans other) longerBy
  refine (next c _ rfl).trans_le ?_
  rw [placeAfter, List.foldl_append, List.foldl_cons]
  exact le_foldl_advance more _

theorem offsetIn_of_place {p : Position} {text : String} {before after : List Char}
    (split : text.toList = before ++ after) (place : p.place = placeAfter before) :
    p.offsetIn text = byteLength before := by
  obtain ⟨passed, left, parts, reached, within, past⟩ := offsetIn_passes p text
  rw [reached]
  rcases Nat.lt_trichotomy (byteLength passed) (byteLength before) with shorter | same | longerBy
  · have later := past before after split shorter
    rw [place] at later
    exact absurd later (lt_irrefl _)
  · exact same
  · obtain ⟨c, more, rfl, -⟩ := exists_longer (split.symm.trans parts) longerBy
    rw [place] at within
    exact absurd within (placeAfter_lt before more c).not_ge

section

variable {text : String} {before after : List Char}

-- In a text of less than 4 GiB no line or column is cut to 32 bits.
theorem place_of_counts (split : text.toList = before ++ after) (short : byteLength text.toList < UInt32.size) :
    Position.place ⟨(before.count '\n').toUInt32, (unitLength (lastLine before)).toUInt32⟩ = placeAfter before := by
  unfold UInt32.size at short
  have inside : byteLength before ≤ byteLength text.toList := by simp [split]
  have lines : before.count '\n' ≤ byteLength before :=
    Nat.le_trans List.count_le_length (length_le_byteLength before)
  have units : unitLength (lastLine before) ≤ byteLength before := by
    obtain ⟨whole, parts, -, -⟩ := exists_lines before
    have sum := congrArg byteLength parts
    have bound := unitLength_le (lastLine before)
    rw [byteLength_append] at sum
    omega
  rw [placeAfter_eq]
  simp only [Position.place, Nat.toUInt32, UInt32.toNat_ofNat']
  rw [Nat.mod_eq_of_lt (by omega), Nat.mod_eq_of_lt (by omega)]

theorem place_position {offset : Nat} (inside : offset ≤ byteLength text.toList)
    (short : byteLength text.toList < UInt32.size) :
    ((LineTable.ofText text).position offset).place = placeAfter (charsBefore offset text.toList) := by
  obtain ⟨after, split⟩ := exists_after offset text.toList
  rw [LineTable.position_of_inside inside rfl]
  exact place_of_counts split short

theorem place_position_boundary (split : text.toList = before ++ after)
    (short : byteLength text.toList < UInt32.size) :
    ((LineTable.ofText text).position (byteLength before)).place = placeAfter before := by
  rw [place_position (by simp [split]) short, split, charsBefore_boundary]

theorem IsBoundary.le {offset : Nat} (boundary : IsBoundary text.toList offset) : offset ≤ byteLength text.toList := by
  obtain ⟨before, after, split, rfl⟩ := boundary
  simp [split]

-- The way from an offset to a position and back ends at the next boundary.
theorem offsetIn_position {offset : Nat} (inside : offset ≤ byteLength text.toList)
    (short : byteLength text.toList < UInt32.size) :
    ((LineTable.ofText text).position offset).offsetIn text = byteLength (charsBefore offset text.toList) := by
  obtain ⟨after, split⟩ := exists_after offset text.toList
  exact offsetIn_of_place split (place_position inside short)

theorem offsetIn_position_of_boundary {offset : Nat} (boundary : IsBoundary text.toList offset)
    (short : byteLength text.toList < UInt32.size) :
    ((LineTable.ofText text).position offset).offsetIn text = offset := by
  rw [offsetIn_position boundary.le short]
  obtain ⟨before, after, split, rfl⟩ := boundary
  rw [split, charsBefore_boundary]

end

-- Any position leads to the last boundary that is not past it in reading order.
theorem offsetIn_isGreatest (text : String) (p : Position) (short : text.utf8ByteSize < UInt32.size) :
    IsGreatest {b | IsBoundary text.toList b ∧ b ≤ text.utf8ByteSize ∧ ((LineTable.ofText text).position b).AtMost p}
      (p.offsetIn text) := by
  rw [← byteLength_toList] at short ⊢
  obtain ⟨passed, left, split, reached, within, past⟩ := offsetIn_passes p text
  rw [reached]
  constructor
  · refine ⟨⟨passed, left, split, rfl⟩, by simp [split], ?_⟩
    rw [Position.atMost_iff, place_position_boundary split short]
    exact within
  · rintro _ ⟨⟨longer, rest, other, rfl⟩, -, atMost⟩
    rw [Position.atMost_iff, place_position_boundary other short] at atMost
    exact Nat.le_of_not_lt fun longerBy => absurd atMost (past longer rest other longerBy).not_ge

-- A column between the two units of one character, in a line with another character after it.
theorem offsetIn_inside_pair :
    "a😀b\nc".utf8ByteSize < UInt32.size ∧
      IsGreatest {b | IsBoundary "a😀b\nc".toList b ∧ b ≤ "a😀b\nc".utf8ByteSize ∧
        ((LineTable.ofText "a😀b\nc").position b).AtMost ⟨0, 2⟩} 1 := by
  have short : "a😀b\nc".utf8ByteSize < UInt32.size := by decide
  exact ⟨short, offsetIn_isGreatest "a😀b\nc" ⟨0, 2⟩ short⟩

-- From any offset to its position and back: up to the next boundary, and nowhere if the offset is one.
theorem offsetIn_position_isLeast (text : String) (offset : Nat) (short : text.utf8ByteSize < UInt32.size) :
    IsLeast {b | IsBoundary text.toList b ∧ min offset text.utf8ByteSize ≤ b}
        (((LineTable.ofText text).position offset).offsetIn text) ∧
      (IsBoundary text.toList offset → ((LineTable.ofText text).position offset).offsetIn text = offset) ∧
      ((LineTable.ofText text).position text.utf8ByteSize).offsetIn text = text.utf8ByteSize := by
  rw [← byteLength_toList] at short ⊢
  refine ⟨?_, fun boundary => offsetIn_position_of_boundary boundary short,
    offsetIn_position_of_boundary ⟨text.toList, [], by simp, rfl⟩ short⟩
  have inside : min offset (byteLength text.toList) ≤ byteLength text.toList := Nat.min_le_right ..
  rw [← LineTable.position_clamped, offsetIn_position inside short]
  obtain ⟨after, split⟩ := exists_after (min offset (byteLength text.toList)) text.toList
  constructor
  · exact ⟨⟨_, after, split, rfl⟩, le_charsBefore inside⟩
  · rintro _ ⟨⟨before, rest, other, rfl⟩, above⟩
    rw [other] at above ⊢
    exact charsBefore_least above

-- An offset between the bytes of one character, in the second line.
theorem offsetIn_position_inside_char :
    "é\n😀b".utf8ByteSize < UInt32.size ∧
      IsLeast {b | IsBoundary "é\n😀b".toList b ∧ min 5 "é\n😀b".utf8ByteSize ≤ b} 7 := by
  have short : "é\n😀b".utf8ByteSize < UInt32.size := by decide
  exact ⟨short, (offsetIn_position_isLeast "é\n😀b" 5 short).1⟩

end StyleTokens.Text
