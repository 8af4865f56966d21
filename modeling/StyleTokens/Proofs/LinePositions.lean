import Mathlib.Data.List.Induction
import StyleTokens.Text.Position

namespace StyleTokens.Text

-- A line and a column without a bound of 32 bits, moved over one character.
def advance (place : Nat × Nat) (c : Char) : Nat × Nat :=
  if c = '\n' then (place.1 + 1, 0) else (place.1, place.2 + unitCount c)

-- The place behind a text, by one plain scan. Both directions of the conversion are compared with it.
def placeAfter (text : List Char) : Nat × Nat := text.foldl advance (0, 0)

def unitLength (text : List Char) : Nat := text.foldr (fun c total => unitCount c + total) 0

-- What follows the last line break.
def lastLine (text : List Char) : List Char := (text.reverse.takeWhile (· ≠ '\n')).reverse

theorem unitCount_pos (c : Char) : 0 < unitCount c := by
  unfold unitCount
  split <;> decide

theorem unitCount_le (c : Char) : unitCount c ≤ c.utf8Size := by
  unfold unitCount
  split
  · exact c.utf8Size_pos
  · rename_i astral
    have four : c.utf8Size = 4 := by
      rw [Char.utf8Size_eq_four_iff, UInt32.lt_iff_toNat_lt]
      have large := UInt32.not_lt.mp astral
      rw [UInt32.le_iff_toNat_le] at large
      exact large
    omega

@[simp] theorem unitLength_nil : unitLength [] = 0 := rfl

@[simp] theorem unitLength_cons (c : Char) (text : List Char) :
    unitLength (c :: text) = unitCount c + unitLength text := rfl

theorem unitLength_le (text : List Char) : unitLength text ≤ byteLength text := by
  induction text with
  | nil => simp
  | cons c rest ih =>
    have first := unitCount_le c
    rw [unitLength_cons, byteLength_cons]
    omega

theorem length_le_byteLength (text : List Char) : text.length ≤ byteLength text := by
  induction text with
  | nil => simp
  | cons c rest ih =>
    have wide := c.utf8Size_pos
    simp only [List.length_cons, byteLength_cons]
    omega

@[simp] theorem unitLength_concat (text : List Char) (c : Char) :
    unitLength (text ++ [c]) = unitLength text + unitCount c := by
  induction text with
  | nil => simp
  | cons first rest ih => rw [List.cons_append, unitLength_cons, unitLength_cons, ih, Nat.add_assoc]

theorem lastLine_concat (text : List Char) (c : Char) :
    lastLine (text ++ [c]) = if c = '\n' then [] else lastLine text ++ [c] := by
  by_cases newline : c = '\n' <;> simp [lastLine, newline]

theorem placeAfter_concat (text : List Char) (c : Char) :
    placeAfter (text ++ [c]) = advance (placeAfter text) c := by simp [placeAfter]

theorem placeAfter_eq (text : List Char) : placeAfter text = (text.count '\n', unitLength (lastLine text)) := by
  induction text using List.reverseRecOn with
  | nil => rfl
  | append_singleton text c ih =>
    rw [placeAfter_concat, ih, lastLine_concat, advance]
    by_cases newline : c = '\n'
    · simp [newline, unitLength]
    · simp [newline]

-- A text is some whole lines and its last line.
theorem exists_lines (text : List Char) :
    ∃ whole, text = whole ++ lastLine text ∧ '\n' ∉ lastLine text ∧ (whole = [] ∨ ∃ start, whole = start ++ ['\n']) := by
  induction text using List.reverseRecOn with
  | nil => exact ⟨[], rfl, by simp [lastLine], .inl rfl⟩
  | append_singleton text c ih =>
    obtain ⟨whole, split, free, ends⟩ := ih
    rw [lastLine_concat]
    by_cases newline : c = '\n'
    · subst newline
      exact ⟨text ++ ['\n'], by simp, by simp, .inr ⟨text, rfl⟩⟩
    · refine ⟨whole, ?_, ?_, ends⟩
      · rw [if_neg newline, ← List.append_assoc, ← split]
      · rw [if_neg newline]
        simp [free, Ne.symm newline]

-- How far the walks by bytes look past one character.
theorem exists_offset_after (c : Char) (rest : Nat) :
    ∃ offset, c.utf8Size + rest = offset + 1 ∧ c.utf8Size ≤ offset + 1 ∧ offset + 1 - c.utf8Size = rest := by
  have wide := c.utf8Size_pos
  exact ⟨c.utf8Size + rest - 1, by omega, by omega, by omega⟩

theorem splitAt?_append (before after : List Char) :
    splitAt? (before ++ after) (byteLength before) = some (before, after) := by
  induction before with
  | nil => simp [splitAt?]
  | cons c rest ih =>
    obtain ⟨offset, whole, fits, onward⟩ := exists_offset_after c (byteLength rest)
    rw [byteLength_cons, whole, List.cons_append, splitAt?, if_pos fits, onward, ih]
    rfl

theorem splitAt?_sound {text before after : List Char} {offset : Nat}
    (found : splitAt? text offset = some (before, after)) : text = before ++ after ∧ byteLength before = offset := by
  fun_induction splitAt? text offset generalizing before after with
  | case1 text =>
    obtain ⟨rfl, rfl⟩ := Prod.mk.inj (Option.some.inj found)
    exact ⟨rfl, rfl⟩
  | case2 => cases found
  | case3 c rest offset fits ih =>
    obtain ⟨⟨inner, last⟩, split, same⟩ := Option.map_eq_some_iff.mp found
    obtain ⟨rfl, rfl⟩ := Prod.mk.inj same
    obtain ⟨rfl, width⟩ := ih split
    exact ⟨rfl, by rw [byteLength_cons, width]; omega⟩
  | case4 => cases found

theorem isBoundary_iff {text : List Char} {offset : Nat} :
    IsBoundary text offset ↔ (splitAt? text offset).isSome = true := by
  constructor
  · rintro ⟨before, after, rfl, rfl⟩
    rw [splitAt?_append]
    rfl
  · intro found
    obtain ⟨⟨before, after⟩, split⟩ := Option.isSome_iff_exists.mp found
    obtain ⟨parts, width⟩ := splitAt?_sound split
    exact ⟨before, after, parts, width⟩

instance (text : List Char) (offset : Nat) : Decidable (IsBoundary text offset) :=
  decidable_of_iff _ isBoundary_iff.symm

theorem breakEnds_append (offset : Nat) (first last : List Char) :
    breakEnds offset (first ++ last) = breakEnds offset first ++ breakEnds (offset + byteLength first) last := by
  induction first generalizing offset with
  | nil => rfl
  | cons c rest ih => by_cases newline : c = '\n' <;> simp [breakEnds, newline, ih, Nat.add_assoc]

theorem length_breakEnds (offset : Nat) (text : List Char) : (breakEnds offset text).length = text.count '\n' := by
  induction text generalizing offset with
  | nil => rfl
  | cons c rest ih => by_cases newline : c = '\n' <;> simp [breakEnds, newline, ih]

theorem mem_breakEnds {offset stop : Nat} {text : List Char} (member : stop ∈ breakEnds offset text) :
    offset < stop ∧ stop ≤ offset + byteLength text := by
  induction text generalizing offset with
  | nil => cases member
  | cons c rest ih =>
    have wide := c.utf8Size_pos
    have later (among : stop ∈ breakEnds (offset + c.utf8Size) rest) :
        offset < stop ∧ stop ≤ offset + byteLength (c :: rest) := by
      have bound := ih among
      rw [byteLength_cons]
      omega
    unfold breakEnds at member
    split at member
    · rcases List.mem_cons.mp member with rfl | among
      · rw [byteLength_cons]
        omega
      · exact later among
    · exact later member

theorem dropBytes_append (first last : List Char) : dropBytes (byteLength first) (first ++ last) = last := by
  induction first with
  | nil => simp [dropBytes]
  | cons c rest ih =>
    obtain ⟨offset, whole, -, onward⟩ := exists_offset_after c (byteLength rest)
    rw [byteLength_cons, whole, List.cons_append, dropBytes, onward]
    exact ih

-- The characters that start before the offset; one that the offset cuts is among them.
def charsBefore : Nat → List Char → List Char
  | 0, _ => []
  | _ + 1, [] => []
  | bound + 1, c :: rest => c :: charsBefore (bound + 1 - c.utf8Size) rest

theorem unitsBefore_eq (bound : Nat) (text : List Char) : unitsBefore bound text = unitLength (charsBefore bound text) := by
  fun_induction charsBefore bound text with
  | case1 text => rw [unitsBefore, unitLength_nil]
  | case2 bound => rw [unitsBefore, unitLength_nil]
  | case3 bound c rest ih => rw [unitsBefore, ih, unitLength_cons]

theorem charsBefore_append {first : List Char} {bound : Nat} (passed : byteLength first ≤ bound) (last : List Char) :
    charsBefore bound (first ++ last) = first ++ charsBefore (bound - byteLength first) last := by
  induction first generalizing bound with
  | nil => simp
  | cons c rest ih =>
    rw [byteLength_cons] at passed
    have wide := c.utf8Size_pos
    obtain ⟨offset, rfl⟩ := Nat.exists_eq_add_one_of_ne_zero (n := bound) (by omega)
    rw [List.cons_append, charsBefore, ih (by omega), byteLength_cons, Nat.sub_sub, List.cons_append]

theorem charsBefore_boundary (before after : List Char) :
    charsBefore (byteLength before) (before ++ after) = before := by
  rw [charsBefore_append (Nat.le_refl _), Nat.sub_self, charsBefore, List.append_nil]

theorem exists_after (bound : Nat) (text : List Char) : ∃ after, text = charsBefore bound text ++ after := by
  fun_induction charsBefore bound text with
  | case1 text => exact ⟨text, rfl⟩
  | case2 => exact ⟨[], rfl⟩
  | case3 bound c rest ih =>
    obtain ⟨after, split⟩ := ih
    exact ⟨after, by rw [List.cons_append, ← split]⟩

theorem le_charsBefore {bound : Nat} {text : List Char} (inside : bound ≤ byteLength text) :
    bound ≤ byteLength (charsBefore bound text) := by
  fun_induction charsBefore bound text with
  | case1 => exact Nat.zero_le _
  | case2 => exact inside
  | case3 bound c rest ih =>
    rw [byteLength_cons] at inside ⊢
    have reached := ih (by omega)
    omega

theorem starts_before {bound : Nat} {text before more : List Char} {c : Char}
    (split : charsBefore bound text = before ++ c :: more) : byteLength before < bound := by
  fun_induction charsBefore bound text generalizing before with
  | case1 => simp at split
  | case2 => simp at split
  | case3 bound first rest ih =>
    cases before with
    | nil => exact Nat.succ_pos bound
    | cons d before =>
      obtain ⟨rfl, later⟩ := List.cons.inj split
      have earlier := ih later
      rw [byteLength_cons]
      omega

-- The break before a line starts before the offset, and so the line starts at it at the latest.
theorem whole_le {bound : Nat} {text whole last : List Char} (reached : charsBefore bound text = whole ++ last)
    (ends : whole = [] ∨ ∃ start, whole = start ++ ['\n']) : byteLength whole ≤ bound := by
  rcases ends with rfl | ⟨start, rfl⟩
  · exact Nat.zero_le _
  · have earlier := starts_before (reached.trans (List.append_assoc ..))
    have one : '\n'.utf8Size = 1 := rfl
    rw [byteLength_append, byteLength_cons, byteLength_nil]
    omega

-- A line break takes one byte, so an offset cannot cut it: a break ends by the offset if it starts before it.
theorem length_takeWhile_breakEnds (base bound : Nat) (text : List Char) :
    ((breakEnds base text).takeWhile (· ≤ base + bound)).length = (charsBefore bound text).count '\n' := by
  have stopped (base bound : Nat) (text : List Char) (short : bound ≤ base) :
      (breakEnds base text).takeWhile (· ≤ bound) = [] := by
    cases ends : breakEnds base text with
    | nil => rfl
    | cons stop rest =>
      have range := mem_breakEnds (ends ▸ List.mem_cons_self : stop ∈ breakEnds base text)
      have past : ¬ stop ≤ bound := by omega
      simp [past]
  fun_induction charsBefore bound text generalizing base with
  | case1 text => simp [stopped base base text (Nat.le_refl _)]
  | case2 => rfl
  | case3 bound c rest ih =>
    by_cases newline : c = '\n'
    · subst newline
      have onward : base + (bound + 1) = base + '\n'.utf8Size + (bound + 1 - '\n'.utf8Size) := by
        have one : '\n'.utf8Size = 1 := rfl
        omega
      have fits : base + '\n'.utf8Size ≤ base + (bound + 1) := by rw [onward]; omega
      rw [breakEnds, if_pos rfl, List.takeWhile_cons_of_pos (by simpa using fits), onward, List.length_cons, ih,
        List.count_cons_self]
    · rw [breakEnds, if_neg newline, List.count_cons_of_ne newline]
      by_cases fits : c.utf8Size ≤ bound + 1
      · have onward : base + (bound + 1) = base + c.utf8Size + (bound + 1 - c.utf8Size) := by omega
        rw [onward, ih]
      · have cut : bound + 1 - c.utf8Size = 0 := by omega
        rw [stopped _ _ rest (by omega), cut, charsBefore]
        rfl

namespace LineTable

variable {text : String}

theorem starts_eq {before after : List Char} (split : text.toList = before ++ after) :
    (ofText text).starts = (0 :: breakEnds 0 before) ++ breakEnds (byteLength before) after := by
  simp [ofText, split, breakEnds_append]

theorem lineOf_eq (text : String) (offset : Nat) :
    (ofText text).lineOf offset = (charsBefore offset text.toList).count '\n' := by
  have counted := length_takeWhile_breakEnds 0 offset text.toList
  rw [Nat.zero_add] at counted
  rw [lineOf, ofText, List.takeWhile_cons_of_pos (by simp), List.length_cons, counted, Nat.add_sub_cancel]

theorem start_of_line {whole last after : List Char} (split : text.toList = whole ++ last ++ after)
    (free : '\n' ∉ last) (ends : whole = [] ∨ ∃ start, whole = start ++ ['\n']) :
    (ofText text).starts.getD ((whole ++ last).count '\n') 0 = byteLength whole := by
  have unbroken : breakEnds (byteLength whole) last = [] := by
    rw [← List.length_eq_zero_iff, length_breakEnds, List.count_eq_zero]
    exact free
  rw [starts_eq split, breakEnds_append, Nat.zero_add, unbroken, List.append_nil, List.count_append,
    List.count_eq_zero.mpr free, Nat.add_zero]
  rcases ends with rfl | ⟨start, rfl⟩
  · rfl
  · have width : breakEnds (byteLength start) ['\n'] = [byteLength (start ++ ['\n'])] := by simp [breakEnds]
    rw [breakEnds_append, Nat.zero_add, width, List.count_append, ← length_breakEnds 0 start]
    simp

-- Inside the text, the line is the number of breaks among the characters before the offset, and the column has
-- the units of those in the last line.
theorem position_of_inside {offset : Nat} {before : List Char} (inside : offset ≤ byteLength text.toList)
    (reached : charsBefore offset text.toList = before) :
    (ofText text).position offset = ⟨(before.count '\n').toUInt32, (unitLength (lastLine before)).toUInt32⟩ := by
  obtain ⟨after, split⟩ := exists_after offset text.toList
  rw [reached] at split
  obtain ⟨whole, parts, free, ends⟩ := exists_lines before
  have cut : text.toList = whole ++ (lastLine before ++ after) := by rw [← List.append_assoc, ← parts, split]
  have passed : byteLength whole ≤ offset := whole_le (reached.trans parts) ends
  have line : (ofText text).lineOf offset = before.count '\n' := by rw [lineOf_eq, reached]
  have start : (ofText text).starts.getD (before.count '\n') 0 = byteLength whole := by
    have found := start_of_line (cut.trans (List.append_assoc ..).symm) free ends
    rwa [← parts] at found
  have rest : dropBytes (byteLength whole) text.toList = lastLine before ++ after := by
    rw [cut, dropBytes_append]
  have last : charsBefore (offset - byteLength whole) (lastLine before ++ after) = lastLine before := by
    rw [cut, charsBefore_append passed] at reached
    exact List.append_cancel_left (reached.trans parts)
  have own : (ofText text).text = text.toList := rfl
  simp only [position, own, Nat.min_eq_left inside, line, start, rest, unitsBefore_eq, last]

-- Past the end, the position of the end.
theorem position_clamped (text : String) (offset : Nat) :
    (ofText text).position (min offset (byteLength text.toList)) = (ofText text).position offset := by
  have own : (ofText text).text = text.toList := rfl
  simp only [position, own, Nat.min_assoc, Nat.min_self]

end LineTable

end StyleTokens.Text
