import StyleTokens.Proofs.ByteOrder
import StyleTokens.Proofs.Clamping

namespace StyleTokens.Text

def lineFeed : UInt8 := 10

-- The offsets behind the line feeds among some bytes, the first of which stands at the given offset.
def feedEnds (offset : Nat) (bytes : List UInt8) : List Nat :=
  ((bytes.zipIdx offset).filter fun place => place.1 = lineFeed).map fun place => place.2 + 1

def feedsBefore (text : String) (bound : Nat) : Nat := ((utf8 text).take bound).count lineFeed

-- Each character with the offset at which it starts.
def placed (offset : Nat) : List Char → List (Nat × Char)
  | [] => []
  | c :: rest => (offset, c) :: placed (offset + c.utf8Size) rest

-- Before the bound and behind every line feed before the bound.
def InLine (text : String) (bound start : Nat) : Prop :=
  start < bound ∧ ∀ feed < bound, (utf8 text)[feed]? = some lineFeed → feed < start

instance (text : String) (bound start : Nat) : Decidable (InLine text bound start) :=
  inferInstanceAs (Decidable (_ ∧ _))

def charsInLine (text : String) (bound : Nat) : List Char :=
  ((placed 0 text.toList).filter fun place => InLine text bound place.1).map Prod.snd

theorem high_ofNat {n : Nat} (high : 128 ≤ n) (byte : n < 256) : 128 ≤ (UInt8.ofNat n).toNat := by
  rwa [UInt8.toNat_ofNat_of_lt' byte]

-- The bytes of a longer form are all above those of the characters with a single byte.
theorem high_of_mem {c : Char} (long : ¬ c.val.toNat ≤ 127) {byte : UInt8} (member : byte ∈ String.utf8EncodeChar c) :
    128 ≤ byte.toNat := by
  have top : c.val.toNat < 0x110000 := by
    rcases c.valid with small | ⟨-, large⟩ <;> omega
  simp only [String.utf8EncodeChar, if_neg long] at member
  split at member
  · simp only [List.mem_cons, List.not_mem_nil, or_false] at member
    rcases member with rfl | rfl <;> exact high_ofNat (by omega) (by omega)
  · split at member
    · simp only [List.mem_cons, List.not_mem_nil, or_false] at member
      rcases member with rfl | rfl | rfl <;> exact high_ofNat (by omega) (by omega)
    · simp only [List.mem_cons, List.not_mem_nil, or_false] at member
      rcases member with rfl | rfl | rfl | rfl <;> exact high_ofNat (by omega) (by omega)

theorem lineFeed_mem_iff {c : Char} : lineFeed ∈ String.utf8EncodeChar c ↔ c = '\n' := by
  constructor
  · intro member
    have ten : lineFeed.toNat = 10 := rfl
    by_cases one : c.val.toNat ≤ 127
    · simp only [String.utf8EncodeChar, if_pos one, List.mem_singleton] at member
      have value := congrArg UInt8.toNat member
      rw [UInt8.toNat_ofNat_of_lt' (Nat.lt_of_le_of_lt one (by decide))] at value
      exact Char.ext (UInt32.toNat_inj.mp value.symm)
    · have high := high_of_mem one member
      omega
  · rintro rfl
    decide

section

variable {offset bound : Nat} {text : List Char}

theorem placed_append (offset : Nat) (first last : List Char) :
    placed offset (first ++ last) = placed offset first ++ placed (offset + byteLength first) last := by
  induction first generalizing offset with
  | nil => rfl
  | cons c rest ih => simp [placed, ih, Nat.add_assoc]

theorem placed_chars (offset : Nat) (text : List Char) : (placed offset text).map Prod.snd = text := by
  induction text generalizing offset with
  | nil => rfl
  | cons c rest ih => rw [placed, List.map_cons, ih]

theorem mem_placed {place : Nat × Char} :
    place ∈ placed offset text ↔
      ∃ before after, text = before ++ place.2 :: after ∧ place.1 = offset + byteLength before := by
  induction text generalizing offset with
  | nil => simp [placed]
  | cons c rest ih =>
    rw [placed, List.mem_cons, ih]
    constructor
    · rintro (rfl | ⟨before, after, rfl, start⟩)
      · exact ⟨[], rest, rfl, rfl⟩
      · exact ⟨c :: before, after, rfl, by rw [start, byteLength_cons, Nat.add_assoc]⟩
    · rintro ⟨before, after, split, start⟩
      cases before with
      | nil =>
        obtain ⟨rfl, -⟩ := List.cons.inj split
        exact .inl (Prod.ext start rfl)
      | cons first before =>
        obtain ⟨rfl, later⟩ := List.cons.inj split
        exact .inr ⟨before, after, later, by rw [start, byteLength_cons, Nat.add_assoc]⟩

theorem placed_bounds {place : Nat × Char} (member : place ∈ placed offset text) :
    offset ≤ place.1 ∧ place.1 < offset + byteLength text := by
  obtain ⟨before, after, rfl, start⟩ := mem_placed.mp member
  have wide := place.2.utf8Size_pos
  rw [byteLength_append, byteLength_cons]
  omega

-- A byte of a line feed is the start of a line break, for it is part of no other character.
theorem lineFeed_at_iff (offset : Nat) {index : Nat} :
    (text.flatMap String.utf8EncodeChar)[index]? = some lineFeed ↔ (offset + index, '\n') ∈ placed offset text := by
  induction text generalizing offset index with
  | nil => simp [placed]
  | cons c rest ih =>
    rw [List.flatMap_cons, placed, List.mem_cons, List.getElem?_append, String.length_utf8EncodeChar]
    by_cases own : index < c.utf8Size
    · have apart : (offset + index, '\n') ∉ placed (offset + c.utf8Size) rest := by
        intro member
        have range := placed_bounds member
        simp only at range
        omega
      rw [if_pos own, or_iff_left apart]
      constructor
      · intro found
        have newline := lineFeed_mem_iff.mp (List.mem_of_getElem? found)
        subst newline
        have first : index = 0 := Nat.lt_one_iff.mp own
        rw [first, Nat.add_zero]
      · intro same
        obtain ⟨start, rfl⟩ := Prod.mk.inj same
        have first : index = 0 := by omega
        rw [first]
        rfl
    · have apart : (offset + index, '\n') ≠ (offset, c) := by
        intro same
        have wide := c.utf8Size_pos
        have start := (Prod.mk.inj same).1
        omega
      have onward : offset + index = offset + c.utf8Size + (index - c.utf8Size) := by omega
      rw [if_neg own, or_iff_right apart, onward]
      exact ih _

theorem count_lineFeed (bound : Nat) (text : List Char) :
    ((text.flatMap String.utf8EncodeChar).take bound).count lineFeed = (charsBefore bound text).count '\n' := by
  fun_induction charsBefore bound text with
  | case1 text => simp
  | case2 => simp
  | case3 bound c rest ih =>
    rw [List.flatMap_cons, List.take_append, List.count_append, String.length_utf8EncodeChar, ih]
    by_cases newline : c = '\n'
    · subst newline
      have own : ((String.utf8EncodeChar '\n').take (bound + 1)).count lineFeed = 1 := by
        rw [List.take_of_length_le (by rw [String.length_utf8EncodeChar]; exact Nat.succ_le_succ (Nat.zero_le _))]
        rfl
      rw [own, List.count_cons_self, Nat.add_comm]
    · have none : ((String.utf8EncodeChar c).take (bound + 1)).count lineFeed = 0 :=
        List.count_eq_zero.mpr fun member => newline (lineFeed_mem_iff.mp (List.mem_of_mem_take member))
      rw [none, Nat.zero_add, List.count_cons_of_ne newline]

theorem feedEnds_append (offset : Nat) (first last : List UInt8) :
    feedEnds offset (first ++ last) = feedEnds offset first ++ feedEnds (offset + first.length) last := by
  simp [feedEnds, List.zipIdx_append]

-- The table that is built from the characters is the one of the bytes.
theorem breakEnds_eq (offset : Nat) (text : List Char) :
    breakEnds offset text = feedEnds offset (text.flatMap String.utf8EncodeChar) := by
  induction text generalizing offset with
  | nil => rfl
  | cons c rest ih =>
    rw [breakEnds, ih, List.flatMap_cons, feedEnds_append, String.length_utf8EncodeChar]
    split
    · rename_i newline
      subst newline
      rfl
    · rename_i other
      have none : feedEnds offset (String.utf8EncodeChar c) = [] := by
        rw [feedEnds, List.map_eq_nil_iff, List.filter_eq_nil_iff]
        rintro ⟨byte, index⟩ member feed
        have same : byte = lineFeed := by simpa using feed
        exact other (lineFeed_mem_iff.mp (same ▸ List.fst_mem_of_mem_zipIdx member))
      rw [none, List.nil_append]

theorem breakEnds_ascending (offset : Nat) (text : List Char) : (breakEnds offset text).Pairwise (· < ·) := by
  induction text generalizing offset with
  | nil => exact .nil
  | cons c rest ih =>
    unfold breakEnds
    split
    · exact List.pairwise_cons.mpr ⟨fun stop member => (mem_breakEnds member).1, ih _⟩
    · exact ih _

theorem breakEnds_boundary {stop : Nat} (member : stop ∈ breakEnds offset text) :
    ∃ before after, text = before ++ after ∧ stop = offset + byteLength before := by
  induction text generalizing offset with
  | nil => cases member
  | cons c rest ih =>
    have later (among : stop ∈ breakEnds (offset + c.utf8Size) rest) :
        ∃ before after, c :: rest = before ++ after ∧ stop = offset + byteLength before := by
      obtain ⟨before, after, rfl, ends⟩ := ih among
      exact ⟨c :: before, after, rfl, by rw [ends, byteLength_cons, Nat.add_assoc]⟩
    unfold breakEnds at member
    split at member
    · rcases List.mem_cons.mp member with rfl | among
      · exact ⟨[c], rest, rfl, by simp⟩
      · exact later among
    · exact later member

-- In an ascending list, those within the bound are the first ones.
theorem getElem?_le_iff {list : List Nat} (ascending : list.Pairwise (· < ·)) {index start : Nat}
    (found : list[index]? = some start) : start ≤ bound ↔ index < (list.takeWhile (· ≤ bound)).length := by
  induction list generalizing index with
  | nil => cases found
  | cons first rest ih =>
    obtain ⟨above, ascending⟩ := List.pairwise_cons.mp ascending
    by_cases within : first ≤ bound
    · rw [List.takeWhile_cons_of_pos (by simpa using within), List.length_cons]
      cases index with
      | zero =>
        cases Option.some.inj found
        exact iff_of_true within (Nat.succ_pos _)
      | succ index => rw [Nat.succ_lt_succ_iff, ih ascending found]
    · rw [List.takeWhile_cons_of_neg (by simpa using within)]
      refine iff_of_false ?_ (Nat.not_lt_zero index)
      cases index with
      | zero =>
        cases Option.some.inj found
        exact within
      | succ index =>
        have later := above start (List.mem_of_getElem? found)
        omega

-- A higher bound is reached by more characters and no others.
theorem charsBefore_grows {later : Nat} (le : bound ≤ later) (text : List Char) :
    ∃ more, charsBefore later text = charsBefore bound text ++ more := by
  fun_induction charsBefore bound text generalizing later with
  | case1 text => exact ⟨charsBefore later text, rfl⟩
  | case2 bound =>
    obtain ⟨later, rfl⟩ := Nat.exists_eq_add_one_of_ne_zero (n := later) (by omega)
    exact ⟨[], rfl⟩
  | case3 bound c rest ih =>
    obtain ⟨later, rfl⟩ := Nat.exists_eq_add_one_of_ne_zero (n := later) (by omega)
    obtain ⟨more, longer⟩ := ih (Nat.sub_le_sub_right le c.utf8Size)
    exact ⟨more, by rw [charsBefore, longer, List.cons_append]⟩

end

section

variable {text : String} {bound start : Nat} {whole last after : List Char}

-- The line begins behind its last line feed before the bound, which is the end of the whole lines.
theorem inLine_iff (cut : text.toList = whole ++ (last ++ after)) (free : '\n' ∉ last)
    (ends : whole = [] ∨ ∃ start, whole = start ++ ['\n']) (passed : byteLength whole ≤ bound)
    (reached : bound ≤ byteLength (whole ++ last)) :
    InLine text bound start ↔ byteLength whole ≤ start ∧ start < bound := by
  have feed_iff (feed : Nat) : (utf8 text)[feed]? = some lineFeed ↔ (feed, '\n') ∈ placed 0 text.toList := by
    rw [utf8_eq, lineFeed_at_iff 0, Nat.zero_add]
  constructor
  · rintro ⟨before, behind⟩
    refine ⟨?_, before⟩
    rcases ends with rfl | ⟨lines, rfl⟩
    · exact Nat.zero_le _
    · have width : byteLength (lines ++ ['\n']) = byteLength lines + 1 := byteLength_append ..
      have feed : (byteLength lines, '\n') ∈ placed 0 text.toList :=
        mem_placed.mpr ⟨lines, last ++ after, by simp [cut], (Nat.zero_add _).symm⟩
      have past := behind (byteLength lines) (by omega) ((feed_iff _).mpr feed)
      omega
  · rintro ⟨begun, before⟩
    refine ⟨before, ?_⟩
    intro feed within found
    have place := (feed_iff feed).mp found
    rw [cut, placed_append, placed_append, List.mem_append, List.mem_append] at place
    rcases place with inWhole | inLast | inAfter
    · have range := placed_bounds inWhole
      simp only at range
      omega
    · refine absurd ?_ free
      rw [← placed_chars (0 + byteLength whole) last]
      exact List.mem_map.mpr ⟨_, inLast, rfl⟩
    · have range := placed_bounds inAfter
      rw [byteLength_append] at reached
      simp only at range
      omega

theorem charsInLine_eq (inside : bound ≤ byteLength text.toList) :
    charsInLine text bound = lastLine (charsBefore bound text.toList) := by
  obtain ⟨after, split⟩ := exists_after bound text.toList
  obtain ⟨whole, parts, free, ends⟩ := exists_lines (charsBefore bound text.toList)
  have reached : bound ≤ byteLength (whole ++ lastLine (charsBefore bound text.toList)) := parts ▸ le_charsBefore inside
  have starts {before more : List Char} {c : Char} (part : charsBefore bound text.toList = before ++ c :: more) :
      byteLength before < bound := starts_before part
  have passed : byteLength whole ≤ bound := whole_le parts ends
  generalize charsBefore bound text.toList = chars at split parts free reached starts
  have cut : text.toList = whole ++ (lastLine chars ++ after) := by rw [← List.append_assoc, ← parts, split]
  -- Of whole lines, last line and rest, the filter leaves the last line.
  have earlier : (placed 0 whole).filter (fun place => InLine text bound place.1) = [] := by
    rw [List.filter_eq_nil_iff]
    intro place member holds
    have range := placed_bounds member
    have begun := ((inLine_iff cut free ends passed reached).mp (of_decide_eq_true holds)).1
    omega
  have own : (placed (0 + byteLength whole) (lastLine chars)).filter (fun place => InLine text bound place.1) =
      placed (0 + byteLength whole) (lastLine chars) := by
    rw [List.filter_eq_self]
    intro place member
    obtain ⟨before, more, line, start⟩ := mem_placed.mp member
    have among : chars = (whole ++ before) ++ place.2 :: more := by rw [List.append_assoc, ← line, ← parts]
    have before := starts among
    rw [byteLength_append] at before
    exact decide_eq_true ((inLine_iff cut free ends passed reached).mpr (by omega))
  have behind : (placed (0 + byteLength whole + byteLength (lastLine chars)) after).filter
      (fun place => InLine text bound place.1) = [] := by
    rw [List.filter_eq_nil_iff]
    intro place member holds
    have range := placed_bounds member
    have short := (of_decide_eq_true holds).1
    rw [byteLength_append] at reached
    omega
  rw [charsInLine, cut, placed_append, placed_append, List.filter_append, List.filter_append, earlier, own, behind,
    List.nil_append, List.append_nil, placed_chars]

end

namespace LineTable

-- What a table has to be for its text. The starts are read off the bytes, without regard to characters.
structure Indexes (table : LineTable) (text : String) : Prop where
  bytes : table.starts = 0 :: feedEnds 0 (utf8 text)
  ascending : table.starts.Pairwise (· < ·)
  boundaries : ∀ start ∈ table.starts, IsBoundary text.toList start ∧ start ≤ text.utf8ByteSize

-- What the look-up of an offset relies on: the starts within the offset are the first ones, there is one at the line
-- that is found, and what is scanned from it is the rest of the text.
structure Finds (table : LineTable) (offset : Nat) : Prop where
  partition : ∀ (line start : Nat), table.starts[line]? = some start → (start ≤ offset ↔ line ≤ table.lineOf offset)
  indexed : table.lineOf offset < table.starts.length
  sliced : ∃ before, splitAt? table.text (table.starts.getD (table.lineOf offset) 0) =
    some (before, dropBytes (table.starts.getD (table.lineOf offset) 0) table.text)

theorem ofText_indexes (text : String) : (ofText text).Indexes text where
  bytes := by rw [ofText, breakEnds_eq, utf8_eq]
  ascending := List.pairwise_cons.mpr ⟨fun stop member => (mem_breakEnds member).1, breakEnds_ascending 0 _⟩
  boundaries := by
    intro start member
    suffices boundary : IsBoundary text.toList start from ⟨boundary, byteLength_toList text ▸ boundary.le⟩
    rcases List.mem_cons.mp member with rfl | later
    · exact ⟨[], text.toList, rfl, rfl⟩
    · obtain ⟨before, after, split, ends⟩ := breakEnds_boundary later
      exact ⟨before, after, split, by rw [ends, Nat.zero_add]⟩

theorem ofText_finds (text : String) (offset : Nat) : (ofText text).Finds offset := by
  have indexes := ofText_indexes text
  have first : 0 < ((ofText text).starts.takeWhile (· ≤ offset)).length := by simp [ofText]
  have indexed : (ofText text).lineOf offset < (ofText text).starts.length := by
    have within := (List.takeWhile_sublist (l := (ofText text).starts) (· ≤ offset)).length_le
    unfold lineOf
    omega
  refine ⟨?_, indexed, ?_⟩
  · intro line start found
    rw [getElem?_le_iff indexes.ascending found]
    unfold lineOf
    omega
  · have member : (ofText text).starts.getD ((ofText text).lineOf offset) 0 ∈ (ofText text).starts := by
      rw [List.getD_eq_getElem?_getD, List.getElem?_eq_getElem indexed, Option.getD_some]
      exact List.getElem_mem indexed
    obtain ⟨⟨before, after, split, width⟩, -⟩ := indexes.boundaries _ member
    have own : (ofText text).text = before ++ after := split
    exact ⟨before, by rw [← width, own, splitAt?_append, dropBytes_append]⟩

section

variable {text : String} {offset later : Nat} (short : byteLength text.toList < UInt32.size)

include short

theorem position_place (offset : Nat) :
    ((ofText text).position offset).place =
      placeAfter (charsBefore (min offset (byteLength text.toList)) text.toList) := by
  rw [← position_clamped, place_position (Nat.min_le_right ..) short]

theorem position_mono (le : offset ≤ later) :
    ((ofText text).position offset).AtMost ((ofText text).position later) := by
  rw [Position.atMost_iff, position_place short, position_place short]
  obtain ⟨more, longer⟩ := charsBefore_grows
    (show min offset (byteLength text.toList) ≤ min later (byteLength text.toList) by omega) text.toList
  rw [longer, placeAfter, placeAfter, List.foldl_append]
  exact le_foldl_advance more _

theorem position_strict (boundary : IsBoundary text.toList offset) (boundary' : IsBoundary text.toList later)
    (lt : offset < later) : ((ofText text).position offset).Before ((ofText text).position later) := by
  obtain ⟨before, after, split, rfl⟩ := boundary
  obtain ⟨longer, rest, split', rfl⟩ := boundary'
  rw [Position.before_iff, place_position_boundary split short, place_position_boundary split' short]
  obtain ⟨c, more, rfl, -⟩ := exists_longer (split.symm.trans split') lt
  exact placeAfter_lt before more c

end

end LineTable

-- The conversion by a table agrees with a plain count over the bytes and the characters: the table is sound, every
-- look-up in it is, no number is cut to 32 bits, and positions keep the order of offsets.
theorem position_exact (text : String) (short : text.utf8ByteSize < UInt32.size) :
    (LineTable.ofText text).Indexes text ∧
    (∀ offset, (LineTable.ofText text).Finds (min offset text.utf8ByteSize)) ∧
    (∀ offset, ((LineTable.ofText text).position offset).place =
      (feedsBefore text (min offset text.utf8ByteSize), unitLength (charsInLine text (min offset text.utf8ByteSize)))) ∧
    (∀ offset later, offset ≤ later →
      ((LineTable.ofText text).position offset).AtMost ((LineTable.ofText text).position later)) ∧
    ∀ offset later, IsBoundary text.toList offset → IsBoundary text.toList later → offset < later →
      ((LineTable.ofText text).position offset).Before ((LineTable.ofText text).position later) := by
  refine ⟨LineTable.ofText_indexes text, fun offset => LineTable.ofText_finds text _, ?_⟩
  rw [← byteLength_toList] at short ⊢
  refine ⟨?_, fun offset later => LineTable.position_mono short, fun offset later => LineTable.position_strict short⟩
  intro offset
  rw [LineTable.position_place short, placeAfter_eq, charsInLine_eq (Nat.min_le_right ..), feedsBefore, utf8_eq,
    count_lineFeed]

def fourLines : String := "ab\n😀cd\n\nef"

-- An offset between the bytes of a character, which counts that character, and one past the end.
theorem position_inside_char :
    fourLines.utf8ByteSize < UInt32.size ∧ feedsBefore fourLines 5 = 1 ∧ charsInLine fourLines 5 = ['😀'] ∧
      ((LineTable.ofText fourLines).position 5).place = (1, 2) ∧
      ((LineTable.ofText fourLines).position 3).Before ((LineTable.ofText fourLines).position 7) ∧
      ((LineTable.ofText fourLines).position 5).AtMost ((LineTable.ofText fourLines).position 100) := by
  have short : fourLines.utf8ByteSize < UInt32.size := by decide
  have feeds : feedsBefore fourLines 5 = 1 := by decide
  have chars : charsInLine fourLines 5 = ['😀'] := by decide
  obtain ⟨-, -, scanned, mono, strict⟩ := position_exact fourLines short
  refine ⟨short, feeds, chars, ?_, strict 3 7 (by decide) (by decide) (by decide), mono 5 100 (by decide)⟩
  have inside : min 5 fourLines.utf8ByteSize = 5 := rfl
  rw [scanned 5, inside, feeds, chars]
  rfl

end StyleTokens.Text
