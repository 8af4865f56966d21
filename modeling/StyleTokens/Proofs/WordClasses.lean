import StyleTokens.Name.Arbitrary
import StyleTokens.Proofs.NamePatterns

namespace StyleTokens.Arbitrary

theorem isQuote_iff {c : Char} : isQuote c = true ↔ c = '\'' ∨ c = '"' := by simp [isQuote]

-- One quote or none.
def IsQuotes (marks : List Char) : Prop := marks = [] ∨ ∃ c, isQuote c = true ∧ marks = [c]

theorem IsQuotes.isQuote {marks : List Char} {c : Char} (quotes : IsQuotes marks) (member : c ∈ marks) :
    isQuote c = true := by
  rcases quotes with rfl | ⟨d, isQuote, rfl⟩
  · cases member
  · rwa [List.mem_singleton.mp member]

def Candidate.text (candidate : Candidate) : String :=
  String.ofList (candidate.opening ++ candidate.word ++ candidate.closing)

-- All that is asked of the word characters: quotes and brackets are none of them.
structure WordClass (isWordChar : Char → Bool) : Prop where
  quotes : ∀ c, isQuote c = true → isWordChar c = false
  brackets : isWordChar '[' = false ∧ isWordChar ']' = false

theorem isWordChar_wordClass : WordClass Text.isWordChar where
  quotes := by
    intro c quote
    rcases isQuote_iff.mp quote with rfl | rfl <;> decide
  brackets := by decide

theorem isWordPart_eq_over : isWordPart = isPartOver Text.isWordChar := rfl

theorem encode_eq_over : encode = encodeOver Text.isWordChar := rfl

theorem tryEncode?_eq_over : tryEncode? = tryEncodeOver? Text.isWordChar := rfl

-- The parts of a word with at most one quote on each side. The two quotes need not agree.
structure Candidate.Over (isWordChar : Char → Bool) (candidate : Candidate) : Prop where
  opening : IsQuotes candidate.opening
  filled : candidate.word ≠ []
  parts : ∀ c ∈ candidate.word, isPartOver isWordChar c = true
  closing : IsQuotes candidate.closing

variable {isWordChar : Char → Bool} {candidate other : Candidate} {literal : String}

theorem WordClass.not_part (wordClass : WordClass isWordChar) {c : Char} (quote : isQuote c = true) :
    isPartOver isWordChar c = false := by
  have outside := wordClass.quotes c quote
  rcases isQuote_iff.mp quote with rfl | rfl <;> simp [isPartOver, outside]

theorem WordClass.not_quote (wordClass : WordClass isWordChar) {c : Char} (part : isPartOver isWordChar c = true) :
    isQuote c = false := by
  cases quote : isQuote c with
  | false => rfl
  | true =>
    rw [wordClass.not_part quote] at part
    cases part

-- The parts of a candidate are found again: quotes and word parts never meet in one character.
theorem candidateOver?_text (wordClass : WordClass isWordChar) (shaped : candidate.Over isWordChar) :
    candidateOver? isWordChar candidate.text = some candidate := by
  obtain ⟨opening, word, closing⟩ := candidate
  obtain ⟨before, filled, parts, after⟩ := shaped
  dsimp only at before filled parts after
  obtain ⟨first, rest, rfl⟩ := List.exists_cons_of_ne_nil filled
  have plain : isQuote first = false := wordClass.not_quote (parts first (by simp))
  have opens : ((opening ++ (first :: rest) ++ closing).take 1).filter isQuote = opening := by
    rcases before with rfl | ⟨c, quote, rfl⟩
    · simp [plain]
    · simp [quote]
  have stops : closing.takeWhile (isPartOver isWordChar) = [] ∧
      closing.dropWhile (isPartOver isWordChar) = closing := by
    rcases after with rfl | ⟨c, quote, rfl⟩
    · exact ⟨rfl, rfl⟩
    · simp [wordClass.not_part quote]
  have taken : ((first :: rest) ++ closing).takeWhile (isPartOver isWordChar) = first :: rest := by
    rw [List.takeWhile_append_of_pos parts, stops.1, List.append_nil]
  have left : ((first :: rest) ++ closing).dropWhile (isPartOver isWordChar) = closing := by
    rw [List.dropWhile_append_of_pos parts, stops.2]
  unfold candidateOver?
  simp only [Candidate.text, String.toList_ofList, opens]
  rw [List.append_assoc, List.drop_left, taken, left]
  rcases after with rfl | ⟨c, quote, rfl⟩
  · simp
  · simp [quote]

theorem isQuotes_filter_take (text : List Char) :
    IsQuotes ((text.take 1).filter isQuote) ∧
      (text.take 1).filter isQuote ++ text.drop ((text.take 1).filter isQuote).length = text := by
  cases text with
  | nil => exact ⟨.inl rfl, rfl⟩
  | cons c rest =>
    cases quote : isQuote c with
    | false => simp [IsQuotes, quote]
    | true => simp [IsQuotes, quote]

theorem over_of_candidateOver? (found : candidateOver? isWordChar literal = some candidate) :
    candidate.Over isWordChar ∧ literal = candidate.text := by
  obtain ⟨opens, whole⟩ := isQuotes_filter_take literal.toList
  unfold candidateOver? at found
  dsimp only at found
  generalize (literal.toList.take 1).filter isQuote = opening at opens whole found
  generalize literal.toList.drop opening.length = rest at whole found
  have split := List.takeWhile_append_dropWhile (p := isPartOver isWordChar) (l := rest)
  have parts : ∀ c ∈ rest.takeWhile (isPartOver isWordChar), isPartOver isWordChar c = true :=
    List.all_eq_true.mp List.all_takeWhile
  generalize rest.takeWhile (isPartOver isWordChar) = word at split parts found
  generalize rest.dropWhile (isPartOver isWordChar) = closing at split found
  have written : literal = String.ofList (opening ++ word ++ closing) := by
    rw [List.append_assoc, split, whole, String.ofList_toList]
  split at found
  · cases found
  · rename_i filled
    have nonempty : word ≠ [] := by simpa using filled
    split at found
    · cases found
      exact ⟨⟨opens, nonempty, parts, .inl rfl⟩, written⟩
    · split at found
      · rename_i c quote
        cases found
        exact ⟨⟨opens, nonempty, parts, .inr ⟨c, quote, rfl⟩⟩, written⟩
      · cases found
    · cases found

theorem candidateOver?_other
    (other : ¬ ∃ candidate : Candidate, candidate.Over isWordChar ∧ literal = candidate.text) :
    candidateOver? isWordChar literal = none := by
  rw [Option.eq_none_iff_forall_not_mem]
  intro candidate found
  exact other ⟨candidate, over_of_candidateOver? found⟩

theorem encodeOver_other
    (other : ¬ ∃ candidate : Candidate, candidate.Over isWordChar ∧ literal = candidate.text) :
    encodeOver isWordChar literal = literal := by
  rw [encodeOver, candidateOver?_other other]

-- Brackets make a text longer.
theorem mark_ne_text (candidate : Candidate) : candidate.mark ≠ candidate.text := by
  intro same
  have lengths := congrArg (fun text => text.toList.length) same
  simp only [Candidate.mark, Candidate.text, String.toList_ofList, List.length_append, List.length_cons] at lengths
  omega

theorem Candidate.Over.mem_text (shaped : candidate.Over isWordChar) {c : Char} (member : c ∈ candidate.text.toList) :
    isQuote c = true ∨ isPartOver isWordChar c = true := by
  rw [Candidate.text, String.toList_ofList, List.mem_append, List.mem_append] at member
  rcases member with (opens | inWord) | closes
  · exact .inl (shaped.opening.isQuote opens)
  · exact .inr (shaped.parts c inWord)
  · exact .inl (shaped.closing.isQuote closes)

section

variable (wordClass : WordClass isWordChar)

include wordClass

theorem text_injective (shaped : candidate.Over isWordChar) (shaped' : other.Over isWordChar)
    (same : candidate.text = other.text) : candidate = other := by
  have found := candidateOver?_text wordClass shaped
  rw [same, candidateOver?_text wordClass shaped'] at found
  exact (Option.some.inj found).symm

theorem encodeOver_text (shaped : candidate.Over isWordChar) :
    encodeOver isWordChar candidate.text = candidate.mark := by
  rw [encodeOver, candidateOver?_text wordClass shaped]

theorem encodeOver_ne_iff :
    encodeOver isWordChar literal ≠ literal ↔
      ∃ candidate : Candidate, candidate.Over isWordChar ∧ literal = candidate.text := by
  constructor
  · intro changed
    by_contra other
    exact changed (encodeOver_other other)
  · rintro ⟨candidate, shaped, rfl⟩
    rw [encodeOver_text wordClass shaped]
    exact mark_ne_text candidate

theorem tryEncodeOver?_eq :
    tryEncodeOver? isWordChar literal =
      if encodeOver isWordChar literal = literal then none else some (encodeOver isWordChar literal) := by
  by_cases word : ∃ candidate : Candidate, candidate.Over isWordChar ∧ literal = candidate.text
  · rw [if_neg ((encodeOver_ne_iff wordClass).mpr word)]
    obtain ⟨candidate, shaped, rfl⟩ := word
    rw [tryEncodeOver?, candidateOver?_text wordClass shaped]
    rfl
  · rw [if_pos (encodeOver_other word), tryEncodeOver?, candidateOver?_other word]
    rfl

theorem tryEncodeOver?_eq_some_iff {replacement : String} :
    tryEncodeOver? isWordChar literal = some replacement ↔
      ∃ candidate : Candidate, candidate.Over isWordChar ∧ literal = candidate.text ∧ replacement = candidate.mark := by
  rw [tryEncodeOver?_eq wordClass]
  constructor
  · intro encoded
    obtain ⟨changed, same⟩ := Option.ite_none_left_eq_some.mp encoded
    obtain ⟨candidate, shaped, rfl⟩ := (encodeOver_ne_iff wordClass).mp changed
    rw [encodeOver_text wordClass shaped] at same
    exact ⟨candidate, shaped, rfl, (Option.some.inj same).symm⟩
  · rintro ⟨candidate, shaped, rfl, rfl⟩
    rw [encodeOver_text wordClass shaped, if_neg (mark_ne_text candidate)]

theorem bracket_not_part : isPartOver isWordChar '[' = false ∧ isPartOver isWordChar ']' = false := by
  simp [isPartOver, wordClass.brackets.1, wordClass.brackets.2]

-- A bracket is neither a quote nor a part of a word, so what is marked is not marked again.
theorem encodeOver_mark (candidate : Candidate) : encodeOver isWordChar candidate.mark = candidate.mark := by
  apply encodeOver_other
  rintro ⟨other, shaped, written⟩
  have bracket : '[' ∈ other.text.toList := by
    rw [← written, Candidate.mark, String.toList_ofList]
    simp
  rcases shaped.mem_text bracket with isQuote | part
  · cases isQuote
  · rw [(bracket_not_part wordClass).1] at part
    cases part

end

end StyleTokens.Arbitrary
