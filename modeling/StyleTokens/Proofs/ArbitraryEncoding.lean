import StyleTokens.Proofs.PropertyCodec
import StyleTokens.Proofs.ReferenceCodec
import StyleTokens.Proofs.WordClasses

namespace StyleTokens.Arbitrary

variable {isWordChar : Char → Bool} {candidate other : Candidate} {literal : String}

theorem toList_mark (candidate : Candidate) :
    candidate.mark.toList = candidate.opening ++ '[' :: (candidate.word ++ ']' :: candidate.closing) := by
  simp [Candidate.mark]

theorem not_mem_quotes {marks : List Char} {c : Char} (quotes : IsQuotes marks) (plain : isQuote c = false) :
    c ∉ marks := by
  intro member
  rw [quotes.isQuote member] at plain
  cases plain

-- The first bracket ends the quotes before the word, and the last begins those after it.
theorem mark_injective (wordClass : WordClass isWordChar) (shaped : candidate.Over isWordChar)
    (shaped' : other.Over isWordChar) (same : candidate.mark = other.mark) : candidate = other := by
  have apart {c : Char} (outside : isPartOver isWordChar c = false) : c ∉ other.word := by
    intro member
    rw [shaped'.parts c member] at outside
    cases outside
  obtain ⟨noOpening, noClosing⟩ := bracket_not_part wordClass
  have texts := congrArg String.toList same
  rw [toList_mark, toList_mark] at texts
  have later : '[' ∉ other.word ++ ']' :: other.closing := by
    have closing : '[' ∉ other.closing := not_mem_quotes shaped'.closing (by decide)
    simp [apart noOpening, closing]
  obtain ⟨openings, rests⟩ := Name.parts_unique (not_mem_quotes shaped'.opening (by decide)) later texts
  obtain ⟨words, closings⟩ := Name.parts_unique (apart noClosing) (not_mem_quotes shaped'.closing (by decide)) rests
  cases candidate
  cases other
  simp_all

theorem bracket_mem_mark (candidate : Candidate) : '[' ∈ candidate.mark.toList := by
  simp [toList_mark]

theorem mark_not_property (candidate : Candidate) : Property.isName candidate.mark = false := by
  by_contra isName
  exact Property.isName_lacks (by simpa using isName) (by decide) (by decide) (bracket_mem_mark candidate)

theorem mark_not_reference (candidate : Candidate) : Reference.isName candidate.mark = false := by
  by_contra isName
  exact Reference.isName_lacks (by simpa using isName) (by decide) (by decide) (by decide) (bracket_mem_mark candidate)

-- A word alone.
theorem bare_over (filled : literal ≠ "") (parts : ∀ c ∈ literal.toList, isPartOver isWordChar c = true) :
    Candidate.Over isWordChar ⟨[], literal.toList, []⟩ :=
  ⟨.inl rfl, by simpa using filled, parts, .inl rfl⟩

theorem isMarked_bare (word : List Char) : isMarked (Candidate.mark ⟨[], word, []⟩) = true := by
  simp [isMarked, toList_mark, List.getLast?_cons]

-- The laws of an encoder over a class of word characters.
structure Encoding (isWordChar : Char → Bool) (encode : String → String) (tryEncode? : String → Option String) :
    Prop where
  word : ∀ opening word closing, Candidate.Over isWordChar ⟨opening, word, closing⟩ →
    encode (String.ofList (opening ++ word ++ closing)) = String.ofList (opening ++ ['['] ++ word ++ [']'] ++ closing)
  unique : ∀ one other : Candidate, one.Over isWordChar → other.Over isWordChar → one.text = other.text → one = other
  other : ∀ literal, (¬ ∃ candidate : Candidate, candidate.Over isWordChar ∧ literal = candidate.text) →
    encode literal = literal
  idempotent : ∀ literal, encode (encode literal) = encode literal
  injective : Set.InjOn encode {literal | encode literal ≠ literal}
  agrees : ∀ literal, tryEncode? literal = if encode literal = literal then none else some (encode literal)
  marked : ∀ literal, literal ≠ "" → (∀ c ∈ literal.toList, isPartOver isWordChar c = true) →
    isMarked (encode literal) = true
  noName : ∀ literal, encode literal ≠ literal →
    Property.isName (encode literal) = false ∧ Reference.isName (encode literal) = false

theorem encodeOver_encoding (wordClass : WordClass isWordChar) :
    Encoding isWordChar (encodeOver isWordChar) (tryEncodeOver? isWordChar) where
  word := by
    intro opening word closing shaped
    refine (encodeOver_text wordClass shaped).trans ?_
    simp [Candidate.mark]
  unique := fun one other => text_injective wordClass
  other := fun literal => encodeOver_other
  idempotent := by
    intro literal
    by_cases word : ∃ candidate : Candidate, candidate.Over isWordChar ∧ literal = candidate.text
    · obtain ⟨candidate, shaped, rfl⟩ := word
      rw [encodeOver_text wordClass shaped, encodeOver_mark wordClass]
    · rw [encodeOver_other word, encodeOver_other word]
  injective := by
    intro one changed other changed' same
    obtain ⟨candidate, shaped, rfl⟩ := (encodeOver_ne_iff wordClass).mp changed
    obtain ⟨candidate', shaped', rfl⟩ := (encodeOver_ne_iff wordClass).mp changed'
    rw [encodeOver_text wordClass shaped, encodeOver_text wordClass shaped'] at same
    rw [mark_injective wordClass shaped shaped' same]
  agrees := fun literal => tryEncodeOver?_eq wordClass
  marked := by
    intro literal filled parts
    have encoded := encodeOver_text wordClass (bare_over filled parts)
    simp only [Candidate.text, List.nil_append, List.append_nil, String.ofList_toList] at encoded
    rw [encoded]
    exact isMarked_bare literal.toList
  noName := by
    intro literal changed
    obtain ⟨candidate, shaped, rfl⟩ := (encodeOver_ne_iff wordClass).mp changed
    rw [encodeOver_text wordClass shaped]
    exact ⟨mark_not_property candidate, mark_not_reference candidate⟩

-- The encoder keeps its laws, and would keep them over every other class of word characters that leaves out the quotes
-- and the brackets.
theorem encoder_exact :
    Encoding Text.isWordChar encode tryEncode? ∧
      ∀ isWordChar, WordClass isWordChar → Encoding isWordChar (encodeOver isWordChar) (tryEncodeOver? isWordChar) := by
  refine ⟨?_, fun isWordChar => encodeOver_encoding⟩
  rw [encode_eq_over, tryEncode?_eq_over]
  exact encodeOver_encoding isWordChar_wordClass

end StyleTokens.Arbitrary

namespace StyleTokens.Sample

open Arbitrary

-- The two quotes differ.
def accented : Candidate := ⟨['\''], "été-1".toList, ['"']⟩

def agreeing : Candidate := ⟨['"'], "ñu_2".toList, ['"']⟩

-- An accent is a word character of one class and not of the other.
theorem accented_word_marked :
    accented.text = "'été-1\"" ∧ accented.mark = "'[été-1]\"" ∧ encode accented.text = accented.mark ∧
      encode accented.mark = accented.mark ∧ tryEncode? accented.mark = none ∧
      agreeing.text = "\"ñu_2\"" ∧ agreeing.mark = "\"[ñu_2]\"" ∧ encode agreeing.text = agreeing.mark ∧
      WordClass Name.isLower ∧ isMarked (encodeOver Name.isLower "ete") = true ∧
      encodeOver Name.isLower "été" = "été" ∧ tryEncodeOver? Name.isLower "été" = none := by
  obtain ⟨laws, others⟩ := encoder_exact
  have shaped : accented.Over Text.isWordChar :=
    ⟨.inr ⟨_, rfl, rfl⟩, by decide, List.all_eq_true.mp rfl, .inr ⟨_, rfl, rfl⟩⟩
  have shaped' : agreeing.Over Text.isWordChar :=
    ⟨.inr ⟨_, rfl, rfl⟩, by decide, List.all_eq_true.mp rfl, .inr ⟨_, rfl, rfl⟩⟩
  have marked : encode accented.text = accented.mark := laws.word _ _ _ shaped
  have again := laws.idempotent accented.text
  rw [marked] at again
  have lowers : WordClass Name.isLower := by
    refine ⟨?_, by decide⟩
    intro c quote
    rcases isQuote_iff.mp quote with rfl | rfl <;> rfl
  have plain : encodeOver Name.isLower "été" = "été" := by decide
  refine ⟨rfl, rfl, marked, again, ?_, rfl, rfl, laws.word _ _ _ shaped', lowers, ?_, plain, ?_⟩
  · rw [laws.agrees, if_pos again]
  · exact (others Name.isLower lowers).marked "ete" (by decide) (List.all_eq_true.mp rfl)
  · rw [(others Name.isLower lowers).agrees, if_pos plain]

end StyleTokens.Sample
