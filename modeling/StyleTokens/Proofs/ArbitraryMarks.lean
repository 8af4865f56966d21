import StyleTokens.Proofs.WordClasses

namespace StyleTokens.Arbitrary

theorem not_isWordPart_of_isQuote {c : Char} (quote : isQuote c = true) : isWordPart c = false := by
  rw [isWordPart_eq_over]
  exact isWordChar_wordClass.not_part quote

theorem not_isQuote_of_isWordPart {c : Char} (part : isWordPart c = true) : isQuote c = false := by
  rw [isWordPart_eq_over] at part
  exact isWordChar_wordClass.not_quote part

abbrev Candidate.Sound (candidate : Candidate) : Prop := candidate.Over Text.isWordChar

theorem tryEncode?_eq_some_iff {literal replacement : String} :
    tryEncode? literal = some replacement ↔
      ∃ candidate : Candidate, candidate.Sound ∧ literal = candidate.text ∧ replacement = candidate.mark := by
  rw [tryEncode?_eq_over, tryEncodeOver?_eq_some_iff isWordChar_wordClass]

theorem tryEncode?_parts {opening word closing : List Char} (before : IsQuotes opening) (after : IsQuotes closing)
    (filled : word ≠ []) (parts : ∀ c ∈ word, isWordPart c = true) :
    tryEncode? (String.ofList (opening ++ word ++ closing)) =
      some (String.ofList (opening ++ '[' :: word ++ ']' :: closing)) :=
  tryEncode?_eq_some_iff.mpr ⟨⟨opening, word, closing⟩, ⟨before, filled, parts, after⟩, rfl, rfl⟩

theorem encode_ne_iff {literal : String} :
    encode literal ≠ literal ↔ ∃ candidate : Candidate, candidate.Sound ∧ literal = candidate.text := by
  rw [encode_eq_over, encodeOver_ne_iff isWordChar_wordClass]

theorem Candidate.Sound.encode_text {candidate : Candidate} (sound : candidate.Sound) :
    encode candidate.text = candidate.mark := by
  rw [encode_eq_over]
  exact encodeOver_text isWordChar_wordClass sound

theorem Candidate.Sound.plain {candidate : Candidate} (sound : candidate.Sound) :
    ∀ c ∈ candidate.word, isQuote c = false := by
  intro c member
  exact not_isQuote_of_isWordPart (sound.parts c member)

theorem tryEncode?_mark (candidate : Candidate) : tryEncode? candidate.mark = none := by
  rw [tryEncode?_eq_over, tryEncodeOver?_eq isWordChar_wordClass, encodeOver_mark isWordChar_wordClass, if_pos rfl]

-- Between two quotes there is room for a bare word only: a further quote is no part of a word.
theorem Candidate.Sound.eq_of_quoted {candidate : Candidate} {quote : Char} {literal : List Char}
    (sound : candidate.Sound) (isQuote : isQuote quote = true)
    (written : candidate.text = String.ofList (quote :: (literal ++ [quote]))) :
    candidate = ⟨[quote], literal, [quote]⟩ := by
  have plain : quote ∉ candidate.word := by
    intro member
    rw [sound.plain quote member] at isQuote
    cases isQuote
  obtain ⟨first, rest, filled⟩ := List.exists_cons_of_ne_nil sound.filled
  have opens := sound.opening
  have closes := sound.closing
  obtain ⟨opening, word, closing⟩ := candidate
  have whole : opening ++ word ++ closing = quote :: (literal ++ [quote]) := by
    simpa [Candidate.text] using congrArg String.toList written
  dsimp only at plain filled opens closes
  rcases opens with rfl | ⟨c, -, rfl⟩
  · rw [filled] at whole
    obtain ⟨rfl, -⟩ := List.cons.inj whole
    simp [filled] at plain
  · obtain ⟨rfl, onward⟩ : c = quote ∧ word ++ closing = literal ++ [quote] := by simpa using whole
    rcases closes with rfl | ⟨d, -, rfl⟩
    · rw [List.append_nil] at onward
      simp [onward] at plain
    · obtain ⟨rfl, last⟩ := List.append_inj' onward rfl
      cases last
      rfl

end StyleTokens.Arbitrary
