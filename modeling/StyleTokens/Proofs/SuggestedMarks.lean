import StyleTokens.Proofs.FixScope
import StyleTokens.Proofs.QuotedLiterals
import StyleTokens.Report

namespace StyleTokens

open Text (LineTable)
open Arbitrary (Candidate encode isMarked isWordPart)

namespace Arbitrary

-- A word that has a quote of its own at one end or at both.
def QuotedWord (literal : String) : Prop :=
  ∃ candidate : Candidate, candidate.Sound ∧ literal = candidate.text ∧
    (candidate.opening ≠ [] ∨ candidate.closing ≠ [])

-- Nothing but a word.
def BareWord (literal : String) : Prop := literal.toList ≠ [] ∧ ∀ c ∈ literal.toList, isWordPart c = true

variable {literal : String} {quote : Char}

theorem BareWord.sound (bare : BareWord literal) : Candidate.Sound ⟨[], literal.toList, []⟩ :=
  ⟨.inl rfl, bare.1, bare.2, .inl rfl⟩

theorem BareWord.encode_eq (bare : BareWord literal) : (encode literal).toList = '[' :: (literal.toList ++ [']']) := by
  have marked := bare.sound.encode_text
  simp only [Candidate.text, Candidate.mark, List.nil_append, List.append_nil, String.ofList_toList] at marked
  rw [marked, String.toList_ofList]
  rfl

-- A candidate is bare or has quotes of its own, and never both.
theorem encode_ne_iff_bare : encode literal ≠ literal ↔ BareWord literal ∨ QuotedWord literal := by
  rw [encode_ne_iff]
  constructor
  · rintro ⟨candidate, sound, rfl⟩
    by_cases bare : candidate.opening = [] ∧ candidate.closing = []
    · left
      simp only [BareWord, Candidate.text, String.toList_ofList, bare.1, bare.2, List.nil_append, List.append_nil]
      exact ⟨sound.filled, sound.parts⟩
    · right
      exact ⟨candidate, sound, rfl, by rwa [Decidable.not_and_iff_not_or_not] at bare⟩
  · rintro (bare | ⟨candidate, sound, written, -⟩)
    · exact ⟨_, bare.sound, by simp [Candidate.text]⟩
    · exact ⟨candidate, sound, written⟩

theorem QuotedWord.not_bare (inner : QuotedWord literal) : ¬ BareWord literal := by
  obtain ⟨candidate, sound, rfl, ends⟩ := inner
  rintro ⟨-, parts⟩
  simp only [Candidate.text, String.toList_ofList, List.mem_append] at parts
  have apart {c : Char} (isQuote : isQuote c = true) (part : isWordPart c = true) : False := by
    rw [not_isWordPart_of_isQuote isQuote] at part
    cases part
  rcases ends with opens | closes
  · rcases sound.opening with none | ⟨c, isQuote, one⟩
    · exact opens none
    · exact apart isQuote (parts c (by simp [one]))
  · rcases sound.closing with none | ⟨c, isQuote, one⟩
    · exact closes none
    · exact apart isQuote (parts c (by simp [one]))

-- Brackets inside quotes are no brackets around the text.
theorem QuotedWord.not_marked (inner : QuotedWord literal) : isMarked (encode literal) = false := by
  obtain ⟨candidate, sound, rfl, ends⟩ := inner
  rw [sound.encode_text]
  rcases ends with opens | closes
  · rcases sound.opening with none | ⟨c, isQuote, one⟩
    · exact absurd none opens
    · have first : candidate.mark.toList.head? = some c := by simp [Candidate.mark, one]
      rcases isQuote_iff.mp isQuote with rfl | rfl <;> simp [isMarked, first]
  · rcases sound.closing with none | ⟨c, isQuote, one⟩
    · exact absurd none closes
    · have last : candidate.mark.toList.getLast? = some c := by
        simp [Candidate.mark, one, List.getLast?_append, List.getLast?_cons]
      rcases isQuote_iff.mp isQuote with rfl | rfl <;> simp [isMarked, last]

theorem tryEncode?_quoted (isQuote : isQuote quote = true) (replacement : String) :
    tryEncode? (String.ofList (quote :: (literal.toList ++ [quote]))) = some replacement ↔
      BareWord literal ∧ replacement = String.ofList (quote :: ((encode literal).toList ++ [quote])) := by
  rw [tryEncode?_eq_some_iff]
  constructor
  · rintro ⟨candidate, sound, written, rfl⟩
    cases sound.eq_of_quoted isQuote written.symm
    have bare : BareWord literal := ⟨sound.filled, sound.parts⟩
    refine ⟨bare, ?_⟩
    rw [bare.encode_eq]
    simp [Candidate.mark]
  · rintro ⟨bare, rfl⟩
    refine ⟨⟨[quote], literal.toList, [quote]⟩, ?_, rfl, ?_⟩
    · exact ⟨.inr ⟨quote, isQuote, rfl⟩, bare.1, bare.2, .inr ⟨quote, isQuote, rfl⟩⟩
    · rw [bare.encode_eq]
      simp [Candidate.mark]

end Arbitrary

namespace ArbitraryFix

variable {root pair value : SyntaxNode} {content literal : String} {uri : Uri} {offset : Nat} {quote : Char}

theorem actionAt?_quoted (reached : root.pairAt? offset = some pair) (hasValue : pair.value? = some value)
    (isString : value.kind = "string") (isQuote : Arbitrary.isQuote quote = true)
    (written : value.text content = String.ofList (quote :: (literal.toList ++ [quote]))) (action : CodeAction) :
    actionAt? root content uri offset = some action ↔
      Arbitrary.BareWord literal ∧ action = marking uri (value.range (LineTable.ofText content))
        (String.ofList (quote :: ((encode literal).toList ++ [quote]))) := by
  have found := valueAt?_eq_some_iff.mpr ⟨pair, reached, hasValue, isString⟩
  rw [actionAt?_of_value found, written, Option.map_eq_some_iff]
  simp only [Arbitrary.tryEncode?_quoted isQuote]
  constructor
  · rintro ⟨_, ⟨bare, rfl⟩, rfl⟩
    exact ⟨bare, rfl⟩
  · rintro ⟨bare, rfl⟩
    exact ⟨_, ⟨bare, rfl⟩, rfl⟩

-- What the message on a value suggests, against what the fix at its pair does. Where the value is a bare word, or
-- nothing that can be marked, the two agree. A word with quotes of its own is marked by the message and not by the fix,
-- and the text that the message then suggests would be refused again.
theorem suggestion_exact (root : SyntaxNode) (content : String) (uri : Uri) (offset : Nat) (token : TokenPair)
    (value fragment : SyntaxNode) (quote : Char) (literal : String) (hasValue : token.pair.value? = some value)
    (quoted : value.Quoted [fragment]) (isFragment : fragment.kind = "string_fragment")
    (own : fragment.text content = literal) (isQuote : Arbitrary.isQuote quote = true)
    (written : value.text content = String.ofList (quote :: (literal.toList ++ [quote])))
    (reached : root.pairAt? offset = some token.pair) :
    Report.invalidValueMessage token.name (token.literal? content) =
        "Value '" ++ literal ++ "' is not a theme token for '" ++ token.name ++
          "'. Use a theme token or mark it arbitrary with '" ++ encode literal ++ "'." ∧
      (encode literal ≠ literal ↔
        (actionAt? root content uri offset).isSome = true ∨ Arbitrary.QuotedWord literal) ∧
      (Arbitrary.QuotedWord literal →
        actionAt? root content uri offset = none ∧ isMarked (encode literal) = false) ∧
      ∀ action, actionAt? root content uri offset = some action →
        action = marking uri (value.range (LineTable.ofText content))
          (String.ofList (quote :: ((encode literal).toList ++ [quote]))) := by
  have offered : ∀ action, actionAt? root content uri offset = some action ↔ _ :=
    actionAt?_quoted reached hasValue quoted.isString isQuote written
  have read : token.literal? content = some literal := by
    rw [TokenPair.literal?, hasValue, ← own]
    exact quoted.single_text isFragment content
  have isSome : (actionAt? root content uri offset).isSome = true ↔ Arbitrary.BareWord literal := by
    rw [Option.isSome_iff_exists]
    constructor
    · rintro ⟨action, found⟩
      exact ((offered action).mp found).1
    · intro bare
      exact ⟨_, (offered _).mpr ⟨bare, rfl⟩⟩
  refine ⟨by rw [read]; rfl, ?_, ?_, ?_⟩
  · rw [isSome]
    exact Arbitrary.encode_ne_iff_bare
  · intro inner
    refine ⟨?_, inner.not_marked⟩
    rw [Option.eq_none_iff_forall_not_mem]
    intro action found
    exact inner.not_bare ((offered action).mp found).1
  · intro action found
    exact ((offered action).mp found).2

end ArbitraryFix

namespace Sample

-- One pair, with the word in single quotes as its value.
def wordText (word : String) : String := "(\x7b'md$a':'" ++ word ++ "'\x7d)"

def wordPair : SyntaxNode := named "pair" 2 15 [quoted true 2 8, mark ":" 8, quoted false 9 15]

-- The tree of the text for any word of four bytes.
def wordTree : SyntaxNode :=
  named "program" 0 17 [named "expression_statement" 0 17 [named "parenthesized_expression" 0 17
    [mark "(" 0, named "object" 1 16 [mark "\x7b" 1, wordPair, mark "\x7d" 15], mark ")" 16]]]

def wordToken : TokenPair := ⟨wordPair, quoted true 2 8, "md$a"⟩

theorem blue_suggested_and_fixed :
    wordTree.pairAt? 3 = some wordToken.pair ∧ encode "blue" ≠ "blue" ∧
      ArbitraryFix.actionAt? wordTree (wordText "blue") uri 3 =
        some (ArbitraryFix.marking uri ⟨⟨0, 9⟩, ⟨0, 15⟩⟩ "'[blue]'") := by
  obtain ⟨-, changed, -, fix⟩ := ArbitraryFix.suggestion_exact wordTree (wordText "blue") uri 3 wordToken (quoted false 9 15)
    (named "string_fragment" 10 14 []) '\'' "blue" rfl (quoted_quoted false (by decide)) rfl rfl rfl rfl rfl
  have offered : (ArbitraryFix.actionAt? wordTree (wordText "blue") uri 3).isSome = true := rfl
  refine ⟨rfl, changed.mpr (.inl offered), ?_⟩
  obtain ⟨action, found⟩ := Option.isSome_iff_exists.mp offered
  rw [found, fix action found]
  rfl

-- The message suggests brackets behind the double quote, and there is no fix to put them there.
theorem open_quote_suggested :
    wordTree.tokens (wordText "\"red") = [wordToken] ∧ wordTree.pairAt? 3 = some wordToken.pair ∧
      wordToken.literal? (wordText "\"red") = some "\"red" ∧
      Report.invalidValueMessage "md$a" (some "\"red") =
        "Value '\"red' is not a theme token for 'md$a'. Use a theme token or mark it arbitrary with '\"[red]'." ∧
      (encode "\"red" ≠ "\"red" ∧ ArbitraryFix.actionAt? wordTree (wordText "\"red") uri 3 = none) ∧
      isMarked "\"[red]" = false :=
  ⟨rfl, rfl, rfl, rfl, ⟨by decide, rfl⟩, rfl⟩

end Sample

end StyleTokens
