import StyleTokens.Proofs.NamePatterns
import StyleTokens.SessionCache

open scoped Computability

namespace StyleTokens

namespace Reference

-- Both parts have the form that a reference can be read with.
def Shaped (reference : Reference) : Prop :=
  isThemeKey reference.themeKey.toList = true ∧ isToken reference.token.toList = true

instance (reference : Reference) : Decidable reference.Shaped := inferInstanceAs (Decidable (_ ∧ _))

theorem toList_encode (reference : Reference) :
    reference.encode.toList = mark :: (reference.themeKey.toList ++ divider :: reference.token.toList) := by
  simp [encode]

namespace Shaped

variable {reference : Reference} (shaped : reference.Shaped)

include shaped

theorem key_free : divider ∉ reference.themeKey.toList := Name.isWord_free shaped.1 rfl rfl

theorem token_free : divider ∉ reference.token.toList := Name.isWord_free shaped.2 rfl rfl

theorem token_unmarked : mark ∉ reference.token.toList := Name.isWord_free shaped.2 rfl rfl

theorem key_filled : reference.themeKey.toList ≠ [] := by
  intro empty
  have word := shaped.1
  rw [empty] at word
  cases word

theorem token_filled : reference.token ≠ "" := by
  intro empty
  have word := shaped.2
  rw [empty] at word
  cases word

theorem encode_inj {other : Reference} (same : other.encode = reference.encode) : other = reference := by
  have texts := congrArg String.toList same
  rw [toList_encode, toList_encode] at texts
  obtain ⟨keys, tokens⟩ := Name.parts_unique shaped.key_free shaped.token_free (List.cons.inj texts).2
  cases other
  cases reference
  exact congrArg₂ Reference.mk (String.toList_injective keys) (String.toList_injective tokens)

end Shaped

theorem decode?_encode_of_shaped {reference : Reference} (shaped : reference.Shaped) :
    decode? reference.encode = some reference := by
  have apart : ∀ c ∈ reference.themeKey.toList, decide (c ≠ divider) = true := by
    intro c member
    have other : c ≠ divider := fun same => shaped.key_free (same ▸ member)
    simpa using other
  have key : (reference.themeKey.toList ++ divider :: reference.token.toList).takeWhile (· ≠ divider) =
      reference.themeKey.toList := by
    rw [List.takeWhile_append_of_pos apart]
    simp
  have rest : (reference.themeKey.toList ++ divider :: reference.token.toList).dropWhile (· ≠ divider) =
      divider :: reference.token.toList := by
    rw [List.dropWhile_append_of_pos apart]
    simp
  rw [decode?, toList_encode]
  simp only [mark, key, rest, shaped.1, shaped.2, Bool.and_self, if_true, String.ofList_toList]

theorem shaped_of_decode? {name : String} {reference : Reference} (decoded : decode? name = some reference) :
    reference.Shaped ∧ reference.encode = name := by
  unfold decode? at decoded
  split at decoded
  · rename_i rest marked
    dsimp only at decoded
    split at decoded
    · rename_i c token ends
      split at decoded
      · rename_i shape
        rw [Bool.and_eq_true] at shape
        cases Option.some.inj decoded
        have stopped := List.head?_dropWhile_not (fun c => decide (c ≠ divider)) rest
        rw [ends] at stopped
        have divides : c = divider := by simpa using stopped
        subst divides
        refine ⟨by simpa [Shaped] using shape, String.toList_injective ?_⟩
        rw [toList_encode, marked, String.toList_ofList, String.toList_ofList, ← ends,
          List.takeWhile_append_dropWhile, mark]
      · cases decoded
    · cases decoded
  · cases decoded

theorem decode?_encode (reference : Reference) :
    decode? reference.encode = if reference.Shaped then some reference else none := by
  by_cases shaped : reference.Shaped
  · rw [if_pos shaped, decode?_encode_of_shaped shaped]
  · rw [if_neg shaped]
    cases decoded : decode? reference.encode with
    | none => rfl
    | some other =>
      obtain ⟨otherShaped, same⟩ := shaped_of_decode? decoded
      exact absurd (otherShaped.encode_inj same.symm ▸ otherShaped) shaped

-- The longest run of key characters ends at the divider, which is none of them.
theorem isName_iff {name : String} :
    isName name = true ↔ ∃ reference : Reference, reference.Shaped ∧ reference.encode = name := by
  constructor
  · intro shape
    unfold isName at shape
    split at shape
    · rename_i c rest marked
      rw [Bool.and_eq_true] at shape
      obtain ⟨letter, shape⟩ := shape
      split at shape
      · rename_i token ends
        refine ⟨⟨String.ofList (c :: rest.takeWhile Name.isRest), String.ofList token⟩, ⟨?_, ?_⟩, ?_⟩
        · rw [String.toList_ofList, isThemeKey, Name.isWord, letter, Bool.true_and, List.all_takeWhile]
        · rwa [String.toList_ofList]
        · apply String.toList_injective
          rw [toList_encode, marked, String.toList_ofList, String.toList_ofList, divider, List.cons_append, ← ends,
            List.takeWhile_append_dropWhile, mark]
      · cases shape
    · cases shape
  · rintro ⟨reference, shaped, rfl⟩
    obtain ⟨c, cs, key⟩ := List.exists_cons_of_ne_nil shaped.key_filled
    have word := shaped.1
    rw [key, isThemeKey, Name.isWord, Bool.and_eq_true, List.all_eq_true] at word
    have ends : (cs ++ divider :: reference.token.toList).dropWhile Name.isRest = '.' :: reference.token.toList := by
      rw [List.dropWhile_append_of_pos word.2]
      rfl
    rw [isName, toList_encode, key]
    simp only [mark, List.cons_append, word.1, ends, shaped.2, Bool.and_self]

theorem isName_lacks {name : String} {c : Char} (isName : isName name = true) (outside : Name.isRest c = false)
    (unmarked : c ≠ mark) (undivided : c ≠ divider) : c ∉ name.toList := by
  obtain ⟨reference, shaped, rfl⟩ := isName_iff.mp isName
  obtain ⟨plain, -⟩ := Bool.or_eq_false_iff.mp outside
  have key := Name.isWord_free shaped.1 (Bool.or_eq_false_iff.mp plain).1 outside
  have token := Name.isWord_free shaped.2 plain outside
  simp [toList_encode, unmarked, undivided, key, token]

theorem isName_encode {reference : Reference} : isName reference.encode = true ↔ reference.Shaped := by
  rw [isName_iff]
  constructor
  · rintro ⟨other, shaped, same⟩
    rwa [shaped.encode_inj same.symm]
  · intro shaped
    exact ⟨reference, shaped, rfl⟩

theorem shortName_inj {reference : Reference} {token : String} (same : reference.shortName = "$" ++ token) :
    reference.token = token := by
  have texts := congrArg String.toList same
  simp only [shortName, String.toList_append, String.toList_singleton] at texts
  exact String.toList_injective (List.append_cancel_left texts)

end Reference

namespace SessionCache

-- The longest end without the mark is the whole text, or what follows the last mark.
theorem takeWhile_reverse_eq_iff {mark : Char} {text after : List Char} :
    (text.reverse.takeWhile (· ≠ mark)).reverse = after ∧ after.length ≠ text.length ↔
      (∃ before, text = before ++ mark :: after) ∧ mark ∉ after := by
  constructor
  · rintro ⟨rfl, shorter⟩
    have whole := List.takeWhile_append_dropWhile (p := fun c => decide (c ≠ mark)) (l := text.reverse)
    have unmarked : mark ∉ text.reverse.takeWhile (· ≠ mark) := by
      intro member
      simpa using List.all_eq_true.mp List.all_takeWhile mark member
    have stopped := List.head?_dropWhile_not (fun c => decide (c ≠ mark)) text.reverse
    generalize text.reverse.takeWhile (· ≠ mark) = last at whole shorter unmarked
    generalize text.reverse.dropWhile (· ≠ mark) = rest at whole stopped
    have parts : text = rest.reverse ++ last.reverse := by
      rw [← List.reverse_append, whole, List.reverse_reverse]
    refine ⟨?_, by simpa using unmarked⟩
    cases rest with
    | nil => exact absurd (congrArg List.length parts).symm (by simpa using shorter)
    | cons c others =>
      have isMark : c = mark := by simpa using stopped
      exact ⟨others.reverse, by rw [parts, isMark]; simp⟩
  · rintro ⟨⟨before, rfl⟩, unmarked⟩
    have passed : ∀ c ∈ after.reverse, decide (c ≠ mark) = true := by
      intro c member
      have other : c ≠ mark := fun same => unmarked (same ▸ List.mem_reverse.mp member)
      simpa using other
    constructor
    · rw [List.reverse_append, List.reverse_cons, List.append_assoc, List.takeWhile_append_of_pos passed]
      simp
    · rw [List.length_append, List.length_cons]
      omega

theorem shortToken?_eq_some_iff {name token : String} :
    shortToken? name = some token ↔
      (∃ before, name = before ++ "$" ++ token) ∧ '$' ∉ token.toList ∧ token ≠ "" := by
  have split : (∃ before, name = before ++ "$" ++ token) ↔
      ∃ before, name.toList = before ++ Reference.mark :: token.toList := by
    constructor
    · rintro ⟨before, rfl⟩
      exact ⟨before.toList, by simp [Reference.mark]⟩
    · rintro ⟨before, parts⟩
      exact ⟨String.ofList before, String.toList_injective (by simp [parts, Reference.mark])⟩
  rw [split, ← and_assoc, ← Reference.mark, ← takeWhile_reverse_eq_iff, shortToken?]
  generalize (name.toList.reverse.takeWhile (· ≠ Reference.mark)).reverse = after
  constructor
  · intro found
    obtain ⟨kept, named⟩ := Option.ite_none_left_eq_some.mp found
    obtain rfl : String.ofList after = token := Option.some.inj named
    simpa using kept
  · rintro ⟨⟨rfl, shorter⟩, filled⟩
    simp [shorter, filled]

theorem shortToken?_shortName {reference : Reference} (shaped : reference.Shaped) :
    shortToken? reference.shortName = some reference.token := by
  have short : reference.shortName = "" ++ "$" ++ reference.token := by simp [Reference.shortName, Reference.mark]
  exact shortToken?_eq_some_iff.mpr ⟨⟨"", short⟩, shaped.token_unmarked, shaped.token_filled⟩

end SessionCache

namespace Reference

open Name (oneOf lowers uppers digits)

-- [A-Za-z][A-Za-z0-9-]*
def themeKeyPattern :=
  oneOf (lowers ∪ uppers) * (oneOf (lowers ∪ uppers ∪ digits ∪ {'-'}))∗

-- [A-Za-z0-9][A-Za-z0-9-]*
def tokenPattern :=
  oneOf (lowers ∪ uppers ∪ digits) * (oneOf (lowers ∪ uppers ∪ digits ∪ {'-'}))∗

def Matches (reference : Reference) : Prop :=
  reference.themeKey.toList ∈ themeKeyPattern ∧ reference.token.toList ∈ tokenPattern

theorem shaped_iff {reference : Reference} : reference.Shaped ↔ reference.Matches := by
  rw [Shaped, isThemeKey, isToken, Name.isWord_iff, Name.isWord_iff, Name.letters_eq, Name.lettersDigits_eq,
    Name.rest_eq]
  rfl

theorem isName_iff_decode? {name : String} : isName name = true ↔ (decode? name).isSome = true := by
  rw [isName_iff, Option.isSome_iff_exists]
  constructor
  · rintro ⟨reference, shaped, rfl⟩
    exact ⟨reference, decode?_encode_of_shaped shaped⟩
  · rintro ⟨reference, decoded⟩
    exact ⟨reference, shaped_of_decode? decoded⟩

-- Reading a name and writing the reference undo each other. A reference whose parts do not match is lost: its
-- text is read as none at all, however its parts could be divided anew.
theorem reference_round_trip :
    (∀ name, (isName name = true ↔ (decode? name).isSome = true) ∧
      ∀ reference, decode? name = some reference → reference.encode = name) ∧
    (∀ reference : Reference, (decode? reference.encode = some reference ↔ reference.Matches) ∧
      (¬ reference.Matches → decode? reference.encode = none)) ∧
    Set.InjOn encode {reference | reference.Matches} ∧
    ∀ reference : Reference, reference.Matches →
      SessionCache.shortToken? reference.shortName = some reference.token := by
  refine ⟨fun name => ⟨isName_iff_decode?, fun reference decoded => (shaped_of_decode? decoded).2⟩, ?_, ?_, ?_⟩
  · intro reference
    rw [decode?_encode, ← shaped_iff]
    by_cases shaped : reference.Shaped <;> simp [shaped]
  · intro one _ other isMatch same
    exact (shaped_iff.mpr isMatch).encode_inj same
  · intro reference isMatch
    exact SessionCache.shortToken?_shortName (shaped_iff.mpr isMatch)

end Reference

end StyleTokens
