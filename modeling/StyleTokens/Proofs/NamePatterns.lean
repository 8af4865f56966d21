import Mathlib.Computability.Language
import StyleTokens.Name.Letter

open scoped Computability

namespace StyleTokens.Name

-- The words of one character of a class. Patterns of names are languages built from these.
def oneOf (chars : Set Char) : Language Char := {word | ∃ c ∈ chars, word = [c]}

def lowers : Set Char := {c | 'a' ≤ c ∧ c ≤ 'z'}

def uppers : Set Char := {c | 'A' ≤ c ∧ c ≤ 'Z'}

def digits : Set Char := {c | '0' ≤ c ∧ c ≤ '9'}

theorem mem_kstar_oneOf {chars : Set Char} {text : List Char} : text ∈ (oneOf chars)∗ ↔ ∀ c ∈ text, c ∈ chars := by
  rw [Language.mem_kstar]
  constructor
  · rintro ⟨words, rfl, single⟩ c member
    obtain ⟨word, among, within⟩ := List.mem_flatten.mp member
    obtain ⟨d, inClass, rfl⟩ := single word among
    rw [List.mem_singleton.mp within]
    exact inClass
  · intro all
    refine ⟨text.map fun c => [c], (List.flatMap_singleton' text).symm, ?_⟩
    intro word among
    obtain ⟨c, member, rfl⟩ := List.mem_map.mp among
    exact ⟨c, all c member, rfl⟩

theorem isWord_iff {first rest : Char → Bool} {text : List Char} :
    isWord first rest text = true ↔ text ∈ oneOf {c | first c = true} * (oneOf {c | rest c = true})∗ := by
  rw [Language.mem_mul]
  constructor
  · intro word
    cases text with
    | nil => cases word
    | cons c cs =>
      rw [isWord, Bool.and_eq_true, List.all_eq_true] at word
      exact ⟨[c], ⟨c, word.1, rfl⟩, cs, mem_kstar_oneOf.mpr word.2, rfl⟩
  · rintro ⟨_, ⟨c, starts, rfl⟩, cs, follows, rfl⟩
    rw [List.singleton_append, isWord, Bool.and_eq_true, List.all_eq_true]
    exact ⟨starts, mem_kstar_oneOf.mp follows⟩

theorem isWord_free {first rest : Char → Bool} {text : List Char} {c : Char} (word : isWord first rest text = true)
    (starts : first c = false) (follows : rest c = false) : c ∉ text := by
  cases text with
  | nil => cases word
  | cons d ds =>
    rw [isWord, Bool.and_eq_true, List.all_eq_true] at word
    intro member
    rcases List.mem_cons.mp member with rfl | later
    · exact Bool.noConfusion (word.1.symm.trans starts)
    · exact Bool.noConfusion ((word.2 c later).symm.trans follows)

theorem pieces_free {separator : Char} {text : List Char} (free : separator ∉ text) : pieces separator text = [text] := by
  induction text with
  | nil => rfl
  | cons c rest ih =>
    obtain ⟨other, later⟩ := not_or.mp (mt List.mem_cons.mpr free)
    rw [pieces, if_neg (Ne.symm other), ih later]

theorem pieces_append {separator : Char} {piece : List Char} (free : separator ∉ piece) (rest : List Char) :
    pieces separator (piece ++ separator :: rest) = piece :: pieces separator rest := by
  induction piece with
  | nil => rw [List.nil_append, pieces, if_pos rfl]
  | cons c cs ih =>
    obtain ⟨other, later⟩ := not_or.mp (mt List.mem_cons.mpr free)
    rw [List.cons_append, pieces, if_neg (Ne.symm other), ih later]

-- Parts without the divider are the only ones that it divides a text into.
theorem parts_unique {divider : Char} {key token otherKey otherToken : List Char} (keyFree : divider ∉ key)
    (tokenFree : divider ∉ token) (same : otherKey ++ divider :: otherToken = key ++ divider :: token) :
    otherKey = key ∧ otherToken = token := by
  rcases List.append_eq_append_iff.mp same with ⟨between, rfl, rest⟩ | ⟨between, rfl, rest⟩
  · cases between with
    | nil => exact ⟨(List.append_nil _).symm, (List.cons.inj rest).2⟩
    | cons c more =>
      obtain ⟨rfl, -⟩ := List.cons.inj rest
      exact absurd (by simp) keyFree
  · cases between with
    | nil => exact ⟨List.append_nil _, (List.cons.inj rest).2.symm⟩
    | cons c more =>
      obtain ⟨rfl, rfl⟩ := List.cons.inj rest
      exact absurd (by simp) tokenFree

theorem lowers_eq : {c | isLower c = true} = lowers := by
  ext c
  simp [isLower, lowers]

theorem lowersDigits_eq : {c | isLowerOrDigit c = true} = lowers ∪ digits := by
  ext c
  simp [isLowerOrDigit, isLower, Text.isDigit, lowers, digits]

theorem lowerRest_eq : {c | isLowerRest c = true} = lowers ∪ digits ∪ {'-'} := by
  ext c
  simp [isLowerRest, isLowerOrDigit, isLower, Text.isDigit, lowers, digits, or_comm]

theorem letters_eq : {c | isLetter c = true} = lowers ∪ uppers := by
  ext c
  simp [isLetter, isLower, isUpper, lowers, uppers]

theorem lettersDigits_eq : {c | isLetterOrDigit c = true} = lowers ∪ uppers ∪ digits := by
  ext c
  simp [isLetterOrDigit, isLetter, isLower, isUpper, Text.isDigit, lowers, uppers, digits]

theorem rest_eq : {c | isRest c = true} = lowers ∪ uppers ∪ digits ∪ {'-'} := by
  ext c
  simp [isRest, isLetterOrDigit, isLetter, isLower, isUpper, Text.isDigit, lowers, uppers, digits, or_comm]

end StyleTokens.Name
