import Mathlib.Data.List.Basic
import StyleTokens.Uri

namespace StyleTokens.Uri

-- What divides the parts of a URI: a slash opens the path, and the other two end it.
def isDivider (c : Char) : Bool := c == '/' || c == '?' || c == '#'

def endsPath (c : Char) : Bool := c == '?' || c == '#'

-- The text lies within one part.
def Plain (text : List Char) : Prop := ∀ c ∈ text, isDivider c = false

-- The text does not go beyond the path.
def Unended (text : List Char) : Prop := ∀ c ∈ text, endsPath c = false

theorem endsPath_of_not_isDivider {c : Char} (plain : isDivider c = false) : endsPath c = false := by
  simp only [isDivider, Bool.or_eq_false_iff] at plain
  simp [endsPath, plain]

theorem Plain.unended {text : List Char} (plain : Plain text) : Unended text :=
  fun c member => endsPath_of_not_isDivider (plain c member)

@[simp] theorem plain_nil : Plain [] := List.forall_mem_nil _

@[simp] theorem plain_cons {c : Char} {text : List Char} : Plain (c :: text) ↔ isDivider c = false ∧ Plain text :=
  List.forall_mem_cons

@[simp] theorem plain_append {first last : List Char} : Plain (first ++ last) ↔ Plain first ∧ Plain last :=
  List.forall_mem_append

@[simp] theorem unended_cons {c : Char} {text : List Char} :
    Unended (c :: text) ↔ endsPath c = false ∧ Unended text :=
  List.forall_mem_cons

@[simp] theorem unended_append {first last : List Char} :
    Unended (first ++ last) ↔ Unended first ∧ Unended last :=
  List.forall_mem_append

section Numbers

theorem digitChar_plain (digit : Nat) :
    isDivider digit.digitChar = false ∧ isDivider digit.digitChar.toUpper = false := by
  have known : digit.digitChar ∈ "0123456789abcdef*".toList := by
    by_cases small : digit < 16
    · revert digit
      decide
    · simp only [Nat.digitChar]
      repeat rw [if_neg (by omega)]
      decide
  have plain : ∀ c ∈ "0123456789abcdef*".toList, (!isDivider c && !isDivider c.toUpper) = true :=
    List.all_eq_true.mp rfl
  simpa using plain _ known

theorem mem_toDigits {base number : Nat} (large : 1 < base) {c : Char} (member : c ∈ Nat.toDigits base number) :
    ∃ digit : Nat, c = digit.digitChar := by
  induction number using Nat.strongRecOn with
  | ind number ih =>
    rw [Nat.toDigits_eq_if large] at member
    split at member
    · exact ⟨number, List.mem_singleton.mp member⟩
    · rename_i more
      rcases List.mem_append.mp member with earlier | last
      · exact ih (number / base) (Nat.div_lt_self (by omega) large) earlier
      · exact ⟨number % base, List.mem_singleton.mp last⟩

theorem plain_toDigits {base : Nat} (large : 1 < base) (number : Nat) : Plain (Nat.toDigits base number) := by
  intro c member
  obtain ⟨digit, rfl⟩ := mem_toDigits large member
  exact (digitChar_plain digit).1

theorem plain_toString (number : Nat) : Plain (toString number).toList := by
  rw [Nat.toString_eq_ofList_toDigits, String.toList_ofList]
  exact plain_toDigits (by decide) number

theorem plain_percent (byte : UInt8) : Plain (percent byte) := by
  unfold percent
  dsimp only
  rw [plain_append, plain_cons]
  refine ⟨⟨rfl, ?_⟩, ?_⟩
  · intro c member
    rw [List.eq_of_mem_replicate member]
    rfl
  · intro c member
    obtain ⟨lower, digit, rfl⟩ := List.mem_map.mp member
    obtain ⟨value, rfl⟩ := mem_toDigits (by decide) digit
    exact (digitChar_plain value).2

end Numbers

section Parts

-- A character of an encoded text is one of the text that is not to be encoded, or it is part of an escape.
theorem mem_encode {test : Char → Bool} {text : List Char} {c : Char} (member : c ∈ encode test text) :
    (c ∈ text ∧ test c = false) ∨ isDivider c = false := by
  obtain ⟨source, within, written⟩ := List.mem_flatMap.mp member
  unfold encodeChar at written
  split at written
  · obtain ⟨byte, -, escaped⟩ := List.mem_flatMap.mp written
    exact .inr (plain_percent byte c escaped)
  · rename_i kept
    cases List.mem_singleton.mp written
    exact .inl ⟨within, Bool.eq_false_iff.mpr kept⟩

theorem encode_free {mark test : Char → Bool} {text : List Char}
    (divides : ∀ c, mark c = true → isDivider c = true)
    (covers : ∀ c ∈ text, mark c = true → test c = true) : ∀ c ∈ encode test text, mark c = false := by
  intro c member
  rw [Bool.eq_false_iff]
  intro marked
  rcases mem_encode member with ⟨within, kept⟩ | plain
  · rw [covers c within marked] at kept
    cases kept
  · rw [divides c marked] at plain
    cases plain

theorem plain_encode {test : Char → Bool} {text : List Char}
    (covers : ∀ c ∈ text, isDivider c = true → test c = true) : Plain (encode test text) :=
  encode_free (fun _ => id) covers

theorem unended_encode {test : Char → Bool} {text : List Char} (unended : Unended text) :
    Unended (encode test text) := by
  refine encode_free (fun c ends => ?_) fun c member ends => ?_
  · rw [isDivider, Bool.or_assoc]
    exact Bool.or_eq_true_iff.mpr (.inr ends)
  · rw [unended c member] at ends
    cases ends

theorem isDivider_iff {c : Char} : isDivider c = true ↔ c = '/' ∨ c = '?' ∨ c = '#' := by
  simp [isDivider, or_assoc]

theorem plain_intercalate {separator : List Char} {pieces : List (List Char)} (between : Plain separator)
    (plain : ∀ piece ∈ pieces, Plain piece) : Plain (separator.intercalate pieces) := by
  induction pieces with
  | nil => exact plain_nil
  | cons first rest ih =>
    have later := ih fun piece member => plain piece (List.mem_cons_of_mem _ member)
    cases rest with
    | nil => simpa using plain
    | cons second others =>
      rw [List.intercalate_cons_cons, plain_append, plain_append]
      exact ⟨⟨plain first List.mem_cons_self, between⟩, later⟩

theorem plain_render (pieces : List Nat) : Plain (EightPiece.render pieces) := by
  have rendered (some : List Nat) : Plain (EightPiece.renderPieces some) := by
    refine plain_intercalate (by simp [isDivider]) ?_
    intro piece member
    obtain ⟨number, -, rfl⟩ := List.mem_map.mp member
    exact plain_toDigits (by decide) number
  unfold EightPiece.render
  dsimp only
  split
  · exact rendered _
  · simp [rendered, isDivider]

theorem plain_bracketed {text host : List Char} (read : bracketed text = .ok host) : Plain host := by
  unfold bracketed at read
  split at read
  · split at read
    · cases read
      simp [plain_render, isDivider]
    · cases read
  · cases read

theorem forbidden_of_isDivider {c : Char} (divides : isDivider c = true) :
    Domain.isForbiddenInHost c = true ∧ Domain.isForbidden c = true := by
  rcases isDivider_iff.mp divides with rfl | rfl | rfl <;> exact ⟨rfl, rfl⟩

theorem plain_of_toAscii? {text name : List Char} (found : Domain.toAscii? text = some name) : Plain name := by
  simp only [Domain.toAscii?, Option.bind_eq_bind, Option.bind_eq_some_iff] at found
  obtain ⟨mapped, -, decoded, -, checked⟩ := found
  split at checked
  · rename_i allowed
    cases checked
    simp only [Bool.and_eq_true, Bool.not_eq_true', List.any_eq_false] at allowed
    intro c member
    rw [Bool.eq_false_iff]
    intro divides
    exact allowed.2 c member (forbidden_of_isDivider divides).2
  · cases checked

theorem plain_namedHost {text host : List Char} (read : namedHost text = .ok host) : Plain host := by
  unfold namedHost at read
  split at read
  · exact plain_bracketed read
  · split at read
    · cases read
    · rename_i domain found
      obtain ⟨decoded, -, named⟩ := Option.bind_eq_some_iff.mp found
      split at read
      · cases read
      · split at read
        · split at read
          · cases read
            exact plain_intercalate (by simp [isDivider]) (by simp [plain_toDigits])
          · cases read
        · cases read
          exact plain_of_toAscii? named

theorem plain_opaqueHost {text host : List Char} (read : opaqueHost text = .ok host) : Plain host := by
  unfold opaqueHost at read
  split at read
  · exact plain_bracketed read
  · split at read
    · cases read
    · rename_i allowed
      cases read
      refine plain_encode fun c member divides => ?_
      exact absurd (List.any_eq_true.mpr ⟨c, member, (forbidden_of_isDivider divides).1⟩) allowed

theorem plain_takePort {scheme : String} {text port rest : List Char} (read : takePort scheme text = .ok (port, rest)) :
    Plain port := by
  unfold takePort at read
  split at read
  · dsimp only at read
    split at read
    · cases read
    · cases read
      split
      · exact plain_nil
      · exact plain_cons.mpr ⟨rfl, plain_toString _⟩
  · cases read
    exact plain_nil

theorem plain_encodeUser (text : List Char) : Plain (encode inUserSet text) := by
  refine plain_encode fun c _ divides => ?_
  rcases isDivider_iff.mp divides with rfl | rfl | rfl <;> rfl

theorem plain_takeLogin {special last : Bool} {text login rest : List Char}
    (read : takeLogin special last text = .ok (login, rest)) : Plain login := by
  unfold takeLogin at read
  dsimp only at read
  split at read
  · split at read
    · cases read
    · cases read
      split
      · exact plain_nil
      · split <;> simp [plain_encodeUser, isDivider]
  · cases read
    exact plain_nil

theorem bind_eq_ok {ε α β : Type} {first : Except ε α} {next : α → Except ε β} {result : β}
    (done : (first >>= next) = .ok result) : ∃ middle, first = .ok middle ∧ next middle = .ok result := by
  cases first with
  | error reason => cases done
  | ok middle => exact ⟨middle, rfl, done⟩

theorem plain_takeAuthority {scheme : String} {last : Bool} {text authority rest : List Char}
    (read : takeAuthority scheme last text = .ok (authority, rest)) : Plain authority := by
  unfold takeAuthority at read
  obtain ⟨⟨login, afterLogin⟩, tookLogin, read⟩ := bind_eq_ok read
  have plainLogin := plain_takeLogin tookLogin
  dsimp only at read
  -- What follows the host is read in one way, whatever kind of host it is.
  have finish (host text : List Char) (noHost loginAlone : Bool) (plainHost : Plain host)
      (read : (do
        if noHost = true then throw UriError.emptyHost
        let port ← takePort scheme text
        if loginAlone = true then throw UriError.emptyHost
        return (login ++ host ++ port.1, port.2)) = Except.ok (authority, rest)) : Plain authority := by
    dsimp only at read
    split at read
    · cases read
    · obtain ⟨port, tookPort, read⟩ := bind_eq_ok read
      split at read
      · cases read
      · cases read
        simp [plainLogin, plainHost, plain_takePort tookPort]
  split at read
  · exact finish [] _ _ _ plain_nil read
  · split at read
    · obtain ⟨host, named, read⟩ := bind_eq_ok read
      exact finish host _ _ _ (plain_namedHost named) read
    · obtain ⟨host, unnamed, read⟩ := bind_eq_ok read
      exact finish host _ _ _ (plain_opaqueHost unnamed) read

end Parts

end StyleTokens.Uri
