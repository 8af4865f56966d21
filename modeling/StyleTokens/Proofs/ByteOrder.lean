namespace StyleTokens.Text

-- The bytes of a text in UTF-8.
def utf8 (text : String) : List UInt8 := text.toUTF8.data.toList

-- Bytes are compared one by one from the first; a text that ends comes before one that goes on.
def BytesBefore (one other : String) : Prop := List.Lex (· < ·) (utf8 one) (utf8 other)

theorem utf8_eq (text : String) : utf8 text = text.toList.flatMap String.utf8EncodeChar := by
  rw [utf8, String.toUTF8_eq_toByteArray, ← String.utf8Encode_toList, List.utf8Encode, List.data_toByteArray]

theorem lex_cons {a b : Nat} (le : a ≤ b) (byte : b < 256) {rest more : List UInt8}
    (later : a = b → List.Lex (· < ·) rest more) :
    List.Lex (· < ·) (UInt8.ofNat a :: rest) (UInt8.ofNat b :: more) := by
  rcases Nat.lt_or_eq_of_le le with below | rfl
  · refine .rel (UInt8.lt_iff_toNat_lt.mpr ?_)
    rwa [UInt8.toNat_ofNat_of_lt' (Nat.lt_trans below byte), UInt8.toNat_ofNat_of_lt' byte]
  · exact .cons (later rfl)

theorem lex_of_lt {a b : Nat} (below : a < b) (byte : b < 256) (rest more : List UInt8) :
    List.Lex (· < ·) (UInt8.ofNat a :: rest) (UInt8.ofNat b :: more) :=
  lex_cons (Nat.le_of_lt below) byte fun same => absurd same (Nat.ne_of_lt below)

-- The first byte tells the number of bytes and grows with it; after it come the digits to base 64, the highest
-- first.
theorem utf8EncodeChar_before {c d : Char} (below : c < d) (rest more : List UInt8) :
    List.Lex (· < ·) (String.utf8EncodeChar c ++ rest) (String.utf8EncodeChar d ++ more) := by
  have codes : c.val.toNat < d.val.toNat := UInt32.lt_iff_toNat_lt.mp (Char.lt_def.mp below)
  have top : d.val.toNat < 0x110000 := by
    rcases d.valid with small | ⟨-, large⟩ <;> omega
  simp only [String.utf8EncodeChar]
  by_cases one : c.val.toNat ≤ 127
  · rw [if_pos one]
    split
    · exact lex_of_lt codes (by omega) _ _
    · split
      · exact lex_of_lt (by omega) (by omega) _ _
      · split <;> exact lex_of_lt (by omega) (by omega) _ _
  rw [if_neg one, if_neg (show ¬ d.val.toNat ≤ 127 by omega)]
  by_cases two : c.val.toNat ≤ 2047
  · rw [if_pos two]
    split
    · exact lex_cons (by omega) (by omega) fun _ => lex_of_lt (by omega) (by omega) _ _
    · split <;> exact lex_of_lt (by omega) (by omega) _ _
  rw [if_neg two, if_neg (show ¬ d.val.toNat ≤ 2047 by omega)]
  by_cases three : c.val.toNat ≤ 65535
  · rw [if_pos three]
    split
    · exact lex_cons (by omega) (by omega) fun _ => lex_cons (by omega) (by omega) fun _ =>
        lex_of_lt (by omega) (by omega) _ _
    · exact lex_of_lt (by omega) (by omega) _ _
  rw [if_neg three, if_neg (show ¬ d.val.toNat ≤ 65535 by omega)]
  exact lex_cons (by omega) (by omega) fun _ => lex_cons (by omega) (by omega) fun _ =>
    lex_cons (by omega) (by omega) fun _ => lex_of_lt (by omega) (by omega) _ _

theorem utf8EncodeChar_filled (c : Char) : ∃ byte rest, String.utf8EncodeChar c = byte :: rest := by
  simp only [String.utf8EncodeChar]
  split
  · exact ⟨_, _, rfl⟩
  · split
    · exact ⟨_, _, rfl⟩
    · split <;> exact ⟨_, _, rfl⟩

theorem flatMap_utf8EncodeChar_before {characters others : List Char} (below : List.Lex (· < ·) characters others) :
    List.Lex (· < ·) (characters.flatMap String.utf8EncodeChar) (others.flatMap String.utf8EncodeChar) := by
  induction below with
  | @nil c rest =>
    obtain ⟨byte, bytes, filled⟩ := utf8EncodeChar_filled c
    rw [List.flatMap_nil, List.flatMap_cons, filled]
    exact .nil
  | rel smaller =>
    rw [List.flatMap_cons, List.flatMap_cons]
    exact utf8EncodeChar_before smaller _ _
  | @cons c rest more _ ih =>
    rw [List.flatMap_cons, List.flatMap_cons]
    induction String.utf8EncodeChar c with
    | nil => exact ih
    | cons byte bytes later => exact .cons later

-- The order of a table's keys, which goes by characters, is the order of their bytes.
theorem bytesBefore_of_lt {one other : String} (below : one < other) : BytesBefore one other := by
  rw [BytesBefore, utf8_eq, utf8_eq]
  exact flatMap_utf8EncodeChar_before (String.lt_iff.mp below)

theorem BytesBefore.asymm {one other : String} (before : BytesBefore one other) : ¬ BytesBefore other one :=
  List.lt_asymm before

end StyleTokens.Text
