import StyleTokens.Server

namespace StyleTokens

open Text (Position)

namespace Fields

variable {α β γ : Type} {entries : List (String × Json)}

theorem findIdx?_of_lookup {key : String} {value : Json} (there : entries.lookup key = some value) :
    ∃ place, entries.findIdx? (·.1 == key) = some place := by
  induction entries with
  | nil => cases there
  | cons head rest ih =>
    rw [Table.lookup_entry] at there
    by_cases same : key = head.1
    · exact ⟨0, by simp [List.findIdx?_cons, same]⟩
    · rw [if_neg same] at there
      obtain ⟨place, found⟩ := ih there
      exact ⟨place + 1, by simp [List.findIdx?_cons, Ne.symm same, found]⟩

theorem required_read {key : String} {decode : Decoder α} {value : Json} {found : α}
    (there : entries.lookup key = some value) (readable : decode value = .ok found) :
    (required key decode).read entries = .ok found := by
  obtain ⟨place, index⟩ := findIdx?_of_lookup there
  simp [required, readEntry, index, there, readable]

theorem pair_read {f : α → β → γ} {left : Fields α} {right : Fields β} {a : α} {b : β}
    (first : left.read entries = .ok a) (second : right.read entries = .ok b) :
    (f <$> left <*> right).read entries = .ok (f a b) := by
  simp [Functor.map, Seq.seq, map, seq, first, second, Except.map]

end Fields

theorem Decoder.word32_ofNat (n : UInt32) : Decoder.word32 (.ofNat n.toNat) = .ok n := by
  have inside : (0 ≤ (n.toNat : Int) && (n.toNat : Int) < UInt32.size) = true := by
    have small := n.toNat_lt_size
    simp only [Bool.and_eq_true, decide_eq_true_eq]
    omega
  rw [word32, Json.ofNat, integer, if_pos inside]
  exact congrArg Except.ok n.ofNat_toNat

-- Two fields of different names are both found among the entries, in whatever order these stand.
theorem Decoder.entries_lookup {first second : String} (apart : first ≠ second) (one other : Json) :
    (entries [(first, one), (second, other)]).lookup first = some one ∧
      (entries [(first, one), (second, other)]).lookup second = some other := by
  have found (key : String) : (entries [(first, one), (second, other)]).lookup key =
      if key = second then some other else if key = first then some one else none := by
    change ((Table.empty.insert first one).insert second other).get? key = _
    rw [Table.get?_insert, Table.get?_insert]
    rfl
  exact ⟨by rw [found, if_neg apart, if_pos rfl], by rw [found, if_pos rfl]⟩

-- A record of two fields that are written under different names is read as it was written.
theorem Decoder.record_pair {α β γ : Type} {first second name : String} (apart : first ≠ second) {f : α → β → γ}
    {decode : Decoder α} {decode' : Decoder β} {one other : Json} {a : α} {b : β} (readable : decode one = .ok a)
    (readable' : decode' other = .ok b) :
    Decoder.record name (f <$> Fields.required first decode <*> Fields.required second decode')
      (.object [(first, one), (second, other)]) = .ok (f a b) := by
  obtain ⟨there, there'⟩ := entries_lookup apart one other
  rw [record, Fields.pair_read (Fields.required_read there readable) (Fields.required_read there' readable')]
  rfl

theorem Text.Position.decode_toJson (position : Position) : Position.decode position.toJson = .ok position :=
  Decoder.record_pair (by decide) (Decoder.word32_ofNat _) (Decoder.word32_ofNat _)

-- Where an item was asked for can be read off the item again, if its URI is one that reading leaves as it is.
theorem Origin.ofData?_toJson (origin : Origin) (normal : Uri.parse origin.uri.text = .ok origin.uri) :
    Origin.ofData? origin.toJson = some origin := by
  have uri : Uri.decode origin.uri.toJson = .ok origin.uri := by simp [Uri.decode, Uri.toJson, normal]
  have decoded : Origin.decode origin.toJson = .ok origin :=
    Decoder.record_pair (by decide) uri (Position.decode_toJson origin.position)
  rw [ofData?, decoded]
  rfl

end StyleTokens
