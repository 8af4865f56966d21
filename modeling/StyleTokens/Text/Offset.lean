namespace StyleTokens.Text

def byteLength (text : List Char) : Nat := text.foldr (fun c total => c.utf8Size + total) 0

def unitCount (c : Char) : Nat := if c.val < 0x10000 then 1 else 2

def splitAt? : List Char → Nat → Option (List Char × List Char)
  | text, 0 => some ([], text)
  | [], _ + 1 => none
  | c :: rest, offset + 1 =>
    if c.utf8Size ≤ offset + 1 then
      (splitAt? rest (offset + 1 - c.utf8Size)).map fun (before, after) => (c :: before, after)
    else none

def IsBoundary (text : List Char) (offset : Nat) : Prop :=
  ∃ before after, text = before ++ after ∧ byteLength before = offset

def slice? (text : String) (start stop : Nat) : Option String := do
  if stop < start then none
  else
    let (_, after) ← splitAt? text.toList start
    let (inner, _) ← splitAt? after (stop - start)
    some (String.ofList inner)

-- What is left once the given number of bytes is passed; a character cut in the middle is dropped whole.
def dropBytes : Nat → List Char → List Char
  | 0, text => text
  | _ + 1, [] => []
  | offset + 1, c :: rest => dropBytes (offset + 1 - c.utf8Size) rest

@[simp] theorem byteLength_nil : byteLength [] = 0 := rfl

@[simp] theorem byteLength_cons (c : Char) (text : List Char) :
    byteLength (c :: text) = c.utf8Size + byteLength text := rfl

@[simp] theorem byteLength_append (first last : List Char) :
    byteLength (first ++ last) = byteLength first + byteLength last := by
  induction first with
  | nil => simp
  | cons c rest ih => rw [List.cons_append, byteLength_cons, byteLength_cons, ih, Nat.add_assoc]

theorem byteLength_toList (text : String) : byteLength text.toList = text.utf8ByteSize := by
  suffices h : ∀ characters : List Char, byteLength characters = (String.ofList characters).utf8ByteSize by
    rw [h, String.ofList_toList]
  intro characters
  induction characters with
  | nil => simp
  | cons c rest ih =>
    have apart : String.ofList (c :: rest) = String.singleton c ++ String.ofList rest := by
      rw [String.singleton_eq_ofList, ← String.ofList_append]; rfl
    rw [byteLength_cons, ih, apart, String.utf8ByteSize_append, String.utf8ByteSize_singleton]

end StyleTokens.Text
