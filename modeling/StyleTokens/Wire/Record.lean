import StyleTokens.Wire.Decode

namespace StyleTokens

-- Part 0 is the record's own fields. A value that cannot be read has a place in the order of reading.
structure Fault where
  part : Nat
  place : Option Nat
  mismatch : Mismatch

-- Of several faults one is reported: those of the record's own fields come before those of its parts, a value that
-- cannot be read before a field that is missing, and else the first one in the order of reading, or of the record's
-- fields.
def Fault.first (left right : Fault) : Fault :=
  if left.part < right.part then left
  else if right.part < left.part then right
  else match left.place, right.place with
    | some i, some j => if j < i then right else left
    | none, some _ => right
    | _, none => left

-- Fields to be read together: their names in order, whether an array may end before them, the number of parts among
-- them, and how they are read from an object's entries.
structure Fields (α : Type) where
  names : List (String × Bool)
  parts : Nat
  read : List (String × Json) → Except Fault α

namespace Fields

def map (f : α → β) (fields : Fields α) : Fields β :=
  { fields with read := fun entries => (fields.read entries).map f }

def shift (parts : Nat) (fault : Fault) : Fault :=
  if fault.part = 0 then fault else { fault with part := fault.part + parts }

def seq (left : Fields (α → β)) (right : Unit → Fields α) : Fields β :=
  let right := right ()
  { names := left.names ++ right.names
    parts := left.parts + right.parts
    read := fun entries =>
      match left.read entries, right.read entries with
      | .ok f, .ok value => .ok (f value)
      | .error fault, .ok _ => .error fault
      | .ok _, .error fault => .error (shift left.parts fault)
      | .error first, .error second => .error (first.first (shift left.parts second)) }

instance : Applicative Fields where
  pure value := ⟨[], 0, fun _ => .ok value⟩
  map := map
  seq := seq

def readEntry (key : String) (decode : Decoder α) (entries : List (String × Json)) : Except Fault (Option α) :=
  match entries.findIdx? (·.1 == key), entries.lookup key with
  | some place, some value =>
    match decode value with
    | .ok found => .ok (some found)
    | .error mismatch => .error ⟨0, some place, mismatch⟩
  | _, _ => .ok none

def required (key : String) (decode : Decoder α) : Fields α :=
  { names := [(key, false)]
    parts := 0
    read := fun entries =>
      match readEntry key decode entries with
      | .ok (some found) => .ok found
      | .ok none => .error ⟨0, none, .missing key⟩
      | .error fault => .error fault }

def optional (key : String) (decode : Decoder α) : Fields (Option α) :=
  { names := [(key, false)]
    parts := 0
    read := fun entries => (readEntry key (Decoder.nullable decode) entries).map Option.join }

def defaulted (key : String) (value : α) (decode : Decoder α) : Fields α :=
  { names := [(key, true)]
    parts := 0
    read := fun entries => (readEntry key decode entries).map (·.getD value) }

def spread (fields : Fields α) : Fields α :=
  { names := []
    parts := 1
    read := fun entries => (fields.read entries).mapError fun fault =>
      { fault with part := 1, mismatch := fault.mismatch.inSpread } }

def others (names : List String) (decode : Decoder α) : Fields (List (String × α)) :=
  { names := []
    parts := 1
    read := fun entries =>
      (entries.filter fun entry => !names.contains entry.1).mapM fun (key, value) =>
        match decode value with
        | .ok found => .ok (key, found)
        | .error mismatch => .error ⟨1, some 0, mismatch.inSpread⟩ }

def all (fields : List (Fields Unit)) : Fields Unit := fields.foldr (fun first rest => first *> rest) (pure ())

def need (key : String) (decode : Decoder α) : Fields Unit := required key (Decoder.checked decode)

def may (key : String) (decode : Decoder α) : Fields Unit := map (fun _ => ()) (optional key decode)

def ofArray (record : String) (fields : Fields α) (items : List Json) : Except Mismatch α :=
  let lacking := (fields.names.drop items.length).findIdx? (!·.2)
  let count := fields.names.length
  let short := Mismatch.tooShort (items.length + lacking.getD 0) record count
  match fields.read ((fields.names.map Prod.fst).zip items) with
  | .error fault => .error (if fault.place.isSome then fault.mismatch else short)
  | .ok value =>
    if lacking.isSome then .error short
    else if count < items.length then .error (.tooLong items.length count false)
    else .ok value

end Fields

namespace Decoder

def record (name : String) (fields : Fields α) : Decoder α
  | .object given => (fields.read (entries given)).mapError Fault.mismatch
  | .array items =>
    if fields.parts = 0 then fields.ofArray name items
    else .error (.wrongType (.array items) ("struct " ++ name))
  | other => .error (.wrongType other ("struct " ++ name))

def form (name : String) (fields : List (Fields Unit)) : Decoder Unit := record name (Fields.all fields)

def tagged (tag : String) (alternatives : List (String × Decoder α)) : Decoder α := fun value =>
  let known := alternatives.map Prod.fst
  let choose (label rest : Json) : Except Mismatch α := do
    let label ← string label
    match alternatives.lookup label with
    | some decode => decode rest
    | none => .error (.unknownName label known)
  match value with
  | .object given =>
    match (entries given).lookup tag with
    | some label => choose label (.object (given.filter (·.1 != tag)))
    | none => .error (.missing tag)
  | .array (label :: rest) => choose label (.array rest)
  | .array [] => .error (.missing tag)
  | other => .error (.wrongType other "a tagged record")

end Decoder

end StyleTokens
