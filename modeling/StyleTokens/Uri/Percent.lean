import StyleTokens.Text.Digits

namespace StyleTokens.Uri

def isControl (c : Char) : Bool := c.toNat < 0x20 || 0x7f ≤ c.toNat

def inFragmentSet (c : Char) : Bool := isControl c || " \"<>`".toList.contains c

def inQuerySet (special : Bool) (c : Char) : Bool :=
  isControl c || " \"#<>".toList.contains c || (special && c == '\'')

def inPathSet (c : Char) : Bool := inFragmentSet c || "#?\x7b\x7d".toList.contains c

def inUserSet (c : Char) : Bool := inPathSet c || "/:;=@[\\]^|".toList.contains c

def percent (byte : UInt8) : List Char :=
  let digits := (Text.hexDigits byte.toNat).map Char.toUpper
  '%' :: List.replicate (2 - digits.length) '0' ++ digits

def encodeChar (test : Char → Bool) (c : Char) : List Char :=
  if test c then c.toString.toUTF8.toList.flatMap percent else [c]

def encode (test : Char → Bool) (text : List Char) : List Char := text.flatMap (encodeChar test)

-- The bytes of a text. A percent sign without two digits after it stands for itself.
def decodeBytes : List Char → List UInt8
  | [] => []
  | '%' :: high :: low :: rest =>
    match Text.hexNumber? [high, low] with
    | some byte => byte.toUInt8 :: decodeBytes rest
    | none => '%'.toString.toUTF8.toList ++ decodeBytes (high :: low :: rest)
  | c :: rest => c.toString.toUTF8.toList ++ decodeBytes rest

def decode? (text : List Char) : Option (List Char) :=
  (String.fromUTF8? (decodeBytes text).toByteArray).map String.toList

end StyleTokens.Uri
