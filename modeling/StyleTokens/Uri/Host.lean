import StyleTokens.Uri.Address
import StyleTokens.Uri.Domain

namespace StyleTokens

inductive UriError where
  | relative
  | emptyHost
  | invalidDomain
  | invalidHostCharacter
  | invalidFourByteAddress
  | invalidEightPieceAddress
  | invalidPort
deriving DecidableEq, Repr

def UriError.message : UriError → String
  | .relative => "relative URL without a base"
  | .emptyHost => "empty host"
  | .invalidDomain => "invalid international domain name"
  | .invalidHostCharacter => "invalid domain character"
  | .invalidFourByteAddress => "invalid IPv4 address"
  | .invalidEightPieceAddress => "invalid IPv6 address"
  | .invalidPort => "invalid port number"

namespace Uri

def bracketed (text : List Char) : Except UriError (List Char) :=
  if text.getLast? == some ']' then
    match EightPiece.parse? (text.drop 1).dropLast with
    | some pieces => .ok ('[' :: EightPiece.render pieces ++ [']'])
    | none => .error .invalidEightPieceAddress
  else .error .invalidEightPieceAddress

def namedHost (text : List Char) : Except UriError (List Char) :=
  if text.head? == some '[' then bracketed text
  else
    match (decode? text).bind Domain.toAscii? with
    | none => .error .invalidDomain
    | some domain =>
      if domain.isEmpty then .error .emptyHost
      else if FourByte.isMeant domain then
        match FourByte.parse? domain with
        | some address => .ok (FourByte.render address)
        | none => .error .invalidFourByteAddress
      else .ok domain

def opaqueHost (text : List Char) : Except UriError (List Char) :=
  if text.head? == some '[' then bracketed text
  else if text.any Domain.isForbiddenInHost then .error .invalidHostCharacter
  else .ok (encode isControl text)

end Uri

end StyleTokens
