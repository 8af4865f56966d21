import StyleTokens.Config
import StyleTokens.Name.Letter

namespace StyleTokens

structure Reference where
  themeKey : String
  token : String
deriving DecidableEq, Repr

namespace Reference

def mark : Char := '$'

def divider : Char := '.'

def isThemeKey (text : List Char) : Bool := Name.isWord Name.isLetter Name.isRest text

def isToken (text : List Char) : Bool := Name.isWord Name.isLetterOrDigit Name.isRest text

def isName (name : String) : Bool :=
  match name.toList with
  | '$' :: c :: rest =>
    Name.isLetter c &&
      match rest.dropWhile Name.isRest with
      | '.' :: token => isToken token
      | _ => false
  | _ => false

def encode (reference : Reference) : String :=
  String.singleton mark ++ reference.themeKey ++ String.singleton divider ++ reference.token

def shortName (reference : Reference) : String := String.singleton mark ++ reference.token

def decode? (name : String) : Option Reference :=
  match name.toList with
  | '$' :: rest =>
    let key := rest.takeWhile (· ≠ divider)
    match rest.dropWhile (· ≠ divider) with
    | _ :: token =>
      if isThemeKey key && isToken token then some ⟨String.ofList key, String.ofList token⟩ else none
    | [] => none
  | _ => none

def resolve? (reference : Reference) (config : Config) : Option String :=
  config.themeValue? reference.themeKey reference.token

end Reference

end StyleTokens
