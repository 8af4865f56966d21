import StyleTokens.Config
import StyleTokens.Name.Letter

namespace StyleTokens

-- In `md$hover$color` the variants are `md` and `hover`.
structure Property where
  responsive : Option String
  selector : Option String
  cssProperty : String
deriving DecidableEq, Repr

namespace Property

def separator : Char := '$'

def isVariant (text : List Char) : Bool := Name.isWord Name.isLowerOrDigit Name.isLowerRest text

def isCssProperty : List Char → Bool
  | '-' :: text => Name.isWord Name.isLower Name.isLowerRest text
  | text => Name.isWord Name.isLower Name.isLowerRest text

def afterVariant? : List Char → Option (List Char)
  | [] => none
  | c :: rest =>
    if Name.isLowerOrDigit c then
      match rest.dropWhile Name.isLowerRest with
      | '$' :: after => some after
      | _ => none
    else none

def isName (name : String) : Bool :=
  match afterVariant? name.toList with
  | none => false
  | some after => isCssProperty after || (afterVariant? after).any isCssProperty

def encode (property : Property) : String :=
  let variant (name : Option String) : String := name.elim "" (·.push separator)
  variant property.responsive ++ variant property.selector ++ property.cssProperty

-- Reads the pieces of a well-formed name. A single variant is a responsive one if the config has it, else a selector;
-- of two, the first is responsive and the second a selector.
def ofPieces? (config : Config) : List String → Option Property
  | [variant, css] =>
    if config.hasResponsive variant then some ⟨some variant, none, css⟩
    else if config.hasSelector variant then some ⟨none, some variant, css⟩
    else none
  | [responsive, selector, css] =>
    if config.hasResponsive responsive && config.hasSelector selector then
      some ⟨some responsive, some selector, css⟩
    else none
  | _ => none

def decode? (config : Config) (name : String) : Option Property :=
  if isName name then ofPieces? config ((Name.pieces separator name.toList).map String.ofList)
  else none

end Property

end StyleTokens
