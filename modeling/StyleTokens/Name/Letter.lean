import StyleTokens.Text.Digits

namespace StyleTokens.Name

def isLower (c : Char) : Bool := 'a' ≤ c && c ≤ 'z'

def isUpper (c : Char) : Bool := 'A' ≤ c && c ≤ 'Z'

def isLetter (c : Char) : Bool := isLower c || isUpper c

def isLowerOrDigit (c : Char) : Bool := isLower c || Text.isDigit c

def isLetterOrDigit (c : Char) : Bool := isLetter c || Text.isDigit c

def isLowerRest (c : Char) : Bool := isLowerOrDigit c || c == '-'

def isRest (c : Char) : Bool := isLetterOrDigit c || c == '-'

def isWord (first rest : Char → Bool) : List Char → Bool
  | [] => false
  | c :: cs => first c && cs.all rest

-- The pieces between the separators, one more than there are separators.
def pieces (separator : Char) : List Char → List (List Char)
  | [] => [[]]
  | c :: cs =>
    if c = separator then [] :: pieces separator cs
    else
      match pieces separator cs with
      | [] => [[c]]
      | piece :: others => (c :: piece) :: others

end StyleTokens.Name
