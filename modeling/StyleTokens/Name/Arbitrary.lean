import StyleTokens.Text.WordChar

namespace StyleTokens.Arbitrary

def isQuote (c : Char) : Bool := c == '\'' || c == '"'

def isMarked (value : String) : Bool :=
  let text := value.toList
  2 ≤ text.length && text.head? == some '[' && text.getLast? == some ']'

structure Candidate where
  opening : List Char
  word : List Char
  closing : List Char
deriving DecidableEq, Repr

def Candidate.mark (candidate : Candidate) : String :=
  String.ofList (candidate.opening ++ '[' :: candidate.word ++ ']' :: candidate.closing)

-- The functions over any class of word characters. A word has hyphens as well.
section Over

variable (isWordChar : Char → Bool)

def isPartOver (c : Char) : Bool := isWordChar c || c == '-'

-- Takes a whole text apart. The two quotes need not agree.
def candidateOver? (literal : String) : Option Candidate :=
  let text := literal.toList
  let opening := (text.take 1).filter isQuote
  let rest := text.drop opening.length
  let word := rest.takeWhile (isPartOver isWordChar)
  let closing := rest.dropWhile (isPartOver isWordChar)
  if word.isEmpty then none
  else
    match closing with
    | [] => some ⟨opening, word, []⟩
    | [c] => if isQuote c then some ⟨opening, word, [c]⟩ else none
    | _ => none

def encodeOver (literal : String) : String :=
  match candidateOver? isWordChar literal with
  | some candidate => candidate.mark
  | none => literal

def tryEncodeOver? (literal : String) : Option String :=
  if (candidateOver? isWordChar literal).isSome then some (encodeOver isWordChar literal) else none

end Over

def isWordPart : Char → Bool := isPartOver Text.isWordChar

def encode : String → String := encodeOver Text.isWordChar

def tryEncode? : String → Option String := tryEncodeOver? Text.isWordChar

end StyleTokens.Arbitrary
