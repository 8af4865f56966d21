import StyleTokens.Text.Offset
import StyleTokens.Yaml.Token

namespace StyleTokens.Yaml

-- A key of a mapping is known as one only when its colon is met, so the place of every possible key is kept, and the
-- tokens that announce a key are put in at that place afterwards. The key at a block mapping's own column is required:
-- without a colon the text is malformed.
structure PossibleKey where
  required : Bool
  count : Nat
  offset : Nat
  line : Nat
  column : Nat
deriving DecidableEq, Repr

structure Scanner where
  rest : List Char
  offset : Nat := 0
  line : Nat := 0
  column : Nat := 0
  flowLevel : Nat := 0
  keyAllowed : Bool := true
  indent : Int := -1
  indents : List Int := []
  keys : List (Option PossibleKey) := [none]
  tokens : List Token := []

namespace Scanner

def push (s : Scanner) (token : Token) : Scanner := { s with tokens := token :: s.tokens }

def advance (s : Scanner) (count : Nat) : Scanner :=
  { s with
    rest := s.rest.drop count
    offset := s.offset + Text.byteLength (s.rest.take count)
    column := s.column + count }

def skipWhile (s : Scanner) (test : Char → Bool) : Scanner := s.advance (s.rest.takeWhile test).length

def nextLine (s : Scanner) (count : Nat) : Scanner := { s.advance count with line := s.line + 1, column := 0 }

-- Passes a line break, if there is one, and gives the characters that it stands for: a line feed, except that the two
-- Unicode separators stand for themselves.
def takeBreak (s : Scanner) : List Char × Scanner :=
  match s.rest with
  | '\r' :: '\n' :: _ => (['\n'], s.nextLine 2)
  | c :: _ =>
    if c == '\u2028' || c == '\u2029' then ([c], s.nextLine 1)
    else if isBreak c then (['\n'], s.nextLine 1)
    else ([], s)
  | [] => ([], s)

def skipBreak (s : Scanner) : Scanner := s.takeBreak.2

def startsWith (s : Scanner) (c : Char) : Bool := s.rest.head? == some c

def inFlow (s : Scanner) : Bool := 0 < s.flowLevel

def atDocumentMark (s : Scanner) : Bool :=
  s.column == 0 && (atBoundary '-' s.rest || atBoundary '.' s.rest)

-- Passes blanks, comments and line breaks up to the next token. A tab may not stand where a key of a block mapping may
-- start. The fuel exceeds the number of line breaks.
def toNextToken : Nat → Scanner → Scanner
  | 0, s => s
  | fuel + 1, s =>
    let s := if s.column == 0 && s.startsWith '\ufeff' then s.advance 1 else s
    let s := s.skipWhile fun c => c == ' ' || ((s.inFlow || !s.keyAllowed) && c == '\t')
    let s := if s.startsWith '#' then s.skipWhile (!isBreak ·) else s
    match s.rest with
    | c :: _ =>
      if isBreak c then
        let s := s.skipBreak
        toNextToken fuel (if s.inFlow then s else { s with keyAllowed := true })
      else s
    | [] => s

def dropStaleKeys (s : Scanner) : Option Scanner := do
  let keys ← s.keys.mapM fun
    | some key =>
      if key.line < s.line || key.offset + 1024 < s.offset then
        if key.required then none else some none
      else some (some key)
    | none => some none
  some { s with keys }

def dropKey (s : Scanner) : Option Scanner :=
  match s.keys with
  | some key :: keys => if key.required then none else some { s with keys := none :: keys }
  | _ => some s

def saveKey (s : Scanner) : Option Scanner :=
  if s.keyAllowed then do
    let required := !s.inFlow && s.indent == s.column
    let key : PossibleKey := ⟨required, s.tokens.length, s.offset, s.line, s.column⟩
    let s ← s.dropKey
    some { s with keys := some key :: s.keys.drop 1 }
  else some s

def openBlock (s : Scanner) (column : Nat) (start : Token) : Scanner :=
  if !s.inFlow && s.indent < column then
    { s.push start with indents := s.indent :: s.indents, indent := column }
  else s

def closeBlocks (s : Scanner) (column : Int) : Scanner :=
  if s.inFlow then s
  else
    let levels := s.indent :: s.indents
    let closed := levels.takeWhile (column < ·)
    let kept := levels.drop closed.length
    { s with
      tokens := closed.map (fun _ => Token.blockEnd) ++ s.tokens
      indent := kept.headD (-1)
      indents := kept.drop 1 }

def insertKey (s : Scanner) (key : PossibleKey) : Scanner :=
  let later := s.tokens.length - key.count
  let opens := !s.inFlow && s.indent < key.column
  let announced := if opens then [Token.key, Token.blockMappingStart] else [Token.key]
  let s := { s with tokens := s.tokens.take later ++ announced ++ s.tokens.drop later }
  if opens then { s with indents := s.indent :: s.indents, indent := key.column } else s

end Scanner

end StyleTokens.Yaml
