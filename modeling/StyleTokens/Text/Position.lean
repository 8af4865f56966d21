import StyleTokens.Text.Offset

namespace StyleTokens.Text

structure Position where
  line : UInt32
  character : UInt32
deriving DecidableEq, Repr, Inhabited

structure Range where
  start : Position
  stop : Position
deriving DecidableEq, Repr, Inhabited

namespace Position

def Before (p q : Position) : Prop := p.line < q.line ∨ (p.line = q.line ∧ p.character < q.character)

def AtMost (p q : Position) : Prop := p.line < q.line ∨ (p.line = q.line ∧ p.character ≤ q.character)

-- Scans forward with the current line, column and offset. It stops in the wanted line as soon as the line ends or the
-- next character would pass the wanted column.
def scan (p : Position) (line column offset : Nat) : List Char → Nat
  | [] => offset
  | c :: rest =>
    if line = p.line.toNat ∧ (c = '\n' ∨ p.character.toNat < column + unitCount c) then offset
    else if c = '\n' then p.scan (line + 1) 0 (offset + c.utf8Size) rest
    else p.scan line (column + unitCount c) (offset + c.utf8Size) rest

-- The byte offset of a position. Past the end of a line it is the line's end, past the last line the end of the text,
-- and inside a surrogate pair the start of the pair.
def offsetIn (p : Position) (text : String) : Nat := p.scan 0 0 0 text.toList

end Position

def breakEnds (offset : Nat) : List Char → List Nat
  | [] => []
  | c :: rest =>
    if c = '\n' then (offset + c.utf8Size) :: breakEnds (offset + c.utf8Size) rest
    else breakEnds (offset + c.utf8Size) rest

def unitsBefore : Nat → List Char → Nat
  | 0, _ => 0
  | _ + 1, [] => 0
  | bound + 1, c :: rest => unitCount c + unitsBefore (bound + 1 - c.utf8Size) rest

structure LineTable where
  text : List Char
  starts : List Nat

namespace LineTable

def ofText (text : String) : LineTable := ⟨text.toList, 0 :: breakEnds 0 text.toList⟩

def lineOf (table : LineTable) (offset : Nat) : Nat := (table.starts.takeWhile (· ≤ offset)).length - 1

-- The position of a byte offset; an offset past the end counts as the end, and one inside a character as just after
-- that character.
def position (table : LineTable) (offset : Nat) : Position :=
  let offset := min offset (byteLength table.text)
  let line := table.lineOf offset
  let start := table.starts.getD line 0
  ⟨line.toUInt32, (unitsBefore (offset - start) (dropBytes start table.text)).toUInt32⟩

def range (table : LineTable) (start stop : Nat) : Range := ⟨table.position start, table.position stop⟩

end LineTable

end StyleTokens.Text
