import StyleTokens.Text.Digits
import StyleTokens.Yaml.Scanner

namespace StyleTokens.Yaml

-- Blanks around a line break are dropped, a single break becomes a space, and further breaks stay.
structure Gap where
  blanks : List Char := []
  broken : Bool := false
  firstBreak : List Char := []
  laterBreaks : List Char := []

namespace Gap

def text (gap : Gap) : List Char :=
  if gap.broken then
    if gap.firstBreak == ['\n'] then
      if gap.laterBreaks.isEmpty then [' '] else gap.laterBreaks
    else gap.firstBreak ++ gap.laterBreaks
  else gap.blanks

end Gap

namespace Scanner

-- Passes blanks and line breaks. With an indentation given, a tab may not stand before it on a new line. The fuel
-- exceeds the number of characters left.
def takeGap (indent : Option Int) : Nat → Gap → Scanner → Option (Gap × Scanner)
  | 0, _, _ => none
  | fuel + 1, gap, s =>
    match s.rest with
    | c :: _ =>
      if isBlank c then
        if gap.broken then
          if indent.any ((s.column : Int) < ·) && c == '\t' then none
          else takeGap indent fuel gap (s.advance 1)
        else takeGap indent fuel { gap with blanks := gap.blanks ++ [c] } (s.advance 1)
      else if isBreak c then
        let (chars, s) := s.takeBreak
        if gap.broken then takeGap indent fuel { gap with laterBreaks := gap.laterBreaks ++ chars } s
        else takeGap indent fuel { gap with blanks := [], broken := true, firstBreak := chars } s
      else some (gap, s)
    | [] => some (gap, s)

-- The characters of a plain scalar up to the next gap or indicator. Inside brackets a colon may not stand directly
-- before an indicator of the brackets.
def plainWord? (flow : Bool) : List Char → Option (List Char)
  | [] => some []
  | c :: rest =>
    if isBlank c || isBreak c then some []
    else if flow && c == ':' && rest.head?.any (",?[]\x7b\x7d".toList.contains ·) then none
    else if (c == ':' && atGap rest) || (flow && ",[]\x7b\x7d".toList.contains c) then some []
    else (plainWord? flow rest).map (c :: ·)

-- Reads a plain scalar from one of its lines on. In a block it ends where the indentation does; a key may follow a line
-- break that ends it.
def plainLines (indent : Int) : Nat → List Char → Gap → Scanner → Option Scanner
  | 0, _, _, _ => none
  | fuel + 1, done, gap, s =>
    let finish (gap : Gap) (done : List Char) (s : Scanner) : Scanner :=
      let s := s.push (.scalar ⟨String.ofList done, true⟩)
      if gap.broken then { s with keyAllowed := true } else s
    if s.atDocumentMark || s.startsWith '#' then some (finish gap done s)
    else
      match plainWord? s.inFlow s.rest with
      | none => none
      | some word =>
        let (done, gap) := if word.isEmpty then (done, gap) else (done ++ gap.text ++ word, {})
        let s := s.advance word.length
        if !atGap s.rest || s.rest.isEmpty then some (finish gap done s)
        else
          match takeGap (some indent) (s.rest.length + 1) gap s with
          | none => none
          | some (gap, s) =>
            if !s.inFlow && (s.column : Int) < indent then some (finish gap done s)
            else plainLines indent fuel done gap s

def takePlain (s : Scanner) : Option Scanner := plainLines (s.indent + 1) (s.rest.length + 2) [] {} s

inductive QuotedPart where
  | stop
  | chars (text : List Char) (width : Nat)
  | joinedLine

def letterEscape? : Char → Option Char
  | '0' => some '\x00'
  | 'a' => some '\x07'
  | 'b' => some '\x08'
  | 't' => some '\t'
  | '\t' => some '\t'
  | 'n' => some '\n'
  | 'v' => some '\x0b'
  | 'f' => some '\x0c'
  | 'r' => some '\r'
  | 'e' => some '\x1b'
  | ' ' => some ' '
  | '"' => some '"'
  | '/' => some '/'
  | '\\' => some '\\'
  | 'N' => some '\x85'
  | '_' => some '\xa0'
  | 'L' => some '\u2028'
  | 'P' => some '\u2029'
  | _ => none

def codeWidth? : Char → Option Nat
  | 'x' => some 2
  | 'u' => some 4
  | 'U' => some 8
  | _ => none

def codeEscape? (width : Nat) (digits : List Char) : Option Char :=
  if digits.length ≠ width then none
  else do
    let code ← Text.hexNumber? digits
    if (0xd800 ≤ code && code ≤ 0xdfff) || 0x10ffff < code then none else some (Char.ofNat code)

def escapePart? (c : Char) (rest : List Char) : Option QuotedPart :=
  match codeWidth? c with
  | some width => do
    let meaning ← codeEscape? width (rest.take width)
    some (.chars [meaning] (width + 2))
  | none => do
    let meaning ← letterEscape? c
    some (.chars [meaning] 2)

-- In single quotes only the quote itself is written specially, by doubling it.
def quotedPart? (single : Bool) : List Char → Option QuotedPart
  | [] => some .stop
  | '\'' :: rest =>
    if single then
      if rest.head? == some '\'' then some (.chars ['\''] 2) else some .stop
    else some (.chars ['\''] 1)
  | '"' :: _ => if single then some (.chars ['"'] 1) else some .stop
  | '\\' :: rest =>
    if single then some (.chars ['\\'] 1)
    else
      match rest with
      | c :: rest => if isBreak c then some .joinedLine else escapePart? c rest
      | [] => none
  | c :: _ => if isBlank c || isBreak c then some .stop else some (.chars [c] 1)

def quotedWord (single : Bool) : Nat → List Char → Scanner → Option (List Char × Bool × Scanner)
  | 0, _, _ => none
  | fuel + 1, done, s =>
    match quotedPart? single s.rest with
    | none => none
    | some .stop => some (done.reverse, false, s)
    | some .joinedLine => some (done.reverse, true, (s.advance 1).skipBreak)
    | some (.chars text width) => quotedWord single fuel (text.reverse ++ done) (s.advance width)

def quotedLines (single : Bool) : Nat → List Char → Scanner → Option Scanner
  | 0, _, _ => none
  | fuel + 1, done, s =>
    if s.atDocumentMark || s.rest.isEmpty then none
    else
      match quotedWord single (s.rest.length + 1) [] s with
      | none => none
      | some (word, joined, s) =>
        let done := done ++ word
        if s.startsWith (if single then '\'' else '"') then
          some ((s.advance 1).push (.scalar ⟨String.ofList done, false⟩))
        else
          match takeGap none (s.rest.length + 1) { broken := joined } s with
          | none => none
          | some (gap, s) => quotedLines single fuel (done ++ gap.text) s

def takeQuoted (s : Scanner) (single : Bool) : Option Scanner :=
  quotedLines single (s.rest.length + 2) [] (s.advance 1)

end Scanner

end StyleTokens.Yaml
