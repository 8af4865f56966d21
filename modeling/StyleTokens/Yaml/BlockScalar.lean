import StyleTokens.Yaml.Scanner

namespace StyleTokens.Yaml

inductive Chomping where
  | strip
  | clip
  | keep
deriving DecidableEq

namespace Scanner

def takeChomping (s : Scanner) : Option Chomping × Scanner :=
  match s.rest with
  | '+' :: _ => (some .keep, s.advance 1)
  | '-' :: _ => (some .strip, s.advance 1)
  | _ => (none, s)

-- The digit may not be a zero, which stands for no digit at all.
def takeIncrement (s : Scanner) : Option (Nat × Scanner) :=
  match s.rest with
  | c :: _ =>
    if c == '0' then none
    else if '1' ≤ c && c ≤ '9' then some (c.toNat - '0'.toNat, s.advance 1)
    else some (0, s)
  | [] => some (0, s)

def takeHeader (s : Scanner) : Option (Chomping × Nat × Scanner) := do
  let (chomping, s) := s.takeChomping
  let (increment, s) ← s.takeIncrement
  let (later, s) := if chomping.isNone && 0 < increment then s.takeChomping else (none, s)
  let s := s.skipWhile isBlank
  let s := if s.startsWith '#' then s.skipWhile (!isBreak ·) else s
  let chomping := (chomping.or later).getD .clip
  match s.rest with
  | [] => some (chomping, increment, s)
  | c :: _ => if isBreak c then some (chomping, increment, s.skipBreak) else none

-- Passes indentation and empty lines. An indentation of zero is still to be found, and is then the deepest seen; a tab
-- may not stand in it.
def takeBreaks : Nat → (indent deepest : Nat) → List Char → Scanner → Option (List Char × Nat × Scanner)
  | 0, _, _, _, _ => none
  | fuel + 1, indent, deepest, breaks, s =>
    let spaces := (s.rest.takeWhile (· == ' ')).length
    let s := s.advance (if indent == 0 then spaces else min spaces (indent - s.column))
    let deepest := max deepest s.column
    if (indent == 0 || s.column < indent) && s.startsWith '\t' then none
    else if s.rest.head?.any isBreak then
      let (chars, s) := s.takeBreak
      takeBreaks fuel indent deepest (breaks ++ chars) s
    else if indent == 0 then
      some (breaks, max (max deepest (s.indent + 1).toNat) 1, s)
    else some (breaks, indent, s)

-- A folded scalar joins lines, except around lines that start with a blank. `lastBreak` is the break of the line
-- before, `breaks` those of the empty lines since, and `spaced` tells whether that line started with a blank.
def blockLines (folded : Bool) (indent : Nat) :
    Nat → (done lastBreak breaks : List Char) → (spaced : Bool) → Scanner →
      Option (List Char × List Char × List Char × Scanner)
  | 0, _, _, _, _, _ => none
  | fuel + 1, done, lastBreak, breaks, spaced, s =>
    if s.column == indent && !s.rest.isEmpty then
      let nextSpaced := s.rest.head?.any isBlank
      let joined :=
        if folded && lastBreak == ['\n'] && !spaced && !nextSpaced then
          if breaks.isEmpty then [' '] else []
        else lastBreak
      let line := s.rest.takeWhile (!isBreak ·)
      let (lineBreak, s) := (s.advance line.length).takeBreak
      match takeBreaks (s.rest.length + 1) indent 0 [] s with
      | none => none
      | some (laterBreaks, _, s) =>
        blockLines folded indent fuel (done ++ joined ++ breaks ++ line) lineBreak laterBreaks nextSpaced s
    else some (done, lastBreak, breaks, s)

def takeBlock (s : Scanner) (folded : Bool) : Option Scanner := do
  let (chomping, increment, s) ← (s.advance 1).takeHeader
  let indent := if increment == 0 then 0 else if 0 ≤ s.indent then s.indent.toNat + increment else increment
  let (breaks, indent, s) ← takeBreaks (s.rest.length + 1) indent 0 [] s
  let (text, lastBreak, breaks, s) ← blockLines folded indent (s.rest.length + 2) [] [] breaks false s
  let tail :=
    match chomping with
    | .strip => []
    | .clip => lastBreak
    | .keep => lastBreak ++ breaks
  some (s.push (.scalar ⟨String.ofList (text ++ tail), false⟩))

end Scanner

end StyleTokens.Yaml
