import StyleTokens.Name.Letter
import StyleTokens.Text.Digits

namespace StyleTokens.Text

structure CodeEntry where
  low : Nat
  high : Nat
  step : Nat := 1
  values : List Nat := []
  moving : Bool := false
deriving DecidableEq, Repr

namespace CodeEntry

def number (digits : List Char) : Nat := (hexNumber? digits).getD 0

def range (text : List Char) : CodeEntry :=
  match Name.pieces '-' text, Name.pieces '/' text with
  | [low, high], _ => { low := number low, high := number high }
  | _, [low, high] => { low := number low, high := number high, step := 2 }
  | _, _ => { low := number text, high := number text }

-- Entries are divided by blanks and give code points in hexadecimal. `41-5a` is a range, and `100/12e` is every second
-- code point of one. After an equals sign stand the values of all code points of the entry, divided by dots; after `>`
-- stands the value of its first code point, and the values of the others follow at the same distance.
def ofText (text : List Char) : CodeEntry :=
  match Name.pieces '=' text, Name.pieces '>' text with
  | [codes, values], _ => { range codes with values := (Name.pieces '.' values).map number }
  | _, [codes, first] => { range codes with values := [number first], moving := true }
  | _, _ => range text

def contains (entry : CodeEntry) (code : Nat) : Bool :=
  entry.low ≤ code && code ≤ entry.high && (code - entry.low) % entry.step = 0

def valuesAt (entry : CodeEntry) (code : Nat) : List Nat :=
  if entry.moving then entry.values.map (· + (code - entry.low)) else entry.values

end CodeEntry

structure CodeTable where
  entries : List CodeEntry

namespace CodeTable

def ofText (text : String) : CodeTable :=
  let blank := text.toList.map fun c => if c = '\n' then ' ' else c
  ⟨((Name.pieces ' ' blank).filter (· ≠ [])).map CodeEntry.ofText⟩

def contains (table : CodeTable) (code : Nat) : Bool := table.entries.any (·.contains code)

def find? (table : CodeTable) (code : Nat) : Option (List Nat) :=
  (table.entries.find? (·.contains code)).map (·.valuesAt code)

end CodeTable

end StyleTokens.Text
