namespace StyleTokens.Uri.Punycode

def digitChar (digit : Nat) : Char :=
  if digit < 26 then Char.ofNat ('a'.toNat + digit) else Char.ofNat ('0'.toNat + digit - 26)

def digitValue? (c : Char) : Option Nat :=
  if 'a' ≤ c && c ≤ 'z' then some (c.toNat - 'a'.toNat)
  else if 'A' ≤ c && c ≤ 'Z' then some (c.toNat - 'A'.toNat)
  else if '0' ≤ c && c ≤ '9' then some (c.toNat - '0'.toNat + 26)
  else none

-- A digit below this one ends its number.
def threshold (position bias : Nat) : Nat := max 1 (min 26 (position - bias))

def settle (distance position : Nat) : Nat :=
  if 455 < distance then settle (distance / 35) (position + 36)
  else position + 36 * distance / (distance + 38)
termination_by distance

def adapt (distance count : Nat) (first : Bool) : Nat :=
  let damped := if first then distance / 700 else distance / 2
  settle (damped + damped / count) 0

def digits (bias position distance : Nat) : List Char :=
  let limit := threshold position bias
  if distance < limit then [digitChar distance]
  else
    digitChar (limit + (distance - limit) % (36 - limit)) ::
      digits bias (position + 36) ((distance - limit) / (36 - limit))
termination_by distance
decreasing_by
  have : (distance - threshold position bias) / (36 - threshold position bias) ≤ distance - threshold position bias :=
    Nat.div_le_self _ _
  have : 1 ≤ threshold position bias := Nat.le_max_left _ _
  omega

structure Progress where
  output : List Char := []
  distance : Nat := 0
  bias : Nat := 72
  count : Nat

def Progress.pass (basic code : Nat) (progress : Progress) (other : Nat) : Progress :=
  if other < code then { progress with distance := progress.distance + 1 }
  else if other = code then
    { output := progress.output ++ digits progress.bias 36 progress.distance
      distance := 0
      bias := adapt progress.distance (progress.count + 1) (progress.count = basic)
      count := progress.count + 1 }
  else progress

-- The codes ascend, and `next` is the least one not yet considered.
def writeCodes (text : List Nat) (basic next : Nat) (progress : Progress) : List Nat → Progress
  | [] => progress
  | code :: rest =>
    let arrived := { progress with distance := progress.distance + (code - next) * (progress.count + 1) }
    let written := text.foldl (Progress.pass basic code) arrived
    writeCodes text basic (code + 1) { written with distance := written.distance + 1 } rest

def insertCode (code : Nat) : List Nat → List Nat
  | [] => [code]
  | other :: rest =>
    if code < other then code :: other :: rest
    else if code = other then other :: rest
    else other :: insertCode code rest

def encode (text : List Nat) : List Char :=
  let basic := text.filter (· < 0x80)
  let codes := (text.filter (0x80 ≤ ·)).foldr insertCode []
  let written := writeCodes text basic.length 0x80 { count := basic.length } codes
  basic.map Char.ofNat ++ (if basic.isEmpty then [] else ['-']) ++ written.output

def readDistance (bias position weight total : Nat) : List Char → Option (Nat × List Char)
  | [] => none
  | c :: rest =>
    match digitValue? c with
    | none => none
    | some digit =>
      let limit := threshold position bias
      if digit < limit then some (total + digit * weight, rest)
      else readDistance bias (position + 36) (weight * (36 - limit)) (total + digit * weight) rest

-- Each distance takes up a character of the input, which bounds the steps.
def insertAll : Nat → (bias place code : Nat) → List Nat → List Char → Option (List Nat)
  | _, _, _, _, done, [] => some done
  | 0, _, _, _, _, _ => none
  | fuel + 1, bias, place, code, done, input =>
    match readDistance bias 36 1 0 input with
    | none => none
    | some (distance, rest) =>
      let count := done.length + 1
      let total := place + distance
      let code := code + total / count
      let place := total % count
      if 0x10ffff < code || (0xd800 ≤ code && code < 0xe000) then none
      else
        insertAll fuel (adapt distance count (done.all (· < 0x80))) (place + 1) code
          (done.take place ++ code :: done.drop place) rest

def decode? (input : List Char) : Option (List Nat) :=
  let tail := (input.reverse.takeWhile (· != '-')).reverse
  let basic := if tail.length = input.length then [] else input.take (input.length - tail.length - 1)
  if basic.all (·.toNat < 0x80) then
    insertAll (tail.length + 1) 72 0 0x80 (basic.map Char.toNat) tail
  else none

end StyleTokens.Uri.Punycode
