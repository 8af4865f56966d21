import StyleTokens.Yaml.BlockScalar
import StyleTokens.Yaml.FlowScalar
import StyleTokens.Yaml.Tag

namespace StyleTokens.Yaml

namespace Scanner

def leaveBlocks (s : Scanner) : Option Scanner := do
  let s ← (s.closeBlocks (-1)).dropKey
  some { s with keyAllowed := false }

def openFlow (s : Scanner) (token : Token) : Option Scanner := do
  let s ← s.saveKey
  some ({ s with flowLevel := s.flowLevel + 1, keys := none :: s.keys, keyAllowed := true }.advance 1 |>.push token)

def closeFlow (s : Scanner) (token : Token) : Option Scanner := do
  let s ← s.dropKey
  let s := if s.inFlow then { s with flowLevel := s.flowLevel - 1, keys := s.keys.drop 1 } else s
  some ({ s with keyAllowed := false }.advance 1 |>.push token)

def takeFlowEntry (s : Scanner) : Option Scanner := do
  let s ← s.dropKey
  some ({ s with keyAllowed := true }.advance 1 |>.push .flowEntry)

def takeBlockEntry (s : Scanner) : Option Scanner :=
  if !s.inFlow && !s.keyAllowed then none
  else do
    let s ← (s.openBlock s.column .blockSequenceStart).dropKey
    some ({ s with keyAllowed := true }.advance 1 |>.push .blockEntry)

def takeKeyMark (s : Scanner) : Option Scanner :=
  if !s.inFlow && !s.keyAllowed then none
  else do
    let s ← (s.openBlock s.column .blockMappingStart).dropKey
    some ({ s with keyAllowed := !s.inFlow }.advance 1 |>.push .key)

-- The colon before a value: it makes a key of what started at the possible key, or follows a key that was written out.
def takeValueMark (s : Scanner) : Option Scanner :=
  match s.keys with
  | some key :: keys =>
    let s := s.insertKey key
    some ({ s with keys := none :: keys, keyAllowed := false }.advance 1 |>.push .value)
  | _ =>
    if !s.inFlow && !s.keyAllowed then none
    else
      let s := s.openBlock s.column .blockMappingStart
      some ({ s with keyAllowed := !s.inFlow }.advance 1 |>.push .value)

def takeKeyLike (s : Scanner) (take : Scanner → Option Scanner) : Option Scanner := do
  let s ← s.saveKey
  take { s with keyAllowed := false }

def takeBlockText (s : Scanner) (folded : Bool) : Option Scanner := do
  let s ← s.dropKey
  { s with keyAllowed := true }.takeBlock folded

def isIndicator (c : Char) : Bool := "-?:,[]\x7b\x7d#&*!|>'\"%@`".toList.contains c

def takeToken (s : Scanner) (c : Char) (rest : List Char) : Option Scanner :=
  if s.column == 0 && c == '%' then do (← s.leaveBlocks).takeDirective
  else if s.column == 0 && atBoundary '-' s.rest then do
    some ((← s.leaveBlocks).advance 3 |>.push .documentStart)
  else if s.column == 0 && atBoundary '.' s.rest then do
    some ((← s.leaveBlocks).advance 3 |>.push .documentEnd)
  else if c == '[' then s.openFlow .flowSequenceStart
  else if c == '\x7b' then s.openFlow .flowMappingStart
  else if c == ']' then s.closeFlow .flowSequenceEnd
  else if c == '\x7d' then s.closeFlow .flowMappingEnd
  else if c == ',' then s.takeFlowEntry
  else if c == '-' && atGap rest then s.takeBlockEntry
  else if c == '?' && (s.inFlow || atGap rest) then s.takeKeyMark
  else if c == ':' && (s.inFlow || atGap rest) then s.takeValueMark
  else if c == '*' then s.takeKeyLike (·.takeName .alias)
  else if c == '&' then s.takeKeyLike (·.takeName .anchor)
  else if c == '!' then s.takeKeyLike takeTag
  else if c == '|' && !s.inFlow then s.takeBlockText false
  else if c == '>' && !s.inFlow then s.takeBlockText true
  else if c == '\'' then s.takeKeyLike (·.takeQuoted true)
  else if c == '"' then s.takeKeyLike (·.takeQuoted false)
  else if !(isBlank c || isIndicator c) || (c == '-' && !(rest.head?.any isBlank)) ||
      (!s.inFlow && (c == '?' || c == ':') && !atGap rest) then s.takeKeyLike takePlain
  else none

-- Takes tokens up to the end of the text. Each takes a character at least, so the fuel exceeds their number.
def takeTokens : Nat → Scanner → Option (List Token)
  | 0, _ => none
  | fuel + 1, s => do
    let s ← (toNextToken (s.rest.length + 1) s).dropStaleKeys
    let s := s.closeBlocks s.column
    match s.rest with
    | [] =>
      let s ← s.leaveBlocks
      some (s.push .streamEnd).tokens.reverse
    | c :: rest => takeTokens fuel (← s.takeToken c rest)

end Scanner

def Token.ofText? (text : String) : Option (List Token) :=
  let chars := text.toList
  if chars.all isAllowed then Scanner.takeTokens (chars.length + 2) { rest := chars } else none

end StyleTokens.Yaml
