import StyleTokens.Yaml.Lexer

namespace StyleTokens.Yaml

-- Anchors are numbered by how many names have been anchored before, and an alias holds the number that its name has at
-- that place. The node that a number stands for in the end is the last one that was given it.
inductive Node where
  | alias (target : Nat)
  | scalar (anchor : Option Nat) (content : Scalar)
  | sequence (anchor : Option Nat) (items : List Node)
  | mapping (anchor : Option Nat) (entries : List (Node × Node))
deriving Repr, Inhabited

namespace Node

def nothing : Node := .scalar none ⟨"", true⟩

def anchor? : Node → Option Nat
  | .alias _ => none
  | .scalar anchor _ | .sequence anchor _ | .mapping anchor _ => anchor

mutual

def subnodes : Node → List Node
  | .alias target => [.alias target]
  | .scalar anchor content => [.scalar anchor content]
  | .sequence anchor items => .sequence anchor items :: subnodesOfItems items
  | .mapping anchor entries => .mapping anchor entries :: subnodesOfEntries entries

def subnodesOfItems : List Node → List Node
  | [] => []
  | item :: rest => item.subnodes ++ subnodesOfItems rest

def subnodesOfEntries : List (Node × Node) → List Node
  | [] => []
  | (key, value) :: rest => key.subnodes ++ value.subnodes ++ subnodesOfEntries rest

end

-- A collection is announced and closed; anything else is announced only.
def eventCount (node : Node) : Nat :=
  node.subnodes.foldl (fun total below =>
    match below with
    | .sequence .. | .mapping .. => total + 2
    | .alias _ | .scalar .. => total + 1) 0

def target? (root : Node) (target : Nat) : Option Node :=
  root.subnodes.reverse.find? (·.anchor? == some target)

end Node

structure Reader where
  tokens : List Token
  anchors : List (String × Nat) := []

namespace Reader

def drop (r : Reader) : Reader := { r with tokens := r.tokens.drop 1 }

def startsWith (r : Reader) (tokens : List Token) : Bool := r.tokens.head?.any (tokens.contains ·)

-- Gives a name the number of names anchored before, the name itself included if it was.
def setAnchor (r : Reader) (name : String) : Nat × Reader :=
  let number := r.anchors.length
  (number, { r with anchors := (name, number) :: r.anchors.filter (·.1 ≠ name) })

def takeProperties (handles : List String) (r : Reader) : Option (Option String × Bool × Reader) :=
  let known (handle : String) : Bool := handle.isEmpty || handles.contains handle
  match r.tokens with
  | .anchor name :: .tag handle :: rest | .tag handle :: .anchor name :: rest =>
    if known handle then some (some name, true, { r with tokens := rest }) else none
  | .anchor name :: rest => some (some name, true, { r with tokens := rest })
  | .tag handle :: rest => if known handle then some (none, true, { r with tokens := rest }) else none
  | _ => some (none, false, r)

mutual

-- Reads a node. A sequence may stand without deeper indentation as a value of a block mapping. Every call but one in
-- three takes a token, so the fuel is a multiple of the number of tokens.
def takeNode (handles : List String) :
    Nat → (block indentless : Bool) → Reader → Option (Node × Reader)
  | 0, _, _, _ => none
  | fuel + 1, block, indentless, r =>
    match r.tokens with
    | .alias name :: _ => do some (.alias (← r.anchors.lookup name), r.drop)
    | _ => do
      let (name, marked, r) ← r.takeProperties handles
      let (anchor, r) : Option Nat × Reader :=
        match name with
        | some name => let (number, r) := r.setAnchor name; (some number, r)
        | none => (none, r)
      match r.tokens with
      | .scalar content :: _ => some (.scalar anchor content, r.drop)
      | .flowSequenceStart :: _ =>
        let (items, r) ← takeFlowItems handles fuel true r.drop
        some (.sequence anchor items, r)
      | .flowMappingStart :: _ =>
        let (entries, r) ← takeFlowEntries handles fuel true r.drop
        some (.mapping anchor entries, r)
      | token :: _ =>
        if indentless && token == .blockEntry then do
          let (items, r) ← takeIndentlessItems handles fuel r
          some (.sequence anchor items, r)
        else if block && token == .blockSequenceStart then do
          let (items, r) ← takeBlockItems handles fuel r.drop
          some (.sequence anchor items, r)
        else if block && token == .blockMappingStart then do
          let (entries, r) ← takeBlockEntries handles fuel r.drop
          some (.mapping anchor entries, r)
        else if marked then some (.scalar anchor ⟨"", true⟩, r)
        else none
      | [] => none

def takeUnless (handles : List String) :
    Nat → (block indentless : Bool) → List Token → Reader → Option (Node × Reader)
  | 0, _, _, _, _ => none
  | fuel + 1, block, indentless, stops, r =>
    if r.startsWith stops then some (Node.nothing, r) else takeNode handles fuel block indentless r

def takeBlockItems (handles : List String) : Nat → Reader → Option (List Node × Reader)
  | 0, _ => none
  | fuel + 1, r =>
    match r.tokens with
    | .blockEntry :: _ => do
      let (item, r) ← takeUnless handles fuel true false [.blockEntry, .blockEnd] r.drop
      let (items, r) ← takeBlockItems handles fuel r
      some (item :: items, r)
    | .blockEnd :: _ => some ([], r.drop)
    | _ => none

def takeIndentlessItems (handles : List String) : Nat → Reader → Option (List Node × Reader)
  | 0, _ => none
  | fuel + 1, r =>
    match r.tokens with
    | .blockEntry :: _ => do
      let (item, r) ← takeUnless handles fuel true false [.blockEntry, .key, .value, .blockEnd] r.drop
      let (items, r) ← takeIndentlessItems handles fuel r
      some (item :: items, r)
    | _ => some ([], r)

def takeBlockEntries (handles : List String) : Nat → Reader → Option (List (Node × Node) × Reader)
  | 0, _ => none
  | fuel + 1, r =>
    match r.tokens with
    | .key :: _ => do
      let (key, r) ← takeUnless handles fuel true true [.key, .value, .blockEnd] r.drop
      let (value, r) ←
        if r.startsWith [.value] then takeUnless handles fuel true true [.key, .value, .blockEnd] r.drop
        else some (Node.nothing, r)
      let (entries, r) ← takeBlockEntries handles fuel r
      some ((key, value) :: entries, r)
    | .blockEnd :: _ => some ([], r.drop)
    | _ => none

-- Items between brackets, divided by commas; a single pair counts as a mapping. A marked key that is left out takes the
-- token after it with it.
def takeFlowItems (handles : List String) : Nat → (first : Bool) → Reader → Option (List Node × Reader)
  | 0, _, _ => none
  | fuel + 1, first, r =>
    if r.startsWith [.flowSequenceEnd] then some ([], r.drop)
    else if !first && !r.startsWith [.flowEntry] then none
    else
      let r := if first then r else r.drop
      match r.tokens with
      | .flowSequenceEnd :: _ => some ([], r.drop)
      | .key :: _ => do
        let r := r.drop
        let (key, r) ←
          if r.startsWith [.value, .flowEntry, .flowSequenceEnd] then some (Node.nothing, r.drop)
          else takeNode handles fuel false false r
        let (value, r) ←
          if r.startsWith [.value] then
            takeUnless handles fuel false false [.flowEntry, .flowSequenceEnd] r.drop
          else some (Node.nothing, r)
        let (items, r) ← takeFlowItems handles fuel false r
        some (.mapping none [(key, value)] :: items, r)
      | _ => do
        let (item, r) ← takeNode handles fuel false false r
        let (items, r) ← takeFlowItems handles fuel false r
        some (item :: items, r)

def takeFlowEntries (handles : List String) :
    Nat → (first : Bool) → Reader → Option (List (Node × Node) × Reader)
  | 0, _, _ => none
  | fuel + 1, first, r =>
    if r.startsWith [.flowMappingEnd] then some ([], r.drop)
    else if !first && !r.startsWith [.flowEntry] then none
    else
      let r := if first then r else r.drop
      match r.tokens with
      | .flowMappingEnd :: _ => some ([], r.drop)
      | .key :: _ => do
        let (key, r) ← takeUnless handles fuel false false [.value, .flowEntry, .flowMappingEnd] r.drop
        let (value, r) ←
          if r.startsWith [.value] then
            takeUnless handles fuel false false [.flowEntry, .flowMappingEnd] r.drop
          else some (Node.nothing, r)
        let (entries, r) ← takeFlowEntries handles fuel false r
        some ((key, value) :: entries, r)
      | _ => do
        let (key, r) ← takeNode handles fuel false false r
        let (entries, r) ← takeFlowEntries handles fuel false r
        some ((key, Node.nothing) :: entries, r)

end

-- The handles declared before a document. There may be one version, of the first major number, and each handle may be
-- declared once.
def takeDirectives : (versioned : Bool) → List String → List Token → Option (List String × List Token)
  | versioned, handles, .version major minor :: rest =>
    if versioned || major ≠ 1 || (minor ≠ 1 && minor ≠ 2) then none else takeDirectives true handles rest
  | versioned, handles, .tagDirective handle :: rest =>
    if handles.contains handle then none else takeDirectives versioned (handle :: handles) rest
  | _, handles, rest => some (handles, rest)

end Reader

def defaultHandles : List String := ["!", "!!"]

def Node.ofTokens? (tokens : List Token) : Option (Option Node) := do
  let fuel := 4 * tokens.length + 4
  let (declared, rest) ← Reader.takeDirectives false [] tokens
  let handles := declared ++ defaultHandles
  match rest with
  | [.streamEnd] => if rest.length == tokens.length then some none else none
  | _ =>
    let (root, r) ←
      match rest with
      | .documentStart :: rest =>
        let r : Reader := { tokens := rest }
        let ends := match rest with
          | .version .. :: _ | .tagDirective _ :: _ | .documentStart :: _ | .documentEnd :: _
          | .streamEnd :: _ => true
          | _ => false
        if ends then some (Node.nothing, r) else Reader.takeNode handles fuel true false r
      | _ =>
        if rest.length == tokens.length then Reader.takeNode handles fuel true false { tokens } else none
    if r.tokens.dropWhile (· == .documentEnd) == [.streamEnd] then some (some root) else none

def Node.ofText? (text : String) : Option (Option Node) := do Node.ofTokens? (← Token.ofText? text)

end StyleTokens.Yaml
