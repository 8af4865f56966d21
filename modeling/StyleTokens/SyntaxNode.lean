import StyleTokens.Text.Position

namespace StyleTokens

-- A node without its children. `isKey` and `isValue` tell its role in a pair.
structure NodeInfo where
  kind : String
  named : Bool
  isError : Bool
  isMissing : Bool
  isKey : Bool
  isValue : Bool
  start : Nat
  stop : Nat
deriving DecidableEq, Repr, Inhabited

inductive SyntaxNode where
  | node (info : NodeInfo) (children : List SyntaxNode)
deriving Repr, Inhabited

namespace SyntaxNode

def info : SyntaxNode → NodeInfo
  | .node info _ => info

def children : SyntaxNode → List SyntaxNode
  | .node _ children => children

def kind (node : SyntaxNode) : String := node.info.kind

def start (node : SyntaxNode) : Nat := node.info.start

def stop (node : SyntaxNode) : Nat := node.info.stop

mutual

def preorder : SyntaxNode → List SyntaxNode
  | .node info children => .node info children :: preorderAll children

def preorderAll : List SyntaxNode → List SyntaxNode
  | [] => []
  | first :: rest => first.preorder ++ preorderAll rest

end

def isFault (node : SyntaxNode) : Bool := node.info.isError || node.info.isMissing

def hasFault (node : SyntaxNode) : Bool := node.preorder.any isFault

mutual

-- Parts without any fault are not entered.
def faults : SyntaxNode → List SyntaxNode
  | .node info children =>
    if isFault (.node info children) then [.node info children]
    else if hasFault (.node info children) then faultsAll children
    else []

def faultsAll : List SyntaxNode → List SyntaxNode
  | [] => []
  | first :: rest => first.faults ++ faultsAll rest

end

-- The text is empty if the range does not cut the content between characters.
def text (node : SyntaxNode) (content : String) : String :=
  (Text.slice? content node.start node.stop).getD ""

def range (node : SyntaxNode) (lines : Text.LineTable) : Text.Range := lines.range node.start node.stop

def isPair (node : SyntaxNode) : Bool := node.kind == "pair"

def isString (node : SyntaxNode) : Bool := node.kind == "string"

def isStringFragment (node : SyntaxNode) : Bool := node.kind == "string_fragment"

def isNumber (node : SyntaxNode) : Bool := node.kind == "number"

def key? (pair : SyntaxNode) : Option SyntaxNode := pair.children.find? (·.info.isKey)

def value? (pair : SyntaxNode) : Option SyntaxNode := pair.children.find? (·.info.isValue)

def literalText? (node : SyntaxNode) (content : String) : Option String :=
  if node.isString then
    match node.children.find? fun child => child.info.named && child.isStringFragment with
    | some fragment => some (fragment.text content)
    | none => some ""
  else none

def pairs (root : SyntaxNode) : List SyntaxNode := root.preorder.filter isPair

structure Step where
  parent : SyntaxNode
  index : Nat

-- The last step stands first.
structure Cursor where
  node : SyntaxNode
  above : List Step := []

namespace Cursor

def parent? (cursor : Cursor) : Option Cursor :=
  match cursor.above with
  | [] => none
  | step :: above => some ⟨step.parent, above⟩

def isValueOfPair (cursor : Cursor) : Bool :=
  match cursor.above with
  | [] => false
  | step :: _ =>
    step.parent.isPair && step.parent.children.findIdx? (·.info.isValue) == some step.index

-- Inside a string literal the smallest node is its fragment; this goes up to the literal.
def toLiteral? (cursor : Cursor) : Option Cursor :=
  if cursor.node.isStringFragment then cursor.parent? else some cursor

end Cursor

-- A node ends before the offset: one with text is left at its end, an empty one after it.
def endsBefore (node : SyntaxNode) (offset : Nat) : Bool :=
  if node.start = node.stop then node.stop < offset else node.stop ≤ offset

mutual

-- Goes down to the offset, `last` being the smallest named node so far.
def seek (offset : Nat) (above : List Step) (last : Cursor) : SyntaxNode → Cursor
  | .node info children => seekAll offset (.node info children) above last 0 children

def seekAll (offset : Nat) (parent : SyntaxNode) (above : List Step) (last : Cursor) (index : Nat) :
    List SyntaxNode → Cursor
  | [] => last
  | child :: rest =>
    if child.endsBefore offset then seekAll offset parent above last (index + 1) rest
    else if offset < child.start then last
    else
      let above := ⟨parent, index⟩ :: above
      seek offset above (if child.info.named then ⟨child, above⟩ else last) child

end

def namedAt (root : SyntaxNode) (offset : Nat) : Cursor := seek offset [] ⟨root, []⟩ root

def ofRows? (rows : List (Nat × NodeInfo)) : Option SyntaxNode :=
  let forest := rows.foldr (fun (depth, info) (later : List (Nat × SyntaxNode)) =>
    let below := later.takeWhile (depth < ·.1)
    (depth, .node info (below.map (·.2))) :: later.drop below.length) []
  match forest with
  | [(0, root)] => some root
  | _ => none

end SyntaxNode

end StyleTokens
