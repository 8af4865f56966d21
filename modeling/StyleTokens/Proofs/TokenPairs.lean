import Mathlib.Data.List.Nodup
import StyleTokens.Proofs.TreePlaces
import StyleTokens.SourceFile
import StyleTokens.TokenPair

namespace StyleTokens

open Text (LineTable)

namespace SyntaxNode

-- Of the nodes in a role the first counts.
def IsFirst (fits : SyntaxNode → Prop) (nodes : List SyntaxNode) (node : SyntaxNode) : Prop :=
  ∃ before after, nodes = before ++ node :: after ∧ fits node ∧ ∀ other ∈ before, ¬ fits other

theorem isFirst_iff_find? {test : SyntaxNode → Bool} {fits : SyntaxNode → Prop}
    (tested : ∀ node, test node = true ↔ fits node) {nodes : List SyntaxNode} {node : SyntaxNode} :
    IsFirst fits nodes node ↔ nodes.find? test = some node := by
  rw [List.find?_eq_some_iff_append, tested]
  constructor
  · rintro ⟨before, after, split, passes, earlier⟩
    exact ⟨passes, before, after, split, by simpa [← tested] using earlier⟩
  · rintro ⟨passes, before, after, split, earlier⟩
    exact ⟨before, after, split, passes, by simpa [← tested] using earlier⟩

def IsFragment (node : SyntaxNode) : Prop := node.info.named = true ∧ node.kind = "string_fragment"

theorem isFragment_iff (node : SyntaxNode) : (node.info.named && node.isStringFragment) = true ↔ node.IsFragment := by
  simp [IsFragment, isStringFragment]

-- The text that a string literal writes: that of its first fragment, and the empty one if it has no fragment.
inductive Writes (content : String) (node : SyntaxNode) : String → Prop where
  | fragment {first : SyntaxNode} (literal : node.kind = "string") (isFirst : IsFirst IsFragment node.children first) :
      Writes content node (first.text content)
  | empty (literal : node.kind = "string") (bare : ∀ child ∈ node.children, ¬ child.IsFragment) :
      Writes content node ""

theorem writes_iff_literalText? {content text : String} {node : SyntaxNode} :
    node.Writes content text ↔ node.literalText? content = some text := by
  constructor
  · rintro (⟨literal, isFirst⟩ | ⟨literal, bare⟩)
    · simp [literalText?, isString, literal, (isFirst_iff_find? isFragment_iff).mp isFirst]
    · have lacks : node.children.find? (fun child => child.info.named && child.isStringFragment) = none :=
        List.find?_eq_none.mpr fun child member fits => bare child member ((isFragment_iff child).mp fits)
      simp [literalText?, isString, literal, lacks]
  · intro found
    unfold literalText? at found
    split at found
    · rename_i isString
      have literal : node.kind = "string" := by simpa [SyntaxNode.isString] using isString
      split at found
      · rename_i first has
        cases Option.some.inj found
        exact .fragment literal ((isFirst_iff_find? isFragment_iff).mpr has)
      · rename_i lacks
        cases Option.some.inj found
        exact .empty literal fun child member fits =>
          List.find?_eq_none.mp lacks child member ((isFragment_iff child).mpr fits)
    · cases found

end SyntaxNode

namespace TokenPair

open SyntaxNode (IsFirst isFirst_iff_find? writes_iff_literalText?)

-- What makes a node a token pair, condition by condition, for a node of any kind. The reports are
-- stated with this reading; that the walk over the pairs agrees with it is `ofTree_eq`.
def ofNode? (content : String) (node : SyntaxNode) : Option TokenPair :=
  if node.kind = "pair" then
    match node.key? with
    | none => none
    | some key =>
      match key.literalText? content with
      | none => none
      | some name => if Property.isName name = true then some ⟨node, key, name⟩ else none
  else none

theorem ofNode?_eq_some {content : String} {node : SyntaxNode} {token : TokenPair} :
    ofNode? content node = some token ↔
      token.pair = node ∧ node.kind = "pair" ∧ node.key? = some token.key ∧
        token.key.literalText? content = some token.name ∧ Property.isName token.name = true := by
  constructor
  · intro found
    unfold ofNode? at found
    split at found
    · rename_i kind
      split at found
      · cases found
      · rename_i key hasKey
        split at found
        · cases found
        · rename_i name text
          split at found
          · rename_i shape
            cases Option.some.inj found
            exact ⟨rfl, kind, hasKey, text, shape⟩
          · cases found
    · cases found
  · rintro ⟨rfl, kind, hasKey, text, shape⟩
    simp [ofNode?, kind, hasKey, text, shape]

-- The same conditions without a search.
structure Reads (content : String) (token : TokenPair) : Prop where
  pair : token.pair.kind = "pair"
  key : IsFirst (·.info.isKey = true) token.pair.children token.key
  name : token.key.Writes content token.name
  shape : Property.isName token.name = true

theorem ofNode?_eq_some_iff_reads {content : String} {node : SyntaxNode} {token : TokenPair} :
    ofNode? content node = some token ↔ token.pair = node ∧ token.Reads content := by
  rw [ofNode?_eq_some]
  constructor
  · rintro ⟨rfl, kind, hasKey, text, shape⟩
    exact ⟨rfl, kind, (isFirst_iff_find? fun _ => Iff.rfl).mpr hasKey, writes_iff_literalText?.mpr text, shape⟩
  · rintro ⟨rfl, kind, key, name, shape⟩
    exact ⟨rfl, kind, (isFirst_iff_find? fun _ => Iff.rfl).mp key, writes_iff_literalText?.mp name, shape⟩

-- The text of the value. A value that is no string has none, and a pair may lack a value.
inductive Holds (content : String) (token : TokenPair) : Option String → Prop where
  | text {value : SyntaxNode} {text : String} (isValue : IsFirst (·.info.isValue = true) token.pair.children value)
      (written : value.Writes content text) : Holds content token (some text)
  | other (unwritten : ∀ value, IsFirst (·.info.isValue = true) token.pair.children value → value.kind ≠ "string") :
      Holds content token none

theorem holds_literal? (content : String) (token : TokenPair) : token.Holds content (token.literal? content) := by
  cases found : token.literal? content with
  | some text =>
    obtain ⟨value, isValue, written⟩ := Option.bind_eq_some_iff.mp found
    exact .text ((isFirst_iff_find? fun _ => Iff.rfl).mpr isValue) (writes_iff_literalText?.mpr written)
  | none =>
    refine .other fun value isValue literal => ?_
    have unwritten := Option.bind_eq_none_iff.mp found value ((isFirst_iff_find? fun _ => Iff.rfl).mp isValue)
    simp only [SyntaxNode.literalText?, SyntaxNode.isString, literal, beq_self_eq_true, if_true] at unwritten
    split at unwritten <;> cases unwritten

theorem ofNode?_eq_ofPair? (content : String) (node : SyntaxNode) :
    ofNode? content node = if node.isPair then ofPair? content node else none := by
  by_cases pair : node.kind = "pair"
  · have isPair : node.isPair = true := by simp [SyntaxNode.isPair, pair]
    simp only [ofNode?, ofPair?, pair, isPair, if_true]
    cases node.key? with
    | none => rfl
    | some key => cases text : key.literalText? content <;> simp [text]
  · simp [ofNode?, SyntaxNode.isPair, pair]

end TokenPair

namespace SyntaxNode

-- The token pairs of a tree in the order of the document.
def tokens (root : SyntaxNode) (content : String) : List TokenPair :=
  root.preorder.filterMap (TokenPair.ofNode? content)

-- The same, each with its place.
def tokenPlaces (root : SyntaxNode) (content : String) : List (List Nat × TokenPair) :=
  root.places.filterMap fun place => (TokenPair.ofNode? content place.2).map (place.1, ·)

theorem mem_tokenPlaces {root : SyntaxNode} {content : String} {path : List Nat} {token : TokenPair} :
    (path, token) ∈ root.tokenPlaces content ↔ root.nodeAt? path = some token.pair ∧ token.Reads content := by
  simp only [tokenPlaces, List.mem_filterMap, Option.map_eq_some_iff, TokenPair.ofNode?_eq_some_iff_reads]
  constructor
  · rintro ⟨⟨path, node⟩, member, found, ⟨rfl, reads⟩, same⟩
    cases same
    exact ⟨mem_places.mp member, reads⟩
  · rintro ⟨place, reads⟩
    exact ⟨(path, token.pair), mem_places.mpr place, token, ⟨rfl, reads⟩, rfl⟩

theorem tokenPlaces_ordered (root : SyntaxNode) (content : String) :
    (root.tokenPlaces content).Pairwise PathBefore := by
  refine List.Pairwise.filterMap _ ?_ (placedBy_ordered _ _ root)
  rintro ⟨path, node⟩ ⟨path', node'⟩ before one found other found'
  obtain ⟨token, -, rfl⟩ := Option.map_eq_some_iff.mp found
  obtain ⟨token', -, rfl⟩ := Option.map_eq_some_iff.mp found'
  exact before

theorem tokenPlaces_tokens (root : SyntaxNode) (content : String) :
    (root.tokenPlaces content).map Prod.snd = root.tokens content := by
  rw [tokenPlaces, List.map_filterMap, tokens, ← places_nodes, List.filterMap_map]
  refine List.filterMap_congr fun place _ => ?_
  cases found : TokenPair.ofNode? content place.2 <;> simp [found]

end SyntaxNode

namespace TokenPair

theorem ofTree_eq (root : SyntaxNode) (content : String) : ofTree root content = root.tokens content := by
  unfold ofTree SyntaxNode.pairs SyntaxNode.tokens
  induction root.preorder with
  | nil => rfl
  | cons node rest ih =>
    rw [List.filterMap_cons, ofNode?_eq_ofPair?]
    by_cases pair : node.isPair
    · rw [List.filter_cons_of_pos pair, List.filterMap_cons, ih, if_pos pair]
    · rw [List.filter_cons_of_neg pair, ih, if_neg pair]

theorem parts {root : SyntaxNode} {content : String} {token : TokenPair} (member : token ∈ root.tokens content) :
    token.pair ∈ root.preorder ∧ token.pair.isPair = true ∧ token.key ∈ token.pair.children ∧
      token.key.kind = "string" := by
  obtain ⟨node, within, found⟩ := List.mem_filterMap.mp member
  obtain ⟨rfl, kind, hasKey, literal, -⟩ := ofNode?_eq_some.mp found
  refine ⟨within, by simp [SyntaxNode.isPair, kind], List.mem_of_find?_eq_some hasKey, ?_⟩
  by_contra other
  simp [SyntaxNode.literalText?, SyntaxNode.isString, other] at literal

end TokenPair

-- What the reports need of a parser's tree: a token pair starts where its key starts, and no two token
-- pairs start at one position. Two occurrences of equal nodes count as two pairs.
structure KeysInPlace (root : SyntaxNode) (content : String) : Prop where
  atKey : ∀ token ∈ root.tokens content, token.pair.start = token.key.start
  apart : (root.tokens content).Pairwise fun one other =>
    (LineTable.ofText content).position one.pair.start ≠ (LineTable.ofText content).position other.pair.start

instance (root : SyntaxNode) (content : String) : Decidable (KeysInPlace root content) :=
  decidable_of_iff (_ ∧ _) ⟨fun both => ⟨both.1, both.2⟩, fun placed => ⟨placed.atKey, placed.apart⟩⟩

theorem KeysInPlace.unique {root : SyntaxNode} {content : String} (placed : KeysInPlace root content)
    {one other : TokenPair} (member : one ∈ root.tokens content) (member' : other ∈ root.tokens content)
    (same : (LineTable.ofText content).position one.key.start = (LineTable.ofText content).position other.key.start) :
    one = other := by
  rw [← placed.atKey one member, ← placed.atKey other member'] at same
  exact List.inj_on_of_nodup_map (List.pairwise_map.mpr placed.apart) member member' same

namespace Sample

def text : String := "(\x7be:'😀',\n'md$a':\x7b'lg$b':'red'\x7d,'x$c':4\x7d)"

def named (kind : String) (start stop : Nat) (children : List SyntaxNode) : SyntaxNode :=
  .node ⟨kind, true, false, false, false, false, start, stop⟩ children

def mark (kind : String) (start : Nat) : SyntaxNode :=
  .node ⟨kind, false, false, false, false, false, start, start + 1⟩ []

-- A quoted string with one fragment, in the role of a key or a value.
def quoted (isKey : Bool) (start stop : Nat) : SyntaxNode :=
  .node ⟨"string", true, false, false, isKey, !isKey, start, stop⟩
    [mark "'" start, named "string_fragment" (start + 1) (stop - 1) [], mark "'" (stop - 1)]

def innerPair : SyntaxNode := named "pair" 20 32 [quoted true 20 26, mark ":" 26, quoted false 27 32]

def inner : SyntaxNode :=
  .node ⟨"object", true, false, false, false, true, 19, 33⟩ [mark "\x7b" 19, innerPair, mark "\x7d" 32]

-- The tree of the text: a pair with a plain key, a token pair around another one, and one with a number.
def tree : SyntaxNode :=
  named "program" 0 43 [named "expression_statement" 0 43 [named "parenthesized_expression" 0 43
    [mark "(" 0,
     named "object" 1 42
      [mark "\x7b" 1,
       named "pair" 2 10
        [.node ⟨"property_identifier", true, false, false, true, false, 2, 3⟩ [], mark ":" 3, quoted false 4 10],
       mark "," 10,
       named "pair" 12 33 [quoted true 12 18, mark ":" 18, inner],
       mark "," 33,
       named "pair" 34 41
        [quoted true 34 39, mark ":" 39, .node ⟨"number", true, false, false, false, true, 40, 41⟩ []],
       mark "\x7d" 41],
     mark ")" 42]]]

def uri : Uri := ⟨⟨"file:///a.ts", "/a.ts"⟩, "file:///a.ts", rfl⟩

def file : SourceFile := ⟨uri, text, 1, some tree⟩

-- One responsive variant and nothing else.
def config : Config := { responsive := .ofList [("md", "wide")] }

end Sample

end StyleTokens
