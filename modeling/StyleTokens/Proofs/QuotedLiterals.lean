import StyleTokens.Proofs.Descent
import StyleTokens.Proofs.Slices
import StyleTokens.Proofs.TokenPairs
import StyleTokens.Workspace

namespace StyleTokens

open Text (Between IsBoundary)

namespace SyntaxNode

-- Nodes that fill the bytes from one offset to another, each with text and each starting where the one before ends.
def Tiles : Nat → List SyntaxNode → Nat → Prop
  | start, [], stop => start = stop
  | start, piece :: rest, stop => piece.start = start ∧ piece.start < piece.stop ∧ Tiles piece.stop rest stop

-- A mark of one byte, without a name.
structure IsMark (node : SyntaxNode) (offset : Nat) : Prop where
  anonymous : node.info.named = false
  leaf : node.children = []
  start : node.start = offset
  stop : node.stop = offset + 1

structure IsPiece (node : SyntaxNode) : Prop where
  named : node.info.named = true
  leaf : node.children = []
  kind : node.kind = "string_fragment" ∨ node.kind = "escape_sequence"

-- A string as a parser gives it: a quote, then fragments and escape sequences in any number and order, then a quote.
structure Quoted (literal : SyntaxNode) (pieces : List SyntaxNode) : Prop where
  isString : literal.kind = "string"
  parts : ∃ opening closing, literal.children = opening :: (pieces ++ [closing]) ∧
    opening.IsMark literal.start ∧ closing.IsMark (literal.stop - 1)
  kinds : ∀ piece ∈ pieces, piece.IsPiece
  tiles : Tiles (literal.start + 1) pieces (literal.stop - 1)

-- The texts of nodes, one after the other.
def texts (content : String) (nodes : List SyntaxNode) : List Char := nodes.flatMap fun node => (node.text content).toList

@[simp] theorem texts_nil (content : String) : texts content [] = [] := rfl

@[simp] theorem texts_cons (content : String) (node : SyntaxNode) (rest : List SyntaxNode) :
    texts content (node :: rest) = (node.text content).toList ++ texts content rest := rfl

@[simp] theorem texts_append (content : String) (first last : List SyntaxNode) :
    texts content (first ++ last) = texts content first ++ texts content last := by simp [texts]

variable {literal : SyntaxNode} {pieces : List SyntaxNode} {content : String} {start stop : Nat}

theorem Tiles.ordered (tiles : Tiles start pieces stop) : start ≤ stop := by
  induction pieces generalizing start with
  | nil => exact Nat.le_of_eq tiles
  | cons piece rest ih =>
    obtain ⟨rfl, filled, onward⟩ := tiles
    have later := ih onward
    omega

theorem Tiles.filled (tiles : Tiles start pieces stop) : ∀ piece ∈ pieces, piece.start < piece.stop := by
  induction pieces generalizing start with
  | nil =>
    intro piece member
    cases member
  | cons first rest ih =>
    obtain ⟨-, filled, onward⟩ := tiles
    intro piece member
    rcases List.mem_cons.mp member with rfl | later
    · exact filled
    · exact ih onward piece later

theorem Tiles.bounds (tiles : Tiles start pieces stop) : ∀ piece ∈ pieces, start ≤ piece.start ∧ piece.stop ≤ stop := by
  induction pieces generalizing start with
  | nil =>
    intro piece member
    cases member
  | cons first rest ih =>
    obtain ⟨rfl, filled, onward⟩ := tiles
    intro piece member
    rcases List.mem_cons.mp member with rfl | later
    · exact ⟨Nat.le_refl _, onward.ordered⟩
    · have inner := ih onward piece later
      omega

theorem Tiles.pairwise (tiles : Tiles start pieces stop) : pieces.Pairwise fun one other => one.stop ≤ other.start := by
  induction pieces generalizing start with
  | nil => exact .nil
  | cons first rest ih =>
    obtain ⟨rfl, filled, onward⟩ := tiles
    exact List.pairwise_cons.mpr ⟨fun piece member => (onward.bounds piece member).1, ih onward⟩

-- The texts of the pieces, one after the other, are the text that the pieces fill.
theorem Tiles.between (tiles : Tiles start pieces stop) (first : IsBoundary content.toList start)
    (boundaries : ∀ piece ∈ pieces, IsBoundary content.toList piece.start ∧ IsBoundary content.toList piece.stop) :
    Between content.toList start stop (texts content pieces) := by
  induction pieces generalizing start with
  | nil =>
    cases tiles
    obtain ⟨before, after, split, width⟩ := first
    exact ⟨before, after, by simpa using split, width, by simp⟩
  | cons piece rest ih =>
    obtain ⟨rfl, filled, onward⟩ := tiles
    obtain ⟨begins, ends⟩ := boundaries piece (by simp)
    have own := between_text begins ends (Nat.le_of_lt filled)
    have others := ih onward ends fun other member => boundaries other (List.mem_cons_of_mem _ member)
    exact own.append others

theorem text_filled {node : SyntaxNode} (first : IsBoundary content.toList node.start)
    (last : IsBoundary content.toList node.stop) (filled : node.start < node.stop) : (node.text content).toList ≠ [] := by
  obtain ⟨-, -, -, -, width⟩ := between_text first last (Nat.le_of_lt filled)
  intro empty
  rw [empty, Text.byteLength_nil] at width
  omega

theorem texts_eq_nil_iff (filled : ∀ piece ∈ pieces, (piece.text content).toList ≠ []) :
    texts content pieces = [] ↔ pieces = [] := by
  constructor
  · intro empty
    rw [List.eq_nil_iff_forall_not_mem]
    intro piece member
    exact filled piece member (List.flatMap_eq_nil_iff.mp empty piece member)
  · rintro rfl
    rfl

-- One of several pieces with text is never all there is.
theorem text_eq_texts_iff {before after : List SyntaxNode} {piece : SyntaxNode}
    (filled : ∀ other ∈ before ++ piece :: after, (other.text content).toList ≠ []) :
    (piece.text content).toList = texts content (before ++ piece :: after) ↔ before = [] ∧ after = [] := by
  constructor
  · intro whole
    have lengths := congrArg List.length whole
    simp only [texts_append, texts_cons, List.length_append] at lengths
    have noneBefore : texts content before = [] := List.eq_nil_of_length_eq_zero (by omega)
    have noneAfter : texts content after = [] := List.eq_nil_of_length_eq_zero (by omega)
    rw [texts_eq_nil_iff fun other member => filled other (by simp [member])] at noneBefore noneAfter
    exact ⟨noneBefore, noneAfter⟩
  · rintro ⟨rfl, rfl⟩
    simp

namespace Quoted

theorem mem_of_piece {piece : SyntaxNode} (quoted : literal.Quoted pieces) (member : piece ∈ pieces) :
    piece ∈ literal.children := by
  obtain ⟨opening, closing, children, -, -⟩ := quoted.parts
  simp [children, member]

-- The quotes have no name, so the search among the children is one among the pieces.
theorem literalText?_eq (quoted : literal.Quoted pieces) (content : String) :
    literal.literalText? content = some ((pieces.find? (·.isStringFragment)).elim "" (·.text content)) := by
  obtain ⟨opening, closing, children, opens, closes⟩ := quoted.parts
  have named : ∀ piece ∈ pieces, (piece.info.named && piece.isStringFragment) = piece.isStringFragment := by
    intro piece member
    rw [(quoted.kinds piece member).named, Bool.true_and]
  have searched : literal.children.find? (fun child => child.info.named && child.isStringFragment) =
      pieces.find? (·.isStringFragment) := by
    rw [children, List.find?_cons_of_neg (by simp [opens.anonymous]), List.find?_append,
      List.find?_cons_of_neg (by simp [closes.anonymous]), List.find?_nil, Option.or_none, ← List.head?_filter,
      List.filter_congr named, List.head?_filter]
  have isString : literal.isString = true := by simp [SyntaxNode.isString, quoted.isString]
  rw [literalText?, if_pos isString, searched]
  cases pieces.find? (·.isStringFragment) <;> rfl

theorem single_text {fragment : SyntaxNode} (quoted : literal.Quoted [fragment])
    (isFragment : fragment.kind = "string_fragment") (content : String) :
    literal.literalText? content = some (fragment.text content) := by
  rw [quoted.literalText?_eq, List.find?_cons_of_pos (by simp [isStringFragment, isFragment])]
  rfl

theorem escape_of_not {piece : SyntaxNode} (quoted : literal.Quoted pieces) (member : piece ∈ pieces)
    (other : piece.isStringFragment = false) : piece.kind = "escape_sequence" := by
  rcases (quoted.kinds piece member).kind with fragment | escape
  · simp [isStringFragment, fragment] at other
  · exact escape

-- The first fragment gives the text, however many escape sequences stand before it and whatever follows.
theorem text_cases (quoted : literal.Quoted pieces) (content : String) :
    ((∀ piece ∈ pieces, piece.kind = "escape_sequence") ∧ literal.literalText? content = some "") ∨
      ∃ escapes fragment rest, pieces = escapes ++ fragment :: rest ∧
        (∀ piece ∈ escapes, piece.kind = "escape_sequence") ∧ fragment.kind = "string_fragment" ∧
        literal.literalText? content = some (fragment.text content) := by
  rw [quoted.literalText?_eq]
  cases found : pieces.find? (·.isStringFragment) with
  | none =>
    rw [List.find?_eq_none] at found
    left
    refine ⟨?_, rfl⟩
    intro piece member
    exact quoted.escape_of_not member (by simpa using found piece member)
  | some fragment =>
    obtain ⟨isFragment, escapes, rest, rfl, before⟩ := List.find?_eq_some_iff_append.mp found
    right
    refine ⟨escapes, fragment, rest, rfl, ?_, by simpa [isStringFragment] using isFragment, rfl⟩
    intro piece member
    exact quoted.escape_of_not (by simp [member]) (by simpa using before piece member)

variable (boundaries : ∀ node ∈ literal.preorder,
  IsBoundary content.toList node.start ∧ IsBoundary content.toList node.stop)

include boundaries

theorem piece_boundaries (quoted : literal.Quoted pieces) :
    ∀ piece ∈ pieces, IsBoundary content.toList piece.start ∧ IsBoundary content.toList piece.stop := by
  intro piece member
  exact boundaries piece (child_mem_preorder (quoted.mem_of_piece member) (self_mem_preorder literal))

theorem between_quotes (quoted : literal.Quoted pieces) :
    Between content.toList (literal.start + 1) (literal.stop - 1) (texts content pieces) := by
  obtain ⟨opening, closing, children, opens, -⟩ := quoted.parts
  have inside : opening ∈ literal.preorder := child_mem_preorder (by simp [children]) (self_mem_preorder literal)
  have first := (boundaries opening inside).2
  rw [opens.stop] at first
  exact quoted.tiles.between first (quoted.piece_boundaries boundaries)

theorem texts_filled (quoted : literal.Quoted pieces) : ∀ piece ∈ pieces, (piece.text content).toList ≠ [] := by
  intro piece member
  obtain ⟨begins, ends⟩ := quoted.piece_boundaries boundaries piece member
  exact text_filled begins ends (quoted.tiles.filled piece member)

end Quoted

-- What stands between the quotes is made of all pieces, but the text of a string is that of its first fragment alone.
-- So the two are the same only if there is nothing but one fragment, or nothing at all: with an escape sequence
-- anywhere the text is too short.
theorem quoted_text_exact (literal : SyntaxNode) (pieces : List SyntaxNode) (content : String)
    (quoted : literal.Quoted pieces)
    (boundaries : ∀ node ∈ literal.preorder, IsBoundary content.toList node.start ∧ IsBoundary content.toList node.stop) :
    ∃ inner text, Text.slice? content (literal.start + 1) (literal.stop - 1) = some inner ∧
      literal.literalText? content = some text ∧ inner = String.ofList (texts content pieces) ∧
      (((∀ piece ∈ pieces, piece.kind = "escape_sequence") ∧ text = "") ∨
        ∃ escapes fragment rest, pieces = escapes ++ fragment :: rest ∧
          (∀ piece ∈ escapes, piece.kind = "escape_sequence") ∧ fragment.kind = "string_fragment" ∧
          text = fragment.text content) ∧
      (text = inner ↔ pieces = [] ∨ ∃ fragment, pieces = [fragment] ∧ fragment.kind = "string_fragment") := by
  have filled := quoted.texts_filled boundaries
  have sliced : Text.slice? content (literal.start + 1) (literal.stop - 1) = some (String.ofList (texts content pieces)) :=
    Text.slice?_eq_some_iff.mpr (by rw [String.toList_ofList]; exact quoted.between_quotes boundaries)
  rcases quoted.text_cases content with ⟨escapes, read⟩ | ⟨escapes, fragment, rest, rfl, skipped, isFragment, read⟩
  · refine ⟨_, _, sliced, read, rfl, .inl ⟨escapes, rfl⟩, ?_⟩
    rw [eq_comm, ← String.toList_inj, String.toList_ofList, String.toList_empty, texts_eq_nil_iff filled]
    refine ⟨.inl, ?_⟩
    rintro (none | ⟨fragment, rfl, isFragment⟩)
    · exact none
    · rw [escapes fragment (by simp)] at isFragment
      simp at isFragment
  · refine ⟨_, _, sliced, read, rfl, .inr ⟨escapes, fragment, rest, rfl, skipped, isFragment, rfl⟩, ?_⟩
    rw [← String.toList_inj, String.toList_ofList, text_eq_texts_iff filled]
    constructor
    · rintro ⟨rfl, rfl⟩
      exact .inr ⟨fragment, rfl, isFragment⟩
    · rintro (none | ⟨single, one, -⟩)
      · simp at none
      · cases escapes with
        | nil => exact ⟨rfl, (List.cons.inj one).2⟩
        | cons first more => simp at one

end SyntaxNode

namespace Sample

theorem quoted_quoted (isKey : Bool) {start stop : Nat} (filled : start + 1 < stop - 1) :
    (quoted isKey start stop).Quoted [named "string_fragment" (start + 1) (stop - 1) []] where
  isString := rfl
  parts := ⟨mark "'" start, mark "'" (stop - 1), rfl, ⟨rfl, rfl, rfl, rfl⟩, ⟨rfl, rfl, rfl, rfl⟩⟩
  kinds := List.forall_mem_singleton.mpr ⟨rfl, rfl, .inl rfl⟩
  tiles := ⟨rfl, filled, rfl⟩

def escapedText : String := "(\x7b'md$a':'[x\\n]'\x7d)"

-- The value is in brackets, and an escape sequence stands between them.
def escapedPieces : List SyntaxNode :=
  [named "string_fragment" 10 12 [], named "escape_sequence" 12 14 [], named "string_fragment" 14 15 []]

def escapedValue : SyntaxNode :=
  .node ⟨"string", true, false, false, false, true, 9, 16⟩ (mark "'" 9 :: (escapedPieces ++ [mark "'" 15]))

def escapedPair : SyntaxNode := named "pair" 2 16 [quoted true 2 8, mark ":" 8, escapedValue]

def escapedTree : SyntaxNode :=
  named "program" 0 18 [named "expression_statement" 0 18 [named "parenthesized_expression" 0 18
    [mark "(" 0, named "object" 1 17 [mark "\x7b" 1, escapedPair, mark "\x7d" 16], mark ")" 17]]]

theorem escaped_quoted : escapedValue.Quoted escapedPieces where
  isString := rfl
  parts := ⟨mark "'" 9, mark "'" 15, rfl, ⟨rfl, rfl, rfl, rfl⟩, ⟨rfl, rfl, rfl, rfl⟩⟩
  kinds := List.forall_mem_cons.mpr ⟨⟨rfl, rfl, .inl rfl⟩, List.forall_mem_cons.mpr ⟨⟨rfl, rfl, .inr rfl⟩,
    List.forall_mem_singleton.mpr ⟨rfl, rfl, .inl rfl⟩⟩⟩
  tiles := ⟨rfl, by decide, rfl, by decide, rfl, by decide, rfl⟩

theorem escaped_boundaries : ∀ node ∈ escapedValue.preorder,
    IsBoundary escapedText.toList node.start ∧ IsBoundary escapedText.toList node.stop := by decide

theorem escaped_text_shortened :
    escapedValue.Quoted escapedPieces ∧
      ∃ inner text, Text.slice? escapedText 10 15 = some inner ∧ escapedValue.literalText? escapedText = some text ∧
        text ≠ inner := by
  obtain ⟨inner, text, sliced, read, -, -, whole⟩ :=
    SyntaxNode.quoted_text_exact escapedValue escapedPieces escapedText escaped_quoted escaped_boundaries
  refine ⟨escaped_quoted, inner, text, sliced, read, ?_⟩
  intro same
  rcases whole.mp same with none | ⟨fragment, single, -⟩
  · cases none
  · cases single

-- A value in brackets is to be taken as it is, and this one is refused: it is judged by what stands before the escape
-- sequence.
theorem escaped_brackets_refused :
    escapedValue.Quoted escapedPieces ∧ Text.slice? escapedText 10 15 = some "[x\\n]" ∧
      Arbitrary.isMarked "[x\\n]" = true ∧ escapedValue.literalText? escapedText = some "[x" ∧
      (Workspace.valueErrors config escapedTree escapedText).map (fun entry => (entry.code, entry.message)) =
        [(some (.number 2322), "Type ''[x\\n]'' is not assignable to type 'TokenValue'.")] :=
  ⟨escaped_quoted, rfl, rfl, rfl, by decide⟩

end Sample

end StyleTokens
