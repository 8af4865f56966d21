import StyleTokens.Proofs.OfferedTokens
import StyleTokens.Proofs.QuotedLiterals
import StyleTokens.Proofs.SmallestNode

namespace StyleTokens

open Text (Position)

namespace SyntaxNode

variable {node literal : SyntaxNode} {pieces : List SyntaxNode} {offset : Nat}

-- The byte belongs to the string or to a fragment of it. What is an escape sequence has a name of its own, and its
-- bytes are not counted here.
def HasByte (literal : SyntaxNode) (offset : Nat) : Prop :=
  literal.Smallest offset ∨ ∃ fragment ∈ literal.children, fragment.kind = "string_fragment" ∧ fragment.Smallest offset

theorem IsPiece.smallest (piece : node.IsPiece) (covers : node.Covers offset) : node.Smallest offset := by
  refine ⟨piece.named, covers, ?_⟩
  intro child member
  rw [piece.leaf] at member
  cases member

namespace Quoted

variable (quoted : literal.Quoted pieces)

include quoted

theorem mem_children {child : SyntaxNode} (member : child ∈ literal.children) :
    child ∈ pieces ∨ (child.info.named = false ∧ child.children = []) := by
  obtain ⟨opening, closing, children, opens, closes⟩ := quoted.parts
  rw [children, List.mem_cons, List.mem_append, List.mem_singleton] at member
  rcases member with rfl | among | rfl
  · exact .inr ⟨opens.anonymous, opens.leaf⟩
  · exact .inl among
  · exact .inr ⟨closes.anonymous, closes.leaf⟩

-- Where the pieces are leaves that fill the string, the byte is counted unless an escape sequence has it.
theorem hasByte_iff (named : literal.info.named = true) :
    literal.HasByte offset ↔
      literal.Covers offset ∧ ∀ piece ∈ pieces, piece.kind = "escape_sequence" → ¬ piece.Covers offset := by
  constructor
  · rintro (own | ⟨fragment, member, isFragment, smallest⟩)
    · refine ⟨own.covers, ?_⟩
      intro piece among escape covers
      have anonymous := own.inside piece (quoted.mem_of_piece among) piece (self_mem_preorder piece) covers
      rw [(quoted.kinds piece among).named] at anonymous
      cases anonymous
    · rcases quoted.mem_children member with among | ⟨anonymous, -⟩
      · have bounds := quoted.tiles.bounds fragment among
        obtain ⟨fromStart, toStop⟩ := smallest.covers
        refine ⟨⟨by omega, by omega⟩, ?_⟩
        intro piece other escape covers
        have same := unique_of_covers quoted.tiles.pairwise among other smallest.covers covers
        rw [same, isFragment] at escape
        simp at escape
      · rw [smallest.named] at anonymous
        cases anonymous
  · rintro ⟨covers, free⟩
    by_cases covered : ∃ piece ∈ pieces, piece.Covers offset
    · obtain ⟨piece, among, within⟩ := covered
      rcases (quoted.kinds piece among).kind with fragment | escape
      · exact .inr ⟨piece, quoted.mem_of_piece among, fragment, (quoted.kinds piece among).smallest within⟩
      · exact absurd within (free piece among escape)
    · refine .inl ⟨named, covers, ?_⟩
      intro child member
      rcases quoted.mem_children member with among | ⟨anonymous, leaf⟩
      · exact .of_leaf (quoted.kinds child among).leaf fun within => absurd ⟨child, among, within⟩ covered
      · exact .of_leaf leaf fun _ => anonymous

end Quoted

variable {root pair : SyntaxNode} {index : Nat}

-- The place among the children and the node at it tell the same value, as no other child has the byte.
theorem isValueOfPair_iff (ordered : pair.children.Pairwise fun one other => one.stop ≤ other.start)
    (place : pair.children[index]? = some literal) (covers : literal.Covers offset) (above : List Step) :
    Cursor.isValueOfPair ⟨literal, ⟨pair, index⟩ :: above⟩ = true ↔ pair.kind = "pair" ∧ pair.value? = some literal := by
  have same : pair.children.findIdx? (·.info.isValue) = some index ↔ pair.value? = some literal := by
    rw [List.findIdx?_eq_some_iff_getElem, value?, List.find?_eq_some_iff_getElem]
    constructor
    · rintro ⟨bound, isValue, before⟩
      obtain ⟨-, rfl⟩ := List.getElem?_eq_some_iff.mp place
      exact ⟨isValue, index, bound, rfl, fun j earlier => by simpa using before j earlier⟩
    · rintro ⟨isValue, found, bound, stands, before⟩
      obtain rfl := index_unique ordered (List.getElem?_eq_some_iff.mpr ⟨bound, stands⟩) place covers covers
      exact ⟨bound, by rw [stands]; exact isValue, fun j earlier => by simpa using before j earlier⟩
  simp [Cursor.isValueOfPair, isPair, same]

-- The strings in question: values of pairs that have the byte.
structure ValueAt (root : SyntaxNode) (offset : Nat) (pair literal : SyntaxNode) : Prop where
  within : pair ∈ root.preorder
  isPair : pair.kind = "pair"
  hasValue : pair.value? = some literal
  isString : literal.kind = "string"
  hasByte : literal.HasByte offset

-- The root has nothing above it, so the cursor is at a smallest node, and the string is that node or its parent.
theorem valueAt_of_cursor {cursor : Cursor} (laid : Laid root) (solid : SolidAt root offset)
    (found : (root.namedAt offset).toLiteral? = some cursor) (isString : cursor.node.kind = "string")
    (isValue : cursor.isValueOfPair = true) : ∃ pair, ValueAt root offset pair cursor.node := by
  unfold Cursor.toLiteral? at found
  rcases namedAt_cases laid solid with stays | ⟨target, step, above, ends, way, smallest⟩
  · rw [stays] at found
    split at found
    · cases found
    · cases found
      simp [Cursor.isValueOfPair] at isValue
  · rw [ends] at found
    cases way with
    | @down _ parent _ index way place =>
      have member := List.mem_of_getElem? place
      split at found
      · rename_i fragment
        cases found
        cases way with
        | here => simp [Cursor.isValueOfPair] at isValue
        | @down _ pair _ outer way outerPlace =>
          have within := way.mem_preorder
          have covers := laid.covers_parent (child_mem_preorder (List.mem_of_getElem? outerPlace) within) member smallest.covers
          obtain ⟨isPair, hasValue⟩ := (isValueOfPair_iff (laid.ordered pair within) outerPlace covers _).mp isValue
          have kind : target.kind = "string_fragment" := by simpa [isStringFragment] using fragment
          exact ⟨pair, within, isPair, hasValue, isString, .inr ⟨target, member, kind, smallest⟩⟩
      · cases found
        have within := way.mem_preorder
        obtain ⟨isPair, hasValue⟩ := (isValueOfPair_iff (laid.ordered parent within) place smallest.covers _).mp isValue
        exact ⟨parent, within, isPair, hasValue, isString, .inl smallest⟩

theorem HasByte.covers (laid : Laid root) (within : literal ∈ root.preorder) (hasByte : literal.HasByte offset) :
    literal.Covers offset := by
  rcases hasByte with own | ⟨fragment, member, -, smallest⟩
  · exact own.covers
  · exact laid.covers_parent within member smallest.covers

theorem cursor_of_valueAt (laid : Laid root) (solid : SolidAt root offset) (value : ValueAt root offset pair literal) :
    ∃ cursor, (root.namedAt offset).toLiteral? = some cursor ∧ cursor.node = literal ∧ cursor.isValueOfPair = true := by
  have member := List.mem_of_find?_eq_some value.hasValue
  have below := child_mem_preorder member value.within
  have covers := value.hasByte.covers laid below
  have ordered := laid.ordered pair value.within
  have pairLaid := laid.below value.within
  have pairSolid := solid.below value.within
  obtain ⟨above, last, toPair⟩ :=
    seek_reaches laid solid value.within (laid.covers_parent value.within member covers) [] ⟨root, []⟩
  rcases value.hasByte with own | ⟨fragment, among, isFragment, smallest⟩
  · obtain ⟨index, place, ends⟩ := seek_child pairLaid pairSolid member own above last
    have whole : literal.isStringFragment = false := by simp [isStringFragment, value.isString]
    refine ⟨⟨literal, ⟨pair, index⟩ :: above⟩, ?_, rfl, ?_⟩
    · rw [namedAt, toPair, ends, Cursor.toLiteral?, whole]
      rfl
    · exact (isValueOfPair_iff ordered place covers above).mpr ⟨value.isPair, value.hasValue⟩
  · obtain ⟨index, place, enters⟩ := seek_enters pairLaid pairSolid member covers above last
    obtain ⟨inner, -, ends⟩ := seek_child (laid.below below) (solid.below below) among smallest
      (⟨pair, index⟩ :: above) (entered pair above last index literal)
    have part : fragment.isStringFragment = true := by simp [isStringFragment, isFragment]
    refine ⟨⟨literal, ⟨pair, index⟩ :: above⟩, ?_, rfl, ?_⟩
    · rw [namedAt, toPair, enters, ends, Cursor.toLiteral?, part]
      rfl
    · exact (isValueOfPair_iff ordered place covers above).mpr ⟨value.isPair, value.hasValue⟩

end SyntaxNode

namespace Workspace

variable {config : Config} {file : SourceFile} {root : SyntaxNode} {position : Position}

theorem isInValueString_eq (parsed : file.tree = some root) :
    isInValueString file position = true ↔
      ∃ cursor, (root.namedAt (position.offsetIn file.content - 1)).toLiteral? = some cursor ∧
        cursor.node.kind = "string" ∧ cursor.isValueOfPair = true := by
  simp only [isInValueString, parsed]
  cases (root.namedAt (position.offsetIn file.content - 1)).toLiteral? with
  | none => simp
  | some cursor => simp [SyntaxNode.isString]

theorem isInValueString_iff (parsed : file.tree = some root) (laid : root.Laid) (filled : root.Filled) :
    isInValueString file position = true ↔
      ∃ pair literal, root.ValueAt (position.offsetIn file.content - 1) pair literal := by
  rw [isInValueString_eq parsed]
  rcases filled.solidAt laid (position.offsetIn file.content - 1) with solid | childless
  · constructor
    · rintro ⟨cursor, found, isString, isValue⟩
      obtain ⟨pair, value⟩ := SyntaxNode.valueAt_of_cursor laid solid found isString isValue
      exact ⟨pair, cursor.node, value⟩
    · rintro ⟨pair, literal, value⟩
      obtain ⟨cursor, found, rfl, isValue⟩ := SyntaxNode.cursor_of_valueAt laid solid value
      exact ⟨cursor, found, value.isString, isValue⟩
  · refine iff_of_false ?_ ?_
    · rintro ⟨cursor, found, -, isValue⟩
      rw [SyntaxNode.namedAt, SyntaxNode.seek_eq, childless, SyntaxNode.seekAll] at found
      unfold SyntaxNode.Cursor.toLiteral? at found
      split at found
      · cases found
      · cases found
        cases isValue
    · rintro ⟨pair, literal, value⟩
      rcases SyntaxNode.mem_preorder.mp value.within with rfl | ⟨child, member, -⟩
      · have none := value.hasValue
        simp [SyntaxNode.value?, childless] at none
      · rw [childless] at member
        cases member

theorem completions_isSome {workspace : Workspace} {uri : Uri} (configured : workspace.config = some config)
    (listed : ∃ reference : Reference, (reference.resolve? config).isSome = true)
    (opened : workspace.file? uri = some file) :
    (workspace.completions uri position).isSome = isInValueString file position := by
  obtain ⟨reference, resolved⟩ := listed
  have filled := List.ne_nil_of_mem (mem_themeItems_iff.mpr ⟨reference, resolved, rfl⟩)
  cases inside : isInValueString file position <;> simp [completions, configured, opened, inside, filled]

-- Where tokens are offered, in any document. It is the byte before the cursor that has to belong to a string, so a
-- cursor behind the closing quote still counts, and one in an escape sequence or right behind it does not.
theorem completions_exact (workspace : Workspace) (config : Config) (uri : Uri) (file : SourceFile) (root : SyntaxNode)
    (position : Position) (configured : workspace.config = some config)
    (listed : ∃ reference : Reference, (reference.resolve? config).isSome = true)
    (opened : workspace.file? uri = some file) (parsed : file.tree = some root) (laid : root.Laid)
    (filled : root.Filled) (cursor : Nat) (place : position.offsetIn file.content = cursor) :
    ((workspace.completions uri position).isSome = true ↔ ∃ pair literal, root.ValueAt (cursor - 1) pair literal) ∧
    ((∀ pair ∈ root.preorder, ∀ literal, pair.value? = some literal → literal.kind = "string" →
        literal.info.named = true ∧ ∃ pieces, literal.Quoted pieces) → 0 < cursor →
      ((workspace.completions uri position).isSome = true ↔
        ∃ pair ∈ root.preorder, ∃ literal pieces, pair.kind = "pair" ∧ pair.value? = some literal ∧
          literal.Quoted pieces ∧ literal.start < cursor ∧ cursor ≤ literal.stop ∧
          ∀ piece ∈ pieces, piece.kind = "escape_sequence" → ¬ (piece.start < cursor ∧ cursor ≤ piece.stop))) := by
  have exact : (workspace.completions uri position).isSome = true ↔
      ∃ pair literal, root.ValueAt (cursor - 1) pair literal := by
    rw [completions_isSome configured listed opened, isInValueString_iff parsed laid filled, place]
  refine ⟨exact, ?_⟩
  intro strings inside
  have before (node : SyntaxNode) : node.Covers (cursor - 1) ↔ node.start < cursor ∧ cursor ≤ node.stop := by
    unfold SyntaxNode.Covers
    omega
  rw [exact]
  constructor
  · rintro ⟨pair, literal, value⟩
    obtain ⟨named, pieces, quoted⟩ := strings pair value.within literal value.hasValue value.isString
    have hasByte := value.hasByte
    simp only [quoted.hasByte_iff named, before] at hasByte
    exact ⟨pair, value.within, literal, pieces, value.isPair, value.hasValue, quoted, hasByte.1.1, hasByte.1.2, hasByte.2⟩
  · rintro ⟨pair, within, literal, pieces, isPair, hasValue, quoted, fromStart, toStop, free⟩
    obtain ⟨named, -⟩ := strings pair within literal hasValue quoted.isString
    have hasByte : literal.HasByte (cursor - 1) := by
      simp only [quoted.hasByte_iff named, before]
      exact ⟨⟨fromStart, toStop⟩, free⟩
    exact ⟨pair, literal, within, isPair, hasValue, quoted.isString, hasByte⟩

end Workspace

namespace Sample

-- A workspace with the theme of the two spaces and the text with an escape sequence.
def escapedWorkspace : Workspace :=
  { documents := Table.insert ∅ uri.text ⟨uri, escapedText, 1, some escapedTree⟩, config := some spaced }

theorem escaped_strings : ∀ pair ∈ escapedTree.preorder, ∀ literal, pair.value? = some literal →
    literal.kind = "string" → literal.info.named = true ∧ ∃ pieces, literal.Quoted pieces := by
  intro pair within literal hasValue _
  have values : escapedTree.preorder.filterMap SyntaxNode.value? = [escapedValue] := rfl
  have among : literal ∈ escapedTree.preorder.filterMap SyntaxNode.value? :=
    List.mem_filterMap.mpr ⟨pair, within, hasValue⟩
  rw [values, List.mem_singleton] at among
  subst among
  exact ⟨rfl, escapedPieces, escaped_quoted⟩

-- Right behind the first fragment.
theorem offered_in_fragment :
    escapedTree.Laid ∧ escapedTree.Filled ∧ (escapedWorkspace.completions uri ⟨0, 12⟩).isSome = true := by
  have laid : escapedTree.Laid := by decide
  have filled : escapedTree.Filled := by decide
  obtain ⟨-, placed⟩ := Workspace.completions_exact escapedWorkspace spaced uri ⟨uri, escapedText, 1, some escapedTree⟩
    escapedTree ⟨0, 12⟩ rfl ⟨⟨"space", "gap"⟩, rfl⟩ rfl rfl laid filled 12 rfl
  have within : escapedPair ∈ escapedTree.preorder := List.mem_of_getElem? (i := 6) rfl
  exact ⟨laid, filled, (placed escaped_strings (by decide)).mpr
    ⟨escapedPair, within, escapedValue, escapedPieces, rfl, rfl, escaped_quoted, by decide, by decide, by decide⟩⟩

-- Between the quotes nothing is offered behind the escape sequence, and behind the closing quote something is, though
-- the cursor is inside no value.
theorem offered_behind_quote :
    escapedTree.Laid ∧ escapedTree.Filled ∧
      ((⟨0, 14⟩ : Position).offsetIn escapedText = 14 ∧ escapedValue.start < 14 ∧ 14 < escapedValue.stop ∧
        (escapedWorkspace.completions uri ⟨0, 14⟩).isSome = false) ∧
      ((⟨0, 16⟩ : Position).offsetIn escapedText = 16 ∧
        (∀ pair ∈ escapedTree.preorder, ∀ literal ∈ pair.value?, ¬ (literal.start < 16 ∧ 16 < literal.stop)) ∧
        (escapedWorkspace.completions uri ⟨0, 16⟩).isSome = true) := by
  refine ⟨by decide, by decide, ⟨rfl, by decide, by decide, rfl⟩, rfl, by decide, rfl⟩

end Sample

end StyleTokens
