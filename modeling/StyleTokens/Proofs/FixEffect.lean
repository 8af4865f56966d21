import StyleTokens.Proofs.Clamping
import StyleTokens.Proofs.FixScope
import StyleTokens.Proofs.Slices

namespace StyleTokens

open Text (Between IsBoundary LineTable byteLength)
open Arbitrary (Candidate)

-- The text that an editor has after the edit: the range gives way to the new text. The ends of the range are read as
-- positions, without the offsets they were made from.
def TextEdit.applyTo? (edit : TextEdit) (content : String) : Option String := do
  let before ← Text.slice? content 0 (edit.range.start.offsetIn content)
  let after ← Text.slice? content (edit.range.stop.offsetIn content) content.utf8ByteSize
  some (before ++ edit.newText ++ after)

theorem TextEdit.applyTo?_eq (edit : TextEdit) {content : String} {before part after : List Char}
    (whole : content.toList = before ++ part ++ after)
    (fromStart : edit.range.start.offsetIn content = byteLength before)
    (toStop : edit.range.stop.offsetIn content = byteLength (before ++ part)) :
    edit.applyTo? content = some (String.ofList (before ++ edit.newText.toList ++ after)) := by
  have first : Text.slice? content 0 (byteLength before) = some (String.ofList before) := by
    rw [Text.slice?_eq_some_iff, String.toList_ofList]
    exact ⟨[], part ++ after, by rw [whole]; simp, rfl, by simp⟩
  have last : Text.slice? content (byteLength (before ++ part)) content.utf8ByteSize = some (String.ofList after) := by
    rw [Text.slice?_eq_some_iff, String.toList_ofList]
    refine ⟨before ++ part, [], by rw [whole]; simp, rfl, ?_⟩
    rw [← Text.byteLength_toList, whole, Text.byteLength_append (before ++ part) after]
  rw [applyTo?, fromStart, toStop, first, last, String.ofList_append, String.ofList_append, String.ofList_toList]
  rfl

namespace SyntaxNode

theorem offsetIn_range_of_between {node : SyntaxNode} {content : String} {part : List Char}
    (between : Between content.toList node.start node.stop part) (short : content.utf8ByteSize < UInt32.size) :
    (node.range (LineTable.ofText content)).start.offsetIn content = node.start ∧
      (node.range (LineTable.ofText content)).stop.offsetIn content = node.stop := by
  rw [← Text.byteLength_toList] at short
  obtain ⟨before, after, whole, toStart, toStop⟩ := between
  have first : IsBoundary content.toList node.start := ⟨before, part ++ after, by rw [whole]; simp, toStart⟩
  have last : IsBoundary content.toList node.stop :=
    ⟨before ++ part, after, whole, by rw [Text.byteLength_append, toStart, toStop]⟩
  exact ⟨Text.offsetIn_position_of_boundary first short, Text.offsetIn_position_of_boundary last short⟩

end SyntaxNode

namespace ArbitraryFix

-- What becomes of a text when an action that was offered for it is taken. A bracket comes to stand on each side of the
-- word of the value, inside the quotes there are, and nothing else is changed. For the value in its new form, wherever
-- it is met, no action is offered.
theorem applied_exact (root : SyntaxNode) (content : String) (uri : Uri) (offset : Nat) (action : CodeAction)
    (short : content.utf8ByteSize < UInt32.size) (offered : actionAt? root content uri offset = some action) :
    ∃ value edit candidate before after applied, valueAt? root offset = some value ∧
      action.edit = some { changes := some [(uri, [edit])] } ∧
      edit.range.start.offsetIn content = value.start ∧ edit.range.stop.offsetIn content = value.stop ∧
      Candidate.Sound candidate ∧ (∀ c ∈ candidate.word, Arbitrary.isQuote c = false) ∧
      content.toList = before ++ (candidate.opening ++ candidate.word ++ candidate.closing) ++ after ∧
      byteLength before = value.start ∧
      byteLength (before ++ (candidate.opening ++ candidate.word ++ candidate.closing)) = value.stop ∧
      edit.applyTo? content = some applied ∧
      applied.toList = before ++ (candidate.opening ++ '[' :: candidate.word ++ ']' :: candidate.closing) ++ after ∧
      Arbitrary.tryEncode? edit.newText = none ∧
      ∀ root' offset' value', valueAt? root' offset' = some value' → value'.text applied = edit.newText →
        actionAt? root' applied uri offset' = none := by
  obtain ⟨pair, value, candidate, marks, rfl⟩ := actionAt?_eq_some_iff.mp offered
  have found := valueAt?_eq_some_iff.mpr ⟨pair, marks.reached, marks.hasValue, marks.isString⟩
  have filled : value.text content ≠ "" := by
    rw [marks.written]
    intro empty
    have none := congrArg String.toList empty
    simp [Candidate.text, marks.sound.filled] at none
  have between := SyntaxNode.between_of_text filled
  obtain ⟨fromStart, toStop⟩ := SyntaxNode.offsetIn_range_of_between between short
  obtain ⟨before, after, whole, toStart, width⟩ := between
  rw [marks.written, Candidate.text, String.toList_ofList] at whole width
  have ends : byteLength (before ++ (candidate.opening ++ candidate.word ++ candidate.closing)) = value.stop := by
    rw [Text.byteLength_append, toStart, width]
  have result := TextEdit.applyTo?_eq ⟨value.range (LineTable.ofText content), candidate.mark⟩ whole
    (fromStart.trans toStart.symm) (toStop.trans ends.symm)
  refine ⟨value, _, candidate, before, after, _, found, rfl, fromStart, toStop, marks.sound, marks.sound.plain, whole,
    toStart, ends, result, ?_, Arbitrary.tryEncode?_mark candidate, ?_⟩
  · rw [String.toList_ofList, Candidate.mark, String.toList_ofList]
  · intro root' offset' value' found' written'
    rw [actionAt?_of_value found', written', Arbitrary.tryEncode?_mark]
    rfl

end ArbitraryFix

namespace Sample

def redEdit : TextEdit := ⟨⟨⟨1, 15⟩, ⟨1, 20⟩⟩, "'[red]'"⟩

def redText : String := "(\x7be:'😀',\n'md$a':\x7b'lg$b':'[red]'\x7d,'x$c':4\x7d)"

-- The value stands on the second line, and a character of four bytes before it.
theorem red_applied :
    text.utf8ByteSize < UInt32.size ∧
      ArbitraryFix.actionAt? tree text uri 20 = some (ArbitraryFix.marking uri redEdit.range redEdit.newText) ∧
      redEdit.applyTo? text = some redText ∧ Arbitrary.tryEncode? redEdit.newText = none ∧
      ∃ candidate before after, Candidate.Sound candidate ∧ byteLength before = 27 ∧
        text.toList = before ++ (candidate.opening ++ candidate.word ++ candidate.closing) ++ after ∧
        redText.toList = before ++ (candidate.opening ++ '[' :: candidate.word ++ ']' :: candidate.closing) ++ after := by
  have short : text.utf8ByteSize < UInt32.size := by decide
  have offered : ArbitraryFix.actionAt? tree text uri 20 =
      some (ArbitraryFix.marking uri redEdit.range redEdit.newText) := rfl
  have changed : redEdit.applyTo? text = some redText := rfl
  obtain ⟨value, edit, candidate, before, after, applied, found, changes, -, -, sound, -, whole, toStart, -, result,
    marked, again, -⟩ := ArbitraryFix.applied_exact tree text uri 20 _ short offered
  cases changes
  cases found
  cases changed.symm.trans result
  exact ⟨short, offered, changed, again, candidate, before, after, sound, toStart, whole, marked⟩

end Sample

end StyleTokens
