import StyleTokens.Proofs.LinePositions
import StyleTokens.SyntaxNode

namespace StyleTokens

namespace Text

-- What a text has between two offsets. Slicing is compared with this, which does not count bytes on the way.
def Between (text : List Char) (start stop : Nat) (part : List Char) : Prop :=
  ∃ before after, text = before ++ part ++ after ∧ byteLength before = start ∧ start + byteLength part = stop

theorem slice?_eq_some_iff {text part : String} {start stop : Nat} :
    slice? text start stop = some part ↔ Between text.toList start stop part.toList := by
  constructor
  · intro found
    unfold slice? at found
    split at found
    · cases found
    · rename_i ordered
      simp only [Option.bind_eq_bind, Option.bind_eq_some_iff] at found
      obtain ⟨⟨before, rest⟩, first, ⟨inner, after⟩, second, taken⟩ := found
      cases taken
      obtain ⟨whole, toStart⟩ := splitAt?_sound first
      obtain ⟨rfl, width⟩ := splitAt?_sound second
      refine ⟨before, after, ?_, toStart, ?_⟩
      · rw [whole, String.toList_ofList, List.append_assoc]
      · rw [String.toList_ofList, width]
        omega
  · rintro ⟨before, after, whole, rfl, rfl⟩
    have ordered : ¬ byteLength before + byteLength part.toList < byteLength before := by omega
    have width : byteLength before + byteLength part.toList - byteLength before = byteLength part.toList := by omega
    rw [slice?, if_neg ordered, whole, List.append_assoc, splitAt?_append, width]
    simp [splitAt?_append]

variable {text part more : List Char} {start middle stop : Nat}

-- Parts that meet make one part.
theorem Between.append (one : Between text start middle part) (other : Between text middle stop more) :
    Between text start stop (part ++ more) := by
  obtain ⟨before, after, rfl, rfl, width⟩ := one
  obtain ⟨before', after', same, sameStart, width'⟩ := other
  have first := splitAt?_append (before ++ part) after
  rw [byteLength_append, width, ← sameStart, same, List.append_assoc, splitAt?_append] at first
  obtain ⟨rfl, rest⟩ := Prod.mk.inj (Option.some.inj first)
  refine ⟨before, after', ?_, rfl, ?_⟩
  · rw [← rest]
    simp
  · rw [byteLength_append]
    omega

theorem exists_between (first : IsBoundary text start) (last : IsBoundary text stop) (ordered : start ≤ stop) :
    ∃ part, Between text start stop part := by
  obtain ⟨before, rest, rfl, rfl⟩ := first
  obtain ⟨longer, after, same, rfl⟩ := last
  rcases List.append_eq_append_iff.mp same with ⟨part, rfl, ends⟩ | ⟨between, shorter, -⟩
  · exact ⟨part, before, after, by rw [ends, List.append_assoc], rfl, by rw [byteLength_append]⟩
  · have width := congrArg byteLength shorter
    rw [byteLength_append] at width
    exact ⟨[], before, rest, by simp, rfl, by simp; omega⟩

end Text

namespace SyntaxNode

open Text (Between IsBoundary)

variable {node : SyntaxNode} {content : String}

theorem between_text (first : IsBoundary content.toList node.start) (last : IsBoundary content.toList node.stop)
    (ordered : node.start ≤ node.stop) : Between content.toList node.start node.stop (node.text content).toList := by
  obtain ⟨part, between⟩ := Text.exists_between first last ordered
  have sliced : Text.slice? content node.start node.stop = some (String.ofList part) :=
    Text.slice?_eq_some_iff.mpr (by rwa [String.toList_ofList])
  rw [text, sliced, Option.getD_some, String.toList_ofList]
  exact between

-- A range that does not cut the content between characters gives the empty text, so any other text is really there.
theorem between_of_text (filled : node.text content ≠ "") :
    Between content.toList node.start node.stop (node.text content).toList := by
  cases sliced : Text.slice? content node.start node.stop with
  | none => simp [text, sliced] at filled
  | some part =>
    have own : node.text content = part := by rw [text, sliced, Option.getD_some]
    rw [own]
    exact Text.slice?_eq_some_iff.mp sliced

end SyntaxNode

end StyleTokens
