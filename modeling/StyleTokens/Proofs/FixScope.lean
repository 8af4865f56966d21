import StyleTokens.Proofs.ArbitraryMarks
import StyleTokens.Proofs.PluginSteps
import StyleTokens.Proofs.TokenPairs
import StyleTokens.Workspace

namespace StyleTokens

open Text (LineTable Range)
open Arbitrary (Candidate)

-- The pair directly above the smallest named node at the offset. A fragment stands for its string.
def SyntaxNode.pairAt? (root : SyntaxNode) (offset : Nat) : Option SyntaxNode :=
  (root.namedAt offset).toLiteral?.bind fun literal => literal.parent?.bind fun above =>
    if above.node.isPair then some above.node else none

namespace ArbitraryFix

variable {root : SyntaxNode} {offset : Nat} {content : String} {uri : Uri}

theorem valueAt?_eq (root : SyntaxNode) (offset : Nat) :
    valueAt? root offset = (root.pairAt? offset).bind fun pair => pair.value?.filter (·.isString) := by
  unfold valueAt? SyntaxNode.pairAt?
  cases (root.namedAt offset).toLiteral? with
  | none => rfl
  | some literal =>
    cases above : literal.parent? with
    | none => simp [above]
    | some above' =>
      cases pair : above'.node.isPair with
      | false => simp [above, pair]
      | true => cases hasValue : above'.node.value? <;> simp [above, pair, hasValue, Option.filter]

-- The action that puts this text in the place of a range.
def marking (uri : Uri) (range : Range) (replacement : String) : CodeAction :=
  { title := title replacement
    kind := some "quickfix"
    edit := some { changes := some [(uri, [⟨range, replacement⟩])] }
    data := some (.object [("fixId", .string fixId)]) }

-- A value that can be marked: the string of the pair under the offset, with nothing but a word in it. Nothing is
-- said of the key of the pair.
structure Marks (root : SyntaxNode) (content : String) (offset : Nat) (pair value : SyntaxNode)
    (candidate : Candidate) : Prop where
  reached : root.pairAt? offset = some pair
  hasValue : pair.value? = some value
  isString : value.kind = "string"
  sound : candidate.Sound
  written : value.text content = candidate.text

theorem valueAt?_eq_some_iff {value : SyntaxNode} :
    valueAt? root offset = some value ↔
      ∃ pair, root.pairAt? offset = some pair ∧ pair.value? = some value ∧ value.kind = "string" := by
  rw [valueAt?_eq, Option.bind_eq_some_iff]
  simp only [Option.filter_eq_some_iff, SyntaxNode.isString, beq_iff_eq]

theorem actionAt?_of_value {value : SyntaxNode} (found : valueAt? root offset = some value) :
    actionAt? root content uri offset =
      (Arbitrary.tryEncode? (value.text content)).map (marking uri (value.range (LineTable.ofText content))) := by
  simp only [actionAt?, found, Option.bind_eq_bind, Option.bind_some]
  cases Arbitrary.tryEncode? (value.text content) <;> rfl

theorem actionAt?_eq_some_iff {action : CodeAction} :
    actionAt? root content uri offset = some action ↔
      ∃ pair value candidate, Marks root content offset pair value candidate ∧
        action = marking uri (value.range (LineTable.ofText content)) candidate.mark := by
  simp only [actionAt?, Option.bind_eq_bind, Option.bind_eq_some_iff, Option.some.injEq,
    Arbitrary.tryEncode?_eq_some_iff, valueAt?_eq_some_iff]
  constructor
  · rintro ⟨value, ⟨pair, reached, hasValue, isString⟩, replacement, ⟨candidate, sound, written, rfl⟩, rfl⟩
    exact ⟨pair, value, candidate, ⟨reached, hasValue, isString, sound, written⟩, rfl⟩
  · rintro ⟨pair, value, candidate, ⟨reached, hasValue, isString, sound, written⟩, rfl⟩
    exact ⟨value, ⟨pair, reached, hasValue, isString⟩, _, ⟨candidate, sound, written, rfl⟩, rfl⟩

end ArbitraryFix

namespace Plugin

open ArbitraryFix (Marks marking)

variable {σ : Type}

theorem fixIn?_eq_some_iff {uri : Uri} {range : Range} {codes : List Int} {found : Option SourceFile}
    {action : CodeAction} :
    fixIn? uri range codes found = some action ↔
      2322 ∈ codes ∧ ∃ file root pair value candidate, found = some file ∧ file.tree = some root ∧
        Marks root file.content (range.start.offsetIn file.content) pair value candidate ∧
        action = marking uri (value.range (LineTable.ofText file.content)) candidate.mark := by
  unfold fixIn?
  split
  · rename_i coded
    simp only [Option.bind_eq_some_iff, ArbitraryFix.actionAt?_eq_some_iff]
    constructor
    · rintro ⟨file, opened, root, parsed, pair, value, candidate, marks, rfl⟩
      exact ⟨coded, file, root, pair, value, candidate, opened, parsed, marks, rfl⟩
    · rintro ⟨-, file, root, pair, value, candidate, opened, parsed, marks, rfl⟩
      exact ⟨file, opened, root, parsed, pair, value, candidate, marks, rfl⟩
  · rename_i uncoded
    refine iff_of_false (by simp) ?_
    rintro ⟨coded, -⟩
    exact uncoded coded

-- When the host's own fixes are kept and when not, for any host. They give way to the mark around the word of the
-- value under the range, and are handed on in all other cases. It is the value alone that decides: the key of its
-- pair may be of any kind and have any text.
theorem codeFixes_exact (host : Service σ) (plugin : Plugin σ) (config : Config)
    (enabled : plugin.config? = some config) (uri : Uri) (range : Range) (codes : List Int) (options : FormatOptions)
    (found : Option SourceFile)
    (asked : (host.respond (host.respond plugin.host (.codeFixes uri range codes options)).state
      (.sourceFile uri)).answer = found) :
    (∀ file root pair value candidate, found = some file → file.tree = some root → 2322 ∈ codes →
      Marks root file.content (range.start.offsetIn file.content) pair value candidate →
      (respond host plugin (.codeFixes uri range codes options)).answer =
        [.action (marking uri (value.range (LineTable.ofText file.content)) candidate.mark)]) ∧
    ((∀ file root pair value candidate, found = some file → file.tree = some root → 2322 ∈ codes →
      ¬ Marks root file.content (range.start.offsetIn file.content) pair value candidate) →
      (respond host plugin (.codeFixes uri range codes options)).answer =
        (host.respond plugin.host (.codeFixes uri range codes options)).answer) := by
  obtain ⟨tokens, isEnabled, -⟩ := Option.map_eq_some_iff.mp enabled
  have answer := codeFixes_answer host isEnabled uri range codes options
  rw [asked] at answer
  refine ⟨?_, ?_⟩
  · intro file root pair value candidate opened parsed coded marks
    have fix : fixIn? uri range codes found =
        some (marking uri (value.range (LineTable.ofText file.content)) candidate.mark) :=
      fixIn?_eq_some_iff.mpr ⟨coded, file, root, pair, value, candidate, opened, parsed, marks, rfl⟩
    rw [fix] at answer
    exact answer
  · intro unmarked
    have none : fixIn? uri range codes found = none := by
      rw [Option.eq_none_iff_forall_not_mem]
      intro action offered
      obtain ⟨coded, file, root, pair, value, candidate, opened, parsed, marks, -⟩ := fixIn?_eq_some_iff.mp offered
      exact unmarked file root pair value candidate opened parsed coded marks
    rw [none] at answer
    exact answer

end Plugin

namespace Sample

def plainText : String := "(\x7b'color':'red'\x7d)"

def plainPair : SyntaxNode := named "pair" 2 15 [quoted true 2 9, mark ":" 9, quoted false 10 15]

def plainTree : SyntaxNode :=
  named "program" 0 17 [named "expression_statement" 0 17 [named "parenthesized_expression" 0 17
    [mark "(" 0, named "object" 1 16 [mark "\x7b" 1, plainPair, mark "\x7d" 15], mark ")" 16]]]

-- A workspace with one document, and a config that knows no names at all.
def opened (content : String) (tree : SyntaxNode) : Plugin Workspace :=
  .withConfig { documents := Table.insert ∅ uri.text ⟨uri, content, 1, some tree⟩ } (some {})

theorem inner_fixed :
    (opened text tree).config? = some {} ∧
      (Plugin.respond Workspace.service (opened text tree) (.codeFixes uri ⟨⟨1, 8⟩, ⟨1, 14⟩⟩ [2322] {})).answer =
        [.action (ArbitraryFix.marking uri ⟨⟨1, 15⟩, ⟨1, 20⟩⟩ "'[red]'")] := by
  have enabled : (opened text tree).config? = some {} := rfl
  have offset : (⟨1, 8⟩ : Text.Position).offsetIn text = 20 := rfl
  have sound : Candidate.Sound ⟨['\''], "red".toList, ['\'']⟩ :=
    ⟨.inr ⟨'\'', rfl, rfl⟩, by decide, List.all_eq_true.mp rfl, .inr ⟨'\'', rfl, rfl⟩⟩
  have marks : ArbitraryFix.Marks tree text ((⟨1, 8⟩ : Text.Position).offsetIn text) innerPair (quoted false 27 32)
      ⟨['\''], "red".toList, ['\'']⟩ := by
    rw [offset]
    exact ⟨rfl, rfl, rfl, sound, rfl⟩
  have place : (quoted false 27 32).range (LineTable.ofText text) = ⟨⟨1, 15⟩, ⟨1, 20⟩⟩ := rfl
  have replacement : Candidate.mark ⟨['\''], "red".toList, ['\'']⟩ = "'[red]'" := rfl
  obtain ⟨marked, -⟩ := Plugin.codeFixes_exact Workspace.service (opened text tree) {} enabled uri
    ⟨⟨1, 8⟩, ⟨1, 14⟩⟩ [2322] {} (some ⟨uri, text, 1, some tree⟩) rfl
  have answer := marked ⟨uri, text, 1, some tree⟩ tree _ _ _ rfl rfl (by simp) marks
  rw [place, replacement] at answer
  exact ⟨enabled, answer⟩

-- The key has no variant, and still the host's fixes, of which there are none, are not what is answered.
theorem plain_key_fixed :
    plainTree.pairAt? 3 = some plainPair ∧ plainPair.key? = some (quoted true 2 9) ∧
      (quoted true 2 9).literalText? plainText = some "color" ∧ Property.isName "color" = false ∧
      (Workspace.respond (opened plainText plainTree).host (.codeFixes uri ⟨⟨0, 3⟩, ⟨0, 8⟩⟩ [2322] {})).answer = [] ∧
      (Plugin.respond Workspace.service (opened plainText plainTree)
        (.codeFixes uri ⟨⟨0, 3⟩, ⟨0, 8⟩⟩ [2322] {})).answer =
        [.action (ArbitraryFix.marking uri ⟨⟨0, 10⟩, ⟨0, 15⟩⟩ "'[red]'")] := by
  exact ⟨rfl, rfl, rfl, by decide, rfl, rfl⟩

end Sample

end StyleTokens
