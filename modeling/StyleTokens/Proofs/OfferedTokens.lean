import StyleTokens.Proofs.SessionReport
import StyleTokens.Proofs.ThemeListing

namespace StyleTokens

open Text (LineTable)

namespace Workspace

variable {config : Config}

-- Whatever characters a key and a token have, their item is offered.
theorem mem_themeItems_iff {item : CompletionItem} :
    item ∈ themeItems config ↔ ∃ reference : Reference, (reference.resolve? config).isSome = true ∧
      item = { label := reference.encode, kind := some CompletionItem.valueKind } := by
  constructor
  · intro offered
    obtain ⟨⟨themeKey, tokens⟩, among, within⟩ := List.mem_flatMap.mp offered
    obtain ⟨token, listed, rfl⟩ := List.mem_map.mp within
    refine ⟨⟨themeKey, token⟩, ?_, rfl⟩
    rw [Reference.resolve?, themeValue?_of_mem among]
    exact Table.mem_keys.mp listed
  · rintro ⟨⟨themeKey, token⟩, resolved, rfl⟩
    obtain ⟨value, found⟩ := Option.isSome_iff_exists.mp resolved
    obtain ⟨tokens, among, own⟩ := exists_keyed found
    have listed : token ∈ tokens.keys := Table.mem_keys.mpr (by rw [own]; rfl)
    exact List.mem_flatMap.mpr ⟨_, among, List.mem_map.mpr ⟨token, listed, rfl⟩⟩

theorem isMarked_encode (reference : Reference) : Arbitrary.isMarked reference.encode = false := by
  simp [Arbitrary.isMarked, Reference.toList_encode, Reference.mark]

-- The theme has the token, so the text is refused only if no reference is read from it.
theorem isAssignableText_encode {reference : Reference} (resolved : (reference.resolve? config).isSome = true) :
    isAssignableText config reference.encode = true ↔ reference.Matches := by
  rw [isAssignableText, isMarked_encode, Bool.false_or, Reference.decode?_encode, ← Reference.shaped_iff]
  by_cases shaped : reference.Shaped
  · simp [shaped, resolved]
  · simp [shaped]

theorem valueError?_eq_none_iff {lines : LineTable} {content text : String} {token : TokenPair}
    (written : token.literal? content = some text) :
    valueError? config lines content token = none ↔ isAssignableText config text = true := by
  obtain ⟨value, hasValue, literal⟩ := Option.bind_eq_some_iff.mp written
  cases assignable : isAssignableText config text <;> simp [valueError?, hasValue, isAssignable, literal, assignable]

-- The items are made from the names of the theme as they stand, but a value is read by the pattern of references
-- first. So an item that the workspace offers is accepted by its checker exactly if both names match.
theorem offered_accepted_iff (config : Config) (item : CompletionItem) (offered : item ∈ themeItems config)
    (lines : LineTable) (content : String) (token : TokenPair) (written : token.literal? content = some item.label) :
    ∃ reference : Reference, (reference.resolve? config).isSome = true ∧ item.label = reference.encode ∧
      (valueError? config lines content token = none ↔ reference.Matches) ∧
      ∀ entry, valueError? config lines content token = some entry →
        entry.code = some (.number 2322) ∧ entry.range = token.key.range lines := by
  obtain ⟨reference, resolved, rfl⟩ := mem_themeItems_iff.mp offered
  refine ⟨reference, resolved, rfl, ?_, fun entry refused => Report.valueError?_code refused⟩
  rw [valueError?_eq_none_iff written, isAssignableText_encode resolved]

end Workspace

namespace Sample

-- The name of one token is a word, that of the other is not.
def spaced : Config := { theme := .ofList [("space", .ofList [("gap", "4px"), ("0.5", "2px")])] }

def spacedText (token : String) : String := "(\x7b'md$a':'$space." ++ token ++ "'\x7d)"

def spacedPair : SyntaxNode := named "pair" 2 21 [quoted true 2 8, mark ":" 8, quoted false 9 21]

-- The tree of the text for either token.
def spacedTree : SyntaxNode :=
  named "program" 0 23 [named "expression_statement" 0 23 [named "parenthesized_expression" 0 23
    [mark "(" 0, named "object" 1 22 [mark "\x7b" 1, spacedPair, mark "\x7d" 21], mark ")" 22]]]

def spacedToken : TokenPair := ⟨spacedPair, quoted true 2 8, "md$a"⟩

theorem gap_accepted :
    ∃ item ∈ Workspace.themeItems spaced, item.label = "$space.gap" ∧
      spacedToken.literal? (spacedText "gap") = some item.label ∧
      Workspace.valueError? spaced (LineTable.ofText (spacedText "gap")) (spacedText "gap") spacedToken = none := by
  have offered : { label := "$space.gap", kind := some CompletionItem.valueKind } ∈ Workspace.themeItems spaced :=
    List.mem_of_getElem? (i := 1) rfl
  have shaped : Reference.Shaped ⟨"space", "gap"⟩ := by decide
  obtain ⟨reference, -, label, accepted, -⟩ := Workspace.offered_accepted_iff spaced _ offered
    (LineTable.ofText (spacedText "gap")) (spacedText "gap") spacedToken rfl
  have same : reference = ⟨"space", "gap"⟩ := shaped.encode_inj label.symm
  rw [same, ← Reference.shaped_iff] at accepted
  exact ⟨_, offered, rfl, rfl, accepted.mpr shaped⟩

-- The token whose name has a dot is offered, and refused where it is put in.
theorem offered_half_refused :
    ∃ item ∈ Workspace.themeItems spaced, spacedTree.tokens (spacedText "0.5") = [spacedToken] ∧
      spacedToken.literal? (spacedText "0.5") = some item.label ∧
      (Workspace.valueErrors spaced spacedTree (spacedText "0.5")).map (fun entry => (entry.code, entry.message)) =
        [(some (.number 2322), "Type ''$space.0.5'' is not assignable to type 'TokenValue'.")] := by
  refine ⟨{ label := "$space.0.5", kind := some CompletionItem.valueKind }, ?_, ?_, ?_, ?_⟩
  · exact List.mem_of_getElem? (i := 0) rfl
  · rfl
  · rfl
  · decide

end Sample

end StyleTokens
