import StyleTokens.Proofs.ServerRuns
import StyleTokens.Proofs.SessionReport

namespace StyleTokens

-- The larger config defines every token and variant that the first one defines. Their values need not agree, and
-- a name may become a variant of the other kind besides.
structure Config.Within (config larger : Config) : Prop where
  theme : ∀ themeKey token, (config.themeValue? themeKey token).isSome = true →
    (larger.themeValue? themeKey token).isSome = true
  responsive : ∀ name, (config.responsive.get? name).isSome = true → (larger.responsive.get? name).isSome = true
  selectors : ∀ name, (config.selectors.get? name).isSome = true → (larger.selectors.get? name).isSome = true

theorem filterMap_sublist {α β : Type} {few many : α → Option β} {list : List α}
    (among : ∀ a ∈ list, ∀ b, few a = some b → many a = some b) : (list.filterMap few).Sublist (list.filterMap many) := by
  induction list with
  | nil => exact .slnil
  | cons first rest ih =>
    have later := ih fun a member => among a (List.mem_cons_of_mem _ member)
    cases found : few first with
    | none =>
      rw [List.filterMap_cons_none found, List.filterMap_cons]
      split
      · exact later
      · exact later.cons _
    | some b =>
      rw [List.filterMap_cons_some found, List.filterMap_cons_some (among first List.mem_cons_self b found)]
      exact later.cons_cons b

section

variable {config larger : Config} (within : config.Within larger)

include within

-- A lone variant that was a selector may now be read as a responsive one: another property, but still one.
theorem Property.ofPieces?_within {pieces : List String} (known : (ofPieces? config pieces).isSome = true) :
    (ofPieces? larger pieces).isSome = true := by
  match pieces with
  | [variant, css] =>
    by_cases responsive : larger.hasResponsive variant = true
    · simp [ofPieces?, responsive]
    · have notResponsive : ¬ config.hasResponsive variant = true := fun had => responsive (within.responsive variant had)
      have selector : config.hasSelector variant = true := by
        by_contra none
        simp [ofPieces?, notResponsive, none] at known
      have still : larger.hasSelector variant = true := within.selectors variant selector
      simp [ofPieces?, responsive, still]
  | [responsive, selector, css] =>
    have both : config.hasResponsive responsive = true ∧ config.hasSelector selector = true := by
      by_contra lacking
      simp [ofPieces?, lacking] at known
    have first : larger.hasResponsive responsive = true := within.responsive responsive both.1
    have second : larger.hasSelector selector = true := within.selectors selector both.2
    simp [ofPieces?, first, second]
  | [] | [_] | _ :: _ :: _ :: _ :: _ => cases known

theorem Property.decode?_within {name : String} (known : (decode? config name).isSome = true) :
    (decode? larger name).isSome = true := by
  unfold decode? at known ⊢
  split at known
  · rename_i shape
    rw [if_pos shape]
    exact ofPieces?_within within known
  · cases known

theorem Workspace.isAssignableText_within {text : String} (assignable : isAssignableText config text = true) :
    isAssignableText larger text = true := by
  unfold isAssignableText at assignable ⊢
  rw [Bool.or_eq_true] at assignable ⊢
  refine assignable.imp_right fun resolved => ?_
  cases decoded : Reference.decode? text with
  | none => simp [decoded] at resolved
  | some reference =>
    rw [decoded, Option.bind_some] at resolved
    exact within.theme reference.themeKey reference.token resolved

theorem Workspace.isAssignable_within {content : String} {value : SyntaxNode}
    (assignable : isAssignable config content value = true) : isAssignable larger content value = true := by
  unfold isAssignable at assignable ⊢
  split at assignable
  · exact isAssignableText_within within assignable
  · exact assignable

namespace Report

-- What is still refused is refused as before: the wording names the literal and not the config.
theorem refusal?_within {content : String} {value : SyntaxNode} {literal : Option String}
    (refused : refusal? larger content value = some literal) : refusal? config content value = some literal := by
  have refusedBefore : (refusal? config content value).isSome = true := by
    have refusedStill := refusal?_isSome larger content value
    rw [refused] at refusedStill
    rw [refusal?_isSome, Bool.not_eq_true', Bool.eq_false_iff]
    intro assignable
    rw [Workspace.isAssignable_within within assignable] at refusedStill
    cases refusedStill
  obtain ⟨before, found⟩ := Option.isSome_iff_exists.mp refusedBefore
  rw [found, refusal?_literal found, refusal?_literal refused]

theorem valueFinding?_within {content : String} {node : SyntaxNode} {entry : Diagnostic}
    (found : valueFinding? larger content node = some entry) : valueFinding? config content node = some entry := by
  unfold valueFinding? at found ⊢
  split at found
  · obtain ⟨literal, refused, rfl⟩ := Option.map_eq_some_iff.mp found
    rw [refusal?_within within refused]
    rfl
  · cases found

theorem nameFinding?_within {content : String} {node : SyntaxNode} {entry : Diagnostic}
    (found : nameFinding? larger content node = some entry) : nameFinding? config content node = some entry := by
  unfold nameFinding? at found ⊢
  split at found
  · cases found
  · rename_i token isToken
    split at found
    · cases found
    · rename_i unknown
      have unknownBefore : Property.decode? config token.name = none := by
        rw [← Option.not_isSome_iff_eq_none]
        intro known
        have still := Property.decode?_within within known
        rw [unknown] at still
        cases still
      rw [unknownBefore]
      exact found

end Report

end

namespace Plugin

open Report

-- Two sessions with the same document open, whatever else they hold. Under the larger config the report loses
-- entries and nothing else happens to it: what is left stands as it stood, word for word and in the same order.
theorem report_sublist_of_within (config larger : Config) (within : config.Within larger)
    (plugin extended : Plugin Workspace) (shares : Server.Shares config plugin) (sharesLarger : Server.Shares larger extended)
    (uri : Uri) (file : SourceFile) (root : SyntaxNode) (opened : plugin.host.file? uri = some file)
    (openedLarger : extended.host.file? uri = some file) (parsed : file.tree = some root)
    (placed : KeysInPlace root file.content) : (extended.report uri).Sublist (plugin.report uri) := by
  rw [report_eq_findings shares.1 shares.2 opened parsed placed,
    report_eq_findings sharesLarger.1 sharesLarger.2 openedLarger parsed placed]
  have values : (root.preorder.filterMap (valueFinding? larger file.content)).Sublist
      (root.preorder.filterMap (valueFinding? config file.content)) :=
    filterMap_sublist fun _ _ _ => valueFinding?_within within
  have names : (root.preorder.filterMap (nameFinding? larger file.content)).Sublist
      (root.preorder.filterMap (nameFinding? config file.content)) :=
    filterMap_sublist fun _ _ _ => nameFinding?_within within
  exact values.append names

end Plugin

namespace Sample

-- One more variant of each kind.
def larger : Config :=
  { config with
    responsive := config.responsive.insert "lg" "wider"
    selectors := config.selectors.insert "md" "&:first-child" }

def extended : Plugin Workspace :=
  .withConfig { documents := Table.insert ∅ uri.text file, config := some larger } (some larger)

-- The name of the second pair is decoded now, that of the third is not, and the values are refused as they were.
theorem sample_sublist :
    config.Within larger ∧ KeysInPlace tree text ∧ (extended.report uri).Sublist (plugin.report uri) ∧
      (extended.report uri).length = 3 ∧ (plugin.report uri).length = 4 := by
  have within : config.Within larger := by
    refine ⟨fun _ _ => id, ?_, ?_⟩
    · intro name defined
      rw [larger, Table.get?_insert]
      split
      · rfl
      · exact defined
    · intro name defined
      rw [larger, Table.get?_insert]
      split
      · rfl
      · exact defined
  have placed : KeysInPlace tree text := by decide
  exact ⟨within, placed, Plugin.report_sublist_of_within config larger within plugin extended ⟨rfl, rfl⟩ ⟨rfl, rfl⟩ uri file
    tree rfl rfl rfl placed, rfl, rfl⟩

end Sample

end StyleTokens
