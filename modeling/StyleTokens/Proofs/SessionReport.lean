import StyleTokens.Plugin
import StyleTokens.Proofs.Rewording
import StyleTokens.Workspace

namespace StyleTokens

open Text (LineTable Position)

namespace Report

-- Why a value is refused: a number has no literal to name, a string is named by its text. Values of other
-- kinds are never refused.
def refusal? (config : Config) (content : String) (value : SyntaxNode) : Option (Option String) :=
  if value.kind = "number" then some none
  else
    match value.literalText? content with
    | none => none
    | some text =>
      if Arbitrary.isMarked text = true then none
      else
        match Reference.decode? text with
        | none => some (some text)
        | some reference =>
          match reference.resolve? config with
          | none => some (some text)
          | some _ => none

-- The error on the value of one node, if it is a token pair with a value that is refused. It names the
-- literal of this very pair.
def valueFinding? (config : Config) (content : String) (node : SyntaxNode) : Option Diagnostic :=
  match TokenPair.ofNode? content node, node.value? with
  | some token, some value =>
    (refusal? config content value).map fun literal => {
      range := token.key.range (LineTable.ofText content)
      severity := some 1
      code := some (.number 2322)
      source := some "ts"
      message := invalidValueMessage token.name literal }
  | _, _ => none

theorem isNumber_literalText? {value : SyntaxNode} (number : value.kind = "number") (content : String) :
    value.literalText? content = none := by
  simp [SyntaxNode.literalText?, SyntaxNode.isString, number]

theorem refusal?_literal {config : Config} {content : String} {value : SyntaxNode} {literal : Option String}
    (refused : refusal? config content value = some literal) : literal = value.literalText? content := by
  unfold refusal? at refused
  split at refused
  · rename_i number
    rw [isNumber_literalText? number]
    exact (Option.some.inj refused).symm
  · split at refused
    · cases refused
    · rename_i text found
      split at refused
      · cases refused
      · split at refused
        · exact (Option.some.inj refused).symm.trans found.symm
        · split at refused
          · exact (Option.some.inj refused).symm.trans found.symm
          · cases refused

theorem refusal?_isSome (config : Config) (content : String) (value : SyntaxNode) :
    (refusal? config content value).isSome = !Workspace.isAssignable config content value := by
  unfold refusal? Workspace.isAssignable
  by_cases number : value.kind = "number"
  · simp [number, isNumber_literalText? number, SyntaxNode.isNumber]
  · rw [if_neg number]
    cases value.literalText? content with
    | none => simp [SyntaxNode.isNumber, number]
    | some text =>
      by_cases marked : Arbitrary.isMarked text = true
      · simp [marked, Workspace.isAssignableText]
      · cases decoded : Reference.decode? text with
        | none => simp [marked, decoded, Workspace.isAssignableText]
        | some reference =>
          cases resolved : reference.resolve? config <;>
            simp [marked, decoded, resolved, Workspace.isAssignableText]

-- The host's error on a pair, with the wording of that pair, is what the report has to say of its node.
theorem valueFinding?_eq (config : Config) (content : String) (node : SyntaxNode) :
    valueFinding? config content node = (TokenPair.ofNode? content node).bind fun token =>
      (Workspace.valueError? config (LineTable.ofText content) content token).map fun entry =>
        { entry with message := invalidValueMessage token.name (token.literal? content) } := by
  unfold valueFinding?
  cases found : TokenPair.ofNode? content node with
  | none => rfl
  | some token =>
    obtain ⟨rfl, -⟩ := TokenPair.ofNode?_eq_some.mp found
    cases hasValue : token.pair.value? with
    | none => simp [Workspace.valueError?, hasValue]
    | some value =>
      have assignable := refusal?_isSome config content value
      cases refused : refusal? config content value with
      | none =>
        rw [refused] at assignable
        simp_all [Workspace.valueError?]
      | some literal =>
        rw [refused] at assignable
        have named : token.literal? content = literal := by
          simp [TokenPair.literal?, hasValue, refusal?_literal refused]
        have refusedByHost : Workspace.isAssignable config content value = false := by simpa using assignable
        simp only [Workspace.valueError?, hasValue, refused, refusedByHost, named, Option.bind_eq_bind,
          Option.bind_some, Bool.false_eq_true, if_false, Option.map_some]
        rfl

theorem leads_of_apart {report : List Diagnostic} {j : Nat} {entry : Diagnostic}
    (apart : report.Pairwise fun one other => one.range.start ≠ other.range.start)
    (code : entry.code = some (.number 2322)) (found : report[j]? = some entry) :
    Leads (report.take j) entry := by
  refine ⟨code, ?_⟩
  intro other member same
  have later : entry ∈ report.drop j := by
    rw [List.mem_iff_getElem?]
    exact ⟨0, by simpa using found⟩
  rw [← List.take_append_drop j report, List.pairwise_append] at apart
  exact absurd same (apart.2.2 other member entry later)

-- With all starts apart every value error leads, and the report is reworded as a whole.
theorem rewordAll_of_apart (lines : LineTable) (content : String) (tokens : List TokenPair)
    {report : List Diagnostic} (apart : report.Pairwise fun one other => one.range.start ≠ other.range.start)
    (codes : ∀ entry ∈ report, entry.code = some (.number 2322)) :
    rewordAll lines content tokens report = report.map fun entry =>
      { entry with message := (wordingAt lines content tokens entry.range.start).getD entry.message } := by
  apply List.ext_getElem?
  intro j
  rw [rewordAll_getElem?, List.getElem?_map]
  cases found : report[j]? with
  | none => rfl
  | some entry =>
    have leads := leads_of_apart apart (codes entry (List.mem_of_getElem? found)) found
    simp [messageAfter, leads]

theorem wordingAt_of_apart {lines : LineTable} {tokens : List TokenPair} {token : TokenPair} (content : String)
    (apart : tokens.Pairwise fun one other => lines.position one.pair.start ≠ lines.position other.pair.start)
    (member : token ∈ tokens) :
    wordingAt lines content tokens (lines.position token.pair.start) =
      some (invalidValueMessage token.name (token.literal? content)) := by
  suffices alone : (tokens.filter fun other => lines.position other.pair.start = lines.position token.pair.start) = [token] by
    simp [wordingAt, alone]
  induction tokens with
  | nil => cases member
  | cons first rest ih =>
    obtain ⟨distinct, apart⟩ := List.pairwise_cons.mp apart
    rcases List.mem_cons.mp member with rfl | later
    · have none : ∀ other ∈ rest, ¬ lines.position other.pair.start = lines.position token.pair.start :=
        fun other among => (distinct other among).symm
      simpa using none
    · have passed : ¬ lines.position first.pair.start = lines.position token.pair.start := distinct token later
      rw [List.filter_cons_of_neg (by simpa using passed)]
      exact ih apart later

theorem valueError?_code {config : Config} {lines : LineTable} {content : String} {token : TokenPair}
    {entry : Diagnostic} (found : Workspace.valueError? config lines content token = some entry) :
    entry.code = some (.number 2322) ∧ entry.range = token.key.range lines := by
  unfold Workspace.valueError? at found
  cases hasValue : token.pair.value? with
  | none => simp [hasValue] at found
  | some value =>
    simp only [hasValue, Option.bind_eq_bind, Option.bind_some] at found
    split at found
    · cases found
    · cases Option.some.inj found
      exact ⟨rfl, rfl⟩

theorem valueFinding?_parts {config : Config} {content : String} {node : SyntaxNode} {entry : Diagnostic}
    (found : valueFinding? config content node = some entry) :
    ∃ token, TokenPair.ofNode? content node = some token ∧ entry.code = some (.number 2322) ∧
      entry.range = token.key.range (LineTable.ofText content) ∧
      entry.message = invalidValueMessage token.name (token.literal? content) := by
  rw [valueFinding?_eq] at found
  obtain ⟨token, isToken, found⟩ := Option.bind_eq_some_iff.mp found
  obtain ⟨raw, error, rfl⟩ := Option.map_eq_some_iff.mp found
  obtain ⟨code, range⟩ := valueError?_code error
  exact ⟨token, isToken, code, range, rfl⟩

-- The two walks meet: each host error is found by its own pair and by no other.
theorem rewordAll_valueErrors (config : Config) {root : SyntaxNode} {content : String}
    (placed : KeysInPlace root content) :
    rewordAll (LineTable.ofText content) content (root.tokens content)
        (Workspace.valueErrors config root content) =
      root.preorder.filterMap (valueFinding? config content) := by
  have errors : Workspace.valueErrors config root content =
      (root.tokens content).filterMap (Workspace.valueError? config (LineTable.ofText content) content) := by
    rw [Workspace.valueErrors, TokenPair.ofTree_eq]
  have start {token : TokenPair} {entry : Diagnostic} (member : token ∈ root.tokens content)
      (found : Workspace.valueError? config (LineTable.ofText content) content token = some entry) :
      entry.range.start = (LineTable.ofText content).position token.pair.start := by
    rw [(valueError?_code found).2, placed.atKey token member]
    rfl
  have errorsApart : (Workspace.valueErrors config root content).Pairwise fun one other =>
      one.range.start ≠ other.range.start := by
    rw [errors]
    refine List.pairwise_filterMap.mpr (placed.apart.imp_of_mem ?_)
    intro one other oneIn otherIn distinct entry found entry' found'
    rw [start oneIn found, start otherIn found']
    exact distinct
  have codes : ∀ entry ∈ Workspace.valueErrors config root content, entry.code = some (.number 2322) := by
    intro entry member
    obtain ⟨token, -, found⟩ := List.mem_filterMap.mp (errors ▸ member)
    exact (valueError?_code found).1
  rw [rewordAll_of_apart _ _ _ errorsApart codes, errors, List.map_filterMap]
  have reworded : ∀ token ∈ root.tokens content,
      ((Workspace.valueError? config (LineTable.ofText content) content token).map fun entry =>
        { entry with message := (wordingAt (LineTable.ofText content) content (root.tokens content)
            entry.range.start).getD entry.message }) =
      (Workspace.valueError? config (LineTable.ofText content) content token).map fun entry =>
        { entry with message := invalidValueMessage token.name (token.literal? content) } := by
    intro token member
    cases found : Workspace.valueError? config (LineTable.ofText content) content token with
    | none => rfl
    | some entry =>
      simp only [Option.map_some, start member found, wordingAt_of_apart content placed.apart member, Option.getD_some]
  rw [List.filterMap_congr reworded, SyntaxNode.tokens, List.filterMap_filterMap]
  exact List.filterMap_congr fun node _ => (valueFinding?_eq config content node).symm

-- The host's own wording starts like no wording of the report.
theorem head?_append {first : String} {c : Char} (starts : first.toList.head? = some c) (rest : String) :
    (first ++ rest).toList.head? = some c := by
  rw [String.toList_append, List.head?_append, starts, Option.some_or]

theorem ne_raw_of_head? {message : String} {c : Char} (starts : message.toList.head? = some c) (other : c ≠ 'T')
    (text : String) : message ≠ "Type '" ++ text ++ "' is not assignable to type 'TokenValue'." := by
  have raw : ("Type '" ++ text ++ "' is not assignable to type 'TokenValue'.").toList.head? = some 'T' :=
    head?_append (head?_append (by decide) _) _
  rintro rfl
  exact other (Option.some.inj (starts.symm.trans raw))

theorem invalidValueMessage_ne_raw (property : String) (literal : Option String) (text : String) :
    invalidValueMessage property literal ≠ "Type '" ++ text ++ "' is not assignable to type 'TokenValue'." := by
  cases literal with
  | some literal =>
    refine ne_raw_of_head? (c := 'V') ?_ (by decide) text
    unfold invalidValueMessage
    repeat apply head?_append
    decide
  | none =>
    refine ne_raw_of_head? (c := 'G') ?_ (by decide) text
    unfold invalidValueMessage
    repeat apply head?_append
    decide

theorem valueFinding?_ne_raw {config : Config} {content : String} {node : SyntaxNode} {entry : Diagnostic}
    (found : valueFinding? config content node = some entry) (text : String) :
    entry.message ≠ "Type '" ++ text ++ "' is not assignable to type 'TokenValue'." := by
  obtain ⟨token, -, -, -, message⟩ := valueFinding?_parts found
  rw [message]
  exact invalidValueMessage_ne_raw _ _ _

theorem nameFinding?_ne_raw {config : Config} {content : String} {node : SyntaxNode} {entry : Diagnostic}
    (found : nameFinding? config content node = some entry) (text : String) :
    entry.message ≠ "Type '" ++ text ++ "' is not assignable to type 'TokenValue'." := by
  obtain ⟨token, -, -, message⟩ := nameFinding?_parts found
  rw [message]
  refine ne_raw_of_head? (c := 'I') ?_ (by decide) text
  exact head?_append (head?_append (by decide) _) _

end Report

namespace Plugin

open Report

-- What the plugin answers on the values and names of a document when it stands before the workspace.
def report (plugin : Plugin Workspace) (uri : Uri) : List Diagnostic :=
  ((service Workspace.service).respond plugin (.semanticDiagnostics uri)).answer

theorem report_eq_augment {config : Config} {plugin : Plugin Workspace} {uri : Uri} {file : SourceFile}
    {root : SyntaxNode} (own : plugin.config? = some config) (opened : plugin.host.file? uri = some file)
    (parsed : file.tree = some root) :
    plugin.report uri = augment config root file.content (plugin.host.semanticDiagnostics uri) := by
  obtain ⟨tokens, enabled, rfl⟩ := Option.map_eq_some_iff.mp own
  simp [report, service, respond, semanticDiagnostics, ask, Workspace.service, Workspace.respond, enabled, opened,
    parsed]

theorem report_eq_findings {config : Config} {plugin : Plugin Workspace} {uri : Uri} {file : SourceFile}
    {root : SyntaxNode} (own : plugin.config? = some config) (shared : plugin.host.config = some config)
    (opened : plugin.host.file? uri = some file) (parsed : file.tree = some root)
    (placed : KeysInPlace root file.content) :
    plugin.report uri = root.preorder.filterMap (valueFinding? config file.content) ++
      root.preorder.filterMap (nameFinding? config file.content) := by
  have reported : plugin.host.semanticDiagnostics uri = Workspace.valueErrors config root file.content := by
    simp [Workspace.semanticDiagnostics, shared, opened, parsed]
  rw [report_eq_augment own opened parsed, reported, augment_eq, rewordAll_valueErrors config placed, nameFindings_eq]

-- The report of a session, whatever its other documents and its cache: the errors on values in the order of
-- the document, then the errors on names in that order. Both are read off the nodes one by one, so each
-- names its own pair, and nothing of the host's wording is left.
theorem session_report_exact (config : Config) (plugin : Plugin Workspace) (uri : Uri) (file : SourceFile)
    (root : SyntaxNode) (own : plugin.config? = some config) (shared : plugin.host.config = some config)
    (opened : plugin.host.file? uri = some file) (parsed : file.tree = some root)
    (placed : KeysInPlace root file.content) :
    plugin.report uri = root.preorder.filterMap (valueFinding? config file.content) ++
        root.preorder.filterMap (nameFinding? config file.content) ∧
      ∀ entry ∈ plugin.report uri, ∀ text,
        entry.message ≠ "Type '" ++ text ++ "' is not assignable to type 'TokenValue'." := by
  refine ⟨report_eq_findings own shared opened parsed placed, ?_⟩
  rw [report_eq_findings own shared opened parsed placed]
  intro entry member
  rcases List.mem_append.mp member with onValue | onName
  · obtain ⟨node, -, found⟩ := List.mem_filterMap.mp onValue
    exact valueFinding?_ne_raw found
  · obtain ⟨node, -, found⟩ := List.mem_filterMap.mp onName
    exact nameFinding?_ne_raw found

end Plugin

namespace Sample

def plugin : Plugin Workspace :=
  .withConfig { documents := Table.insert ∅ uri.text file, config := some config } (some config)

theorem sample_report :
    KeysInPlace tree text ∧ (plugin.report uri).map (fun entry => (entry.range.start, entry.message)) =
      [(⟨1, 8⟩, "Value 'red' is not a theme token for 'lg$b'. Use a theme token or mark it arbitrary with '[red]'."),
       (⟨1, 22⟩, "Grid values are not assignable to 'x$c'."),
       (⟨1, 8⟩, "Invalid property 'lg$b'. Selector not found in theme."),
       (⟨1, 22⟩, "Invalid property 'x$c'. Selector not found in theme.")] := by
  have placed : KeysInPlace tree text := by decide
  refine ⟨placed, ?_⟩
  rw [(Plugin.session_report_exact config plugin uri file tree rfl rfl rfl rfl placed).1]
  decide

end Sample

end StyleTokens
