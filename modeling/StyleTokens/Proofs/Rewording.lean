import Mathlib.Data.List.Basic
import Mathlib.Data.List.Induction
import StyleTokens.Proofs.TokenPairs
import StyleTokens.Report

namespace StyleTokens

open Text (LineTable Position)

namespace Report

-- An entry leads when it is a value error and no earlier value error starts where it starts. The
-- rewording finds an entry by a first match, so it can reach leading entries only.
def Leads (earlier : List Diagnostic) (entry : Diagnostic) : Prop :=
  entry.code = some (.number 2322) ∧
    ∀ other ∈ earlier, other.range.start = entry.range.start → other.code ≠ some (.number 2322)

instance (earlier : List Diagnostic) (entry : Diagnostic) : Decidable (Leads earlier entry) :=
  inferInstanceAs (Decidable (_ ∧ _))

theorem isValueErrorAt_iff {start : Position} {entry : Diagnostic} :
    isValueErrorAt start entry = true ↔ entry.range.start = start ∧ entry.code = some (.number 2322) := by
  simp [isValueErrorAt, Diagnostic.valueNotAssignable]

theorem leads_cons_iff {first entry : Diagnostic} {earlier : List Diagnostic}
    (other : ¬ (first.range.start = entry.range.start ∧ first.code = some (.number 2322))) :
    Leads (first :: earlier) entry ↔ Leads earlier entry := by
  constructor
  · rintro ⟨code, free⟩
    exact ⟨code, fun prior member => free prior (List.mem_cons_of_mem _ member)⟩
  · rintro ⟨code, free⟩
    refine ⟨code, ?_⟩
    intro prior member same
    rcases List.mem_cons.mp member with rfl | old
    · exact fun isError => other ⟨same, isError⟩
    · exact free prior old same

-- Leading is decided by codes and starts, which no rewording touches.
theorem leads_congr {earlier earlier' : List Diagnostic} {entry entry' : Diagnostic}
    (same : earlier.map (fun d => (d.range, d.code)) = earlier'.map (fun d => (d.range, d.code)))
    (range : entry.range = entry'.range) (code : entry.code = entry'.code) :
    Leads earlier entry ↔ Leads earlier' entry' := by
  have reading (list : List Diagnostic) (one : Diagnostic) : Leads list one ↔
      one.code = some (.number 2322) ∧ ∀ key ∈ list.map (fun d => (d.range, d.code)),
        key.1.start = one.range.start → key.2 ≠ some (.number 2322) := by
    simp [Leads]
  rw [reading, reading, same, range, code]

-- One rewording, entry by entry.
theorem reword_getElem? (start : Position) (message : String) (report : List Diagnostic) (j : Nat) :
    (reword start message report)[j]? = report[j]?.map fun entry =>
      if entry.range.start = start ∧ Leads (report.take j) entry then { entry with message } else entry := by
  induction report generalizing j with
  | nil => simp [reword]
  | cons first rest ih =>
    unfold reword
    by_cases hit : isValueErrorAt start first = true
    · have found := isValueErrorAt_iff.mp hit
      rw [if_pos hit]
      cases j with
      | zero => simp [Leads, found.1, found.2]
      | succ j =>
        -- A later entry at the same start does not lead, for this one comes before it.
        have passed (entry : Diagnostic) :
            ¬ (entry.range.start = start ∧ Leads (first :: rest.take j) entry) := by
          rintro ⟨same, -, free⟩
          exact free first (by simp) (found.1.trans same.symm) found.2
        simp [passed]
    · have missed : ¬ (first.range.start = start ∧ first.code = some (.number 2322)) :=
        fun both => hit (isValueErrorAt_iff.mpr both)
      rw [if_neg hit]
      cases j with
      | zero =>
        have stays : ¬ (first.range.start = start ∧ Leads [] first) := fun both => missed ⟨both.1, both.2.1⟩
        simp [stays]
      | succ j =>
        have skipped (entry : Diagnostic) :
            (entry.range.start = start ∧ Leads (first :: rest.take j) entry) ↔
              (entry.range.start = start ∧ Leads (rest.take j) entry) := by
          refine and_congr_right fun same => leads_cons_iff ?_
          rwa [same]
        simp [ih, skipped]

theorem reword_keys (start : Position) (message : String) (report : List Diagnostic) :
    (reword start message report).map (fun d => (d.range, d.code)) = report.map (fun d => (d.range, d.code)) := by
  induction report with
  | nil => rfl
  | cons first rest ih =>
    unfold reword
    split
    · rfl
    · simp [ih]

-- The rewordings alone, for the pairs in turn.
def rewordAll (lines : LineTable) (content : String) (tokens : List TokenPair) (report : List Diagnostic) :
    List Diagnostic :=
  tokens.foldl (fun report token =>
    reword (lines.position token.pair.start) (invalidValueMessage token.name (token.literal? content)) report) report

theorem rewordAll_keys (lines : LineTable) (content : String) (tokens : List TokenPair) (report : List Diagnostic) :
    (rewordAll lines content tokens report).map (fun d => (d.range, d.code)) =
      report.map (fun d => (d.range, d.code)) := by
  induction tokens generalizing report with
  | nil => rfl
  | cons token rest ih => exact (ih _).trans (reword_keys _ _ _)

theorem rewordAll_length (lines : LineTable) (content : String) (tokens : List TokenPair) (report : List Diagnostic) :
    (rewordAll lines content tokens report).length = report.length := by
  simpa using congrArg List.length (rewordAll_keys lines content tokens report)

theorem rewordAll_concat (lines : LineTable) (content : String) (tokens : List TokenPair) (last : TokenPair)
    (report : List Diagnostic) :
    rewordAll lines content (tokens ++ [last]) report =
      reword (lines.position last.pair.start) (invalidValueMessage last.name (last.literal? content))
        (rewordAll lines content tokens report) := by
  simp [rewordAll]

-- The wording that the tokens leave at a position: that of the last one which starts there.
def wordingAt (lines : LineTable) (content : String) (tokens : List TokenPair) (start : Position) : Option String :=
  (tokens.filter fun token => lines.position token.pair.start = start).getLast?.map fun token =>
    invalidValueMessage token.name (token.literal? content)

theorem wordingAt_concat (lines : LineTable) (content : String) (tokens : List TokenPair) (last : TokenPair)
    (start : Position) :
    wordingAt lines content (tokens ++ [last]) start =
      if lines.position last.pair.start = start then
        some (invalidValueMessage last.name (last.literal? content))
      else wordingAt lines content tokens start := by
  by_cases here : lines.position last.pair.start = start <;> simp [wordingAt, here]

-- The message of an entry once all tokens have had their turn.
def messageAfter (lines : LineTable) (content : String) (tokens : List TokenPair) (earlier : List Diagnostic)
    (entry : Diagnostic) : String :=
  if Leads earlier entry then (wordingAt lines content tokens entry.range.start).getD entry.message
  else entry.message

-- All rewordings, entry by entry. The induction adds a token at the end, since a later token rewords
-- what the earlier ones have left.
theorem rewordAll_getElem? (lines : LineTable) (content : String) (tokens : List TokenPair)
    (report : List Diagnostic) (j : Nat) :
    (rewordAll lines content tokens report)[j]? = report[j]?.map fun entry =>
      { entry with message := messageAfter lines content tokens (report.take j) entry } := by
  induction tokens using List.reverseRecOn with
  | nil => simp [rewordAll, messageAfter, wordingAt]
  | append_singleton tokens last ih =>
    rw [rewordAll_concat, reword_getElem?, ih, Option.map_map]
    congr 1
    funext entry
    have stable (message : String) :
        Leads ((rewordAll lines content tokens report).take j) { entry with message } ↔
          Leads (report.take j) entry := by
      refine leads_congr ?_ rfl rfl
      rw [List.map_take, List.map_take, rewordAll_keys]
    simp only [Function.comp_apply, stable, messageAfter, wordingAt_concat]
    by_cases leads : Leads (report.take j) entry
    · by_cases here : entry.range.start = lines.position last.pair.start
      · simp [leads, here]
      · simp [leads, here, Ne.symm here]
    · simp [leads]

-- The error on the name of one node, if it is a token pair with a name that the config does not decode.
def nameFinding? (config : Config) (content : String) (node : SyntaxNode) : Option Diagnostic :=
  match TokenPair.ofNode? content node with
  | none => none
  | some token =>
    match Property.decode? config token.name with
    | some _ => none
    | none =>
      some {
        range := token.key.range (LineTable.ofText content)
        severity := some 1
        code := some (.number 100001)
        source := some "token-lens"
        message := "Invalid property '" ++ token.name ++ "'. Selector not found in theme." }

theorem nameFinding?_parts {config : Config} {content : String} {node : SyntaxNode} {entry : Diagnostic}
    (found : nameFinding? config content node = some entry) :
    ∃ token, TokenPair.ofNode? content node = some token ∧ entry.code = some (.number 100001) ∧
      entry.message = "Invalid property '" ++ token.name ++ "'. Selector not found in theme." := by
  unfold nameFinding? at found
  split at found
  · cases found
  · rename_i token isToken
    split at found
    · cases found
    · cases Option.some.inj found
      exact ⟨token, isToken, rfl, rfl⟩

theorem nameFindings_eq (config : Config) (root : SyntaxNode) (content : String) :
    (root.tokens content).filterMap (selectorError? config (LineTable.ofText content)) =
      root.preorder.filterMap (nameFinding? config content) := by
  rw [SyntaxNode.tokens, List.filterMap_filterMap]
  refine List.filterMap_congr fun node _ => ?_
  cases found : TokenPair.ofNode? content node with
  | none => simp [nameFinding?, found]
  | some token =>
    cases decoded : Property.decode? config token.name with
    | none => simp only [nameFinding?, found, decoded, selectorError?, Option.bind_some, Option.isNone_none, if_true]; rfl
    | some property => simp [nameFinding?, found, decoded, selectorError?]

section Walk

variable (config : Config) (lines : LineTable) (content : String)

-- What the walk does at one node.
def visit (draft : Draft) (node : SyntaxNode) : Draft :=
  if node.isPair then draft.check config lines content node else draft

theorem walkAll_eq_foldl (draft : Draft) (nodes : List SyntaxNode) :
    walkAll config lines content draft nodes = nodes.foldl (walk config lines content) draft := by
  induction nodes generalizing draft with
  | nil => rfl
  | cons first rest ih => rw [walkAll, ih, List.foldl_cons]

theorem walk_eq_foldl (draft : Draft) (root : SyntaxNode) :
    walk config lines content draft root = root.preorder.foldl (visit config lines content) draft := by
  induction root using SyntaxNode.tree_induction generalizing draft with
  | step root ih =>
    have enters : walk config lines content draft root =
        walkAll config lines content (visit config lines content draft root) root.children := by
      cases root with
      | node info children => rw [walk]; rfl
    rw [enters, walkAll_eq_foldl, SyntaxNode.preorder_eq, SyntaxNode.preorderAll_eq, List.foldl_cons, List.foldl_flatMap]
    exact List.foldl_ext _ _ _ fun draft child member => ih child member draft

variable {content} {draft : Draft} {node : SyntaxNode}

theorem visit_other (other : TokenPair.ofNode? content node = none) : visit config lines content draft node = draft := by
  rw [TokenPair.ofNode?_eq_ofPair?] at other
  unfold visit
  split at other
  · rename_i pair
    rw [if_pos pair, Draft.check, other]
  · rename_i pair
    rw [if_neg pair]

theorem visit_token {token : TokenPair} (found : TokenPair.ofNode? content node = some token) :
    visit config lines content draft node =
      { report := rewordAll lines content [token] draft.report
        added := draft.added ++ (selectorError? config lines token).toList } := by
  obtain ⟨rfl, -⟩ := TokenPair.ofNode?_eq_some.mp found
  rw [TokenPair.ofNode?_eq_ofPair?] at found
  obtain ⟨pair, read⟩ := Option.ite_none_right_eq_some.mp found
  rw [visit, if_pos pair, Draft.check, read]
  rfl

-- The two parts of a draft never meet: what is added is not reworded, and no rewording adds anything.
theorem foldl_visit (nodes : List SyntaxNode) :
    nodes.foldl (visit config lines content) draft =
      { report := rewordAll lines content (nodes.filterMap (TokenPair.ofNode? content)) draft.report
        added := draft.added ++ (nodes.filterMap (TokenPair.ofNode? content)).filterMap (selectorError? config lines) } := by
  induction nodes generalizing draft with
  | nil => simp [rewordAll]
  | cons node rest ih =>
    rw [List.foldl_cons, ih]
    cases found : TokenPair.ofNode? content node with
    | none => rw [visit_other config lines found, List.filterMap_cons_none found]
    | some token =>
      rw [visit_token config lines found, List.filterMap_cons_some found]
      cases error : selectorError? config lines token <;> simp [rewordAll, error]

end Walk

-- The one walk does what two passes over the token pairs would do.
theorem augment_eq (config : Config) (root : SyntaxNode) (content : String) (original : List Diagnostic) :
    augment config root content original =
      rewordAll (LineTable.ofText content) content (root.tokens content) original ++
        (root.tokens content).filterMap (selectorError? config (LineTable.ofText content)) := by
  rw [augment, walk_eq_foldl, foldl_visit]
  rfl

-- The message that an entry ends with, told by the token pairs in pre-order.
inductive EndsAs (content : String) (tokens : List TokenPair) (earlier : List Diagnostic) (entry : Diagnostic) :
    String → Prop where
  | follows (behind : ¬ Leads earlier entry) : EndsAs content tokens earlier entry entry.message
  | apart (elsewhere : ∀ token ∈ tokens, (LineTable.ofText content).position token.pair.start ≠ entry.range.start) :
      EndsAs content tokens earlier entry entry.message
  | reworded {before after : List TokenPair} {last : TokenPair} {literal : Option String} (leads : Leads earlier entry)
      (split : tokens = before ++ last :: after)
      (here : (LineTable.ofText content).position last.pair.start = entry.range.start)
      (past : ∀ token ∈ after, (LineTable.ofText content).position token.pair.start ≠ entry.range.start)
      (holds : last.Holds content literal) :
      EndsAs content tokens earlier entry (invalidValueMessage last.name literal)

theorem messageAfter_endsAs (content : String) (tokens : List TokenPair) (earlier : List Diagnostic)
    (entry : Diagnostic) :
    EndsAs content tokens earlier entry (messageAfter (LineTable.ofText content) content tokens earlier entry) := by
  unfold messageAfter wordingAt
  by_cases leads : Leads earlier entry
  · rw [if_pos leads]
    cases found : (tokens.filter fun token =>
        (LineTable.ofText content).position token.pair.start = entry.range.start).getLast? with
    | none =>
      refine .apart ?_
      simpa [List.filter_eq_nil_iff] using found
    | some last =>
      obtain ⟨others, ends⟩ := List.getLast?_eq_some_iff.mp found
      obtain ⟨early, late, rfl, -, ends⟩ := List.filter_eq_append_iff.mp ends
      obtain ⟨middle, after, rfl, -, here, past⟩ := List.filter_eq_cons_iff.mp ends
      refine .reworded leads (List.append_assoc early middle (last :: after)).symm (by simpa using here) ?_
        (TokenPair.holds_literal? content last)
      simpa [List.filter_eq_nil_iff] using past
  · rw [if_neg leads]
    exact .follows leads

-- The whole effect on a host's report of any kind. The token pairs are told by their places and by what stands there,
-- in pre-order. The first part of the result is a function of the report alone and the second of the config alone. An
-- entry keeps its place and every field but the message, and a message changes only where the entry leads and a token
-- pair starts, to the wording of the last such pair.
theorem augment_exact (root : SyntaxNode) (content : String) :
    ∃ (places : List (List Nat × TokenPair)) (reworded : List Diagnostic → List Diagnostic)
      (added : Config → List Diagnostic),
      places.Pairwise SyntaxNode.PathBefore ∧
      (∀ path token, (path, token) ∈ places ↔ root.nodeAt? path = some token.pair ∧ token.Reads content) ∧
      (∀ config original, augment config root content original = reworded original ++ added config) ∧
      (∀ original, (reworded original).length = original.length) ∧
      (∀ (original : List Diagnostic) (j : Nat) (entry : Diagnostic), original[j]? = some entry →
        ∃ message, EndsAs content (places.map Prod.snd) (original.take j) entry message ∧
          (reworded original)[j]? = some { entry with message }) ∧
      ∀ config, added config =
        (places.filter fun place => (Property.decode? config place.2.name).isNone).map fun place =>
          { range := place.2.key.range (LineTable.ofText content)
            severity := some 1
            code := some (.number 100001)
            source := some "token-lens"
            message := "Invalid property '" ++ place.2.name ++ "'. Selector not found in theme." } := by
  refine ⟨root.tokenPlaces content, rewordAll (LineTable.ofText content) content (root.tokens content),
    fun config => (root.tokens content).filterMap (selectorError? config (LineTable.ofText content)),
    root.tokenPlaces_ordered content, fun path token => SyntaxNode.mem_tokenPlaces,
    fun config original => augment_eq config root content original, rewordAll_length _ _ _, ?_, ?_⟩
  · intro original j entry there
    rw [rewordAll_getElem?, there, SyntaxNode.tokenPlaces_tokens]
    exact ⟨_, messageAfter_endsAs content (root.tokens content) (original.take j) entry, rfl⟩
  · intro config
    dsimp only
    rw [← SyntaxNode.tokenPlaces_tokens, List.filterMap_map, ← List.filterMap_eq_filter, List.map_filterMap]
    refine List.filterMap_congr fun place _ => ?_
    simp only [Function.comp_apply, selectorError?, Option.guard]
    split <;> rfl

end Report

namespace Sample

open Report (augment augment_exact)

def hostEntry (start : Position) (code : DiagnosticCode) (message : String) : Diagnostic :=
  { range := ⟨start, start⟩, code := some code, message }

def mixedText : String := "(\x7b'e':'😀',\n'md$a':\x7b'lg$b':'red'\x7d,'x$c':4\x7d)"

def nestedPair : SyntaxNode := named "pair" 22 34 [quoted true 22 28, mark ":" 28, quoted false 29 34]

-- A pair with a string for its key that is no property name, a token pair around another one, and one with a number.
def mixedTree : SyntaxNode :=
  named "program" 0 45 [named "expression_statement" 0 45 [named "parenthesized_expression" 0 45
    [mark "(" 0,
     named "object" 1 44
      [mark "\x7b" 1,
       named "pair" 2 12 [quoted true 2 5, mark ":" 5, quoted false 6 12],
       mark "," 12,
       named "pair" 14 35
        [quoted true 14 20, mark ":" 20,
         .node ⟨"object", true, false, false, false, true, 21, 35⟩ [mark "\x7b" 21, nestedPair, mark "\x7d" 34]],
       mark "," 35,
       named "pair" 36 43
        [quoted true 36 41, mark ":" 41, .node ⟨"number", true, false, false, false, true, 42, 43⟩ []],
       mark "\x7d" 43],
     mark ")" 44]]]

-- A value error twice on the nested pair, a text for a code before the number on the pair with a number, and one value
-- error each on the outer pair and on the one that is no token pair.
def hostReport : List Diagnostic :=
  [hostEntry ⟨1, 8⟩ (.number 2322) "red", hostEntry ⟨1, 8⟩ (.number 2322) "red again",
   hostEntry ⟨1, 22⟩ (.text "2322") "text", hostEntry ⟨1, 22⟩ (.number 2322) "number",
   hostEntry ⟨1, 0⟩ (.number 2322) "object", hostEntry ⟨0, 2⟩ (.number 2322) "plain"]

theorem host_report_reworded :
    ∃ (places : List (List Nat × TokenPair)) (reworded : List Diagnostic → List Diagnostic)
      (added : Config → List Diagnostic),
      ([0, 0, 1, 3, 2, 1], ⟨nestedPair, quoted true 22 28, "lg$b"⟩) ∈ places ∧
      (∀ config original, augment config mixedTree mixedText original = reworded original ++ added config) ∧
      (reworded hostReport).map (fun entry => (entry.range.start, entry.code, entry.message)) =
        [(⟨1, 8⟩, some (.number 2322),
            "Value 'red' is not a theme token for 'lg$b'. Use a theme token or mark it arbitrary with '[red]'."),
         (⟨1, 8⟩, some (.number 2322), "red again"),
         (⟨1, 22⟩, some (.text "2322"), "text"),
         (⟨1, 22⟩, some (.number 2322), "Grid values are not assignable to 'x$c'."),
         (⟨1, 0⟩, some (.number 2322), "Grid values are not assignable to 'md$a'."),
         (⟨0, 2⟩, some (.number 2322), "plain")] ∧
      (added config).map (fun entry => (entry.range, entry.code, entry.message)) =
        [(⟨⟨1, 8⟩, ⟨1, 14⟩⟩, some (.number 100001), "Invalid property 'lg$b'. Selector not found in theme."),
         (⟨⟨1, 22⟩, ⟨1, 27⟩⟩, some (.number 100001), "Invalid property 'x$c'. Selector not found in theme.")] ∧
      (added {}).map (·.range.start) = [⟨1, 0⟩, ⟨1, 8⟩, ⟨1, 22⟩] := by
  obtain ⟨places, reworded, added, -, isPlace, whole, sameLength, -⟩ := augment_exact mixedTree mixedText
  have first (config : Config) :
      reworded hostReport = (augment config mixedTree mixedText hostReport).take hostReport.length := by
    rw [whole, List.take_left' (sameLength hostReport)]
  have last (config : Config) :
      added config = (augment config mixedTree mixedText hostReport).drop hostReport.length := by
    rw [whole, List.drop_left' (sameLength hostReport)]
  have nested : TokenPair.ofNode? mixedText nestedPair = some ⟨nestedPair, quoted true 22 28, "lg$b"⟩ := rfl
  refine ⟨places, reworded, added, ?_, whole, ?_, ?_, ?_⟩
  · exact (isPlace _ _).mpr ⟨rfl, (TokenPair.ofNode?_eq_some_iff_reads.mp nested).2⟩
  · rw [first config]
    decide
  · rw [last config]
    decide
  · rw [last {}]
    decide

end Sample

end StyleTokens
