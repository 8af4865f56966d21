import StyleTokens.Proofs.LineScan
import StyleTokens.Proofs.OutermostFaults
import StyleTokens.Proofs.SessionReport

namespace StyleTokens

open Text (LineTable)

namespace SyntaxNode

-- A tree as it lies in the source. Of siblings, each is compared with the next one only.
structure InOrder (root : SyntaxNode) : Prop where
  forward : ∀ node ∈ root.preorder, node.start ≤ node.stop
  inside : ∀ node ∈ root.preorder, ∀ child ∈ node.children, node.start ≤ child.start ∧ child.stop ≤ node.stop
  siblings : ∀ node ∈ root.preorder, node.children.IsChain fun one other => one.stop ≤ other.start
  keys : ∀ pair ∈ root.preorder, pair.isPair = true → ∀ key ∈ pair.key?, pair.start = key.start

instance (root : SyntaxNode) : Decidable (InOrder root) :=
  decidable_of_iff (_ ∧ _ ∧ _ ∧ _)
    ⟨fun all => ⟨all.1, all.2.1, all.2.2.1, all.2.2.2⟩,
      fun order => ⟨order.forward, order.inside, order.siblings, order.keys⟩⟩

-- A node between two siblings ends after it starts, and so the order of neighbours is that of all.
theorem siblings_apart {nodes : List SyntaxNode} (forward : ∀ node ∈ nodes, node.start ≤ node.stop)
    (chain : nodes.IsChain fun one other => one.stop ≤ other.start) :
    nodes.Pairwise fun one other => one.stop ≤ other.start := by
  induction nodes with
  | nil => exact .nil
  | cons first rest ih =>
    cases rest with
    | nil => exact List.pairwise_singleton _ _
    | cons second more =>
      obtain ⟨next, chain⟩ := List.isChain_cons_cons.mp chain
      have apart := ih (fun node member => forward node (List.mem_cons_of_mem _ member)) chain
      refine List.pairwise_cons.mpr ⟨?_, apart⟩
      intro other member
      rcases List.mem_cons.mp member with rfl | later
      · exact next
      · have through := forward second (by simp)
        have onward := (List.pairwise_cons.mp apart).1 other later
        omega

namespace InOrder

variable {root : SyntaxNode}

theorem laid (order : root.InOrder) : root.Laid where
  inside := by
    intro node within child member
    have bounds := order.inside node within child member
    exact ⟨bounds.1, order.forward child (child_mem_preorder member within), bounds.2⟩
  ordered := by
    intro node within
    refine siblings_apart ?_ (order.siblings node within)
    intro child member
    exact order.forward child (child_mem_preorder member within)

theorem below (order : root.InOrder) {node : SyntaxNode} (member : node ∈ root.preorder) : node.InOrder where
  forward := fun inner within => order.forward inner (mem_preorder_trans within member)
  inside := fun inner within => order.inside inner (mem_preorder_trans within member)
  siblings := fun inner within => order.siblings inner (mem_preorder_trans within member)
  keys := fun inner within => order.keys inner (mem_preorder_trans within member)

theorem child (order : root.InOrder) {child : SyntaxNode} (member : child ∈ root.children) : child.InOrder :=
  order.below (child_mem_preorder member (self_mem_preorder root))

end InOrder

-- The walk over siblings: what is below one of them starts before that one ends, and so before the later ones.
theorem preorderAll_ascending {nodes : List SyntaxNode} (order : ∀ node ∈ nodes, node.InOrder)
    (apart : nodes.Pairwise fun one other => one.stop ≤ other.start)
    (inner : ∀ node ∈ nodes, node.preorder.Pairwise fun one other => one.start ≤ other.start) :
    (preorderAll nodes).Pairwise fun one other => one.start ≤ other.start := by
  induction nodes with
  | nil => exact .nil
  | cons first rest ih =>
    obtain ⟨before, apart⟩ := List.pairwise_cons.mp apart
    rw [preorderAll, List.pairwise_append]
    refine ⟨inner first (by simp), ?_, ?_⟩
    · exact ih (fun node member => order node (List.mem_cons_of_mem _ member)) apart
        fun node member => inner node (List.mem_cons_of_mem _ member)
    · intro one early other late
      obtain ⟨node, member, within⟩ := mem_preorderAll.mp late
      have firstOrder := order first (by simp)
      have nodeOrder := order node (List.mem_cons_of_mem _ member)
      calc one.start ≤ one.stop := firstOrder.forward one early
        _ ≤ first.stop := (firstOrder.laid.range early).2
        _ ≤ node.start := before node member
        _ ≤ other.start := (nodeOrder.laid.range within).1

theorem preorder_ascending {root : SyntaxNode} (order : root.InOrder) :
    root.preorder.Pairwise fun one other => one.start ≤ other.start := by
  induction root using tree_induction with
  | step root ih =>
    rw [preorder_eq, List.pairwise_cons]
    constructor
    · intro node member
      have within : node ∈ root.preorder := by
        rw [preorder_eq]
        exact List.mem_cons_of_mem _ member
      exact (order.laid.range within).1
    · refine preorderAll_ascending (fun child member => order.child member) ?_ ?_
      · exact order.laid.ordered root (self_mem_preorder root)
      · intro child member
        exact ih child member (order.child member)

theorem faultsAll_sublist {nodes : List SyntaxNode} (inner : ∀ node ∈ nodes, node.faults.Sublist node.preorder) :
    (faultsAll nodes).Sublist (preorderAll nodes) := by
  induction nodes with
  | nil => exact .slnil
  | cons first rest ih =>
    rw [faultsAll, preorderAll]
    exact (inner first (by simp)).append (ih fun node member => inner node (List.mem_cons_of_mem _ member))

-- The walk for faults leaves nodes out and changes the order of none.
theorem faults_sublist (root : SyntaxNode) : root.faults.Sublist root.preorder := by
  induction root using tree_induction with
  | step root ih =>
    cases root with
    | node info children =>
      rw [faults, preorder]
      split
      · exact (List.nil_sublist _).cons_cons _
      · split
        · exact (faultsAll_sublist ih).cons _
        · exact List.nil_sublist _

theorem tokens_ascending {root : SyntaxNode} (order : root.InOrder) (content : String) :
    (root.tokens content).Pairwise fun one other => one.key.start ≤ other.key.start := by
  refine List.pairwise_filterMap.mpr ((preorder_ascending order).imp_of_mem ?_)
  intro node other within within' le token found token' found'
  obtain ⟨rfl, kind, hasKey, -⟩ := TokenPair.ofNode?_eq_some.mp found
  obtain ⟨rfl, kind', hasKey', -⟩ := TokenPair.ofNode?_eq_some.mp found'
  have start := order.keys token.pair within (by simp [isPair, kind]) token.key hasKey
  have start' := order.keys token'.pair within' (by simp [isPair, kind']) token'.key hasKey'
  omega

theorem tokens_forward {root : SyntaxNode} (order : root.InOrder) {content : String} {token : TokenPair}
    (member : token ∈ root.tokens content) : token.key.start ≤ token.key.stop := by
  obtain ⟨within, -, isChild, -⟩ := TokenPair.parts member
  exact order.forward token.key (child_mem_preorder isChild within)

end SyntaxNode

-- Entries follow each other in reading order, and each runs forward and ends inside the text.
structure InSourceOrder (content : String) (report : List Diagnostic) : Prop where
  ascending : report.Pairwise fun one other => one.range.start.AtMost other.range.start
  forward : ∀ entry ∈ report, entry.range.start.AtMost entry.range.stop
  within : ∀ entry ∈ report, entry.range.stop.AtMost ((LineTable.ofText content).position content.utf8ByteSize)

-- A report that names nodes in the order of their starts is in source order.
theorem inSourceOrder_of_ranges {α : Type} {content : String} (short : content.utf8ByteSize < UInt32.size)
    {items : List α} {finding : α → Option Diagnostic} (node : α → SyntaxNode)
    (ranged : ∀ item entry, finding item = some entry → entry.range = (node item).range (LineTable.ofText content))
    (ascending : items.Pairwise fun one other => (node one).start ≤ (node other).start)
    (forward : ∀ item ∈ items, (node item).start ≤ (node item).stop) :
    InSourceOrder content (items.filterMap finding) := by
  rw [← Text.byteLength_toList] at short
  refine ⟨?_, ?_, ?_⟩
  · refine List.Pairwise.filterMap finding ?_ ascending
    intro one other le entry found entry' found'
    rw [ranged one entry found, ranged other entry' found']
    exact LineTable.position_mono short le
  · intro entry member
    obtain ⟨item, among, found⟩ := List.mem_filterMap.mp member
    rw [ranged item entry found]
    exact LineTable.position_mono short (forward item among)
  · intro entry member
    obtain ⟨item, -, found⟩ := List.mem_filterMap.mp member
    rw [ranged item entry found, ← Text.byteLength_toList]
    have clamped := LineTable.position_clamped content (node item).stop
    have atEnd := LineTable.position_mono short (Nat.min_le_right (node item).stop (Text.byteLength content.toList))
    rwa [clamped] at atEnd

namespace Report

theorem selectorError?_range {config : Config} {lines : LineTable} {token : TokenPair} {entry : Diagnostic}
    (found : selectorError? config lines token = some entry) : entry.range = token.key.range lines := by
  unfold selectorError? at found
  split at found
  · cases Option.some.inj found
    rfl
  · cases found

-- What is added comes behind all that the host reported.
theorem augment_drop (config : Config) (root : SyntaxNode) (content : String) (original : List Diagnostic) :
    (augment config root content original).drop original.length =
      (root.tokens content).filterMap (selectorError? config (LineTable.ofText content)) := by
  rw [augment_eq, List.drop_left' (rewordAll_length _ _ _ _)]

end Report

-- The three reports on a tree that lies in order: the errors added on names, those of the host on values, and those
-- of the parse.
theorem reports_in_source_order (root : SyntaxNode) (content : String) (order : root.InOrder)
    (short : content.utf8ByteSize < UInt32.size) :
    (∀ config original,
      InSourceOrder content ((Report.augment config root content original).drop original.length)) ∧
    ∀ (workspace : Workspace) (uri : Uri) (file : SourceFile), workspace.file? uri = some file →
      file.content = content → file.tree = some root →
      InSourceOrder content (workspace.semanticDiagnostics uri) ∧
        InSourceOrder content (workspace.syntacticDiagnostics uri) := by
  have ofTokens {finding : TokenPair → Option Diagnostic}
      (ranged : ∀ token entry, finding token = some entry → entry.range = token.key.range (LineTable.ofText content)) :
      InSourceOrder content ((root.tokens content).filterMap finding) :=
    inSourceOrder_of_ranges short TokenPair.key ranged (SyntaxNode.tokens_ascending order content)
      fun token member => SyntaxNode.tokens_forward order member
  constructor
  · intro config original
    rw [Report.augment_drop]
    exact ofTokens fun token entry found => Report.selectorError?_range found
  · intro workspace uri file opened same parsed
    subst same
    constructor
    · unfold Workspace.semanticDiagnostics
      cases workspace.config with
      | none => exact ⟨.nil, by simp, by simp⟩
      | some config =>
        simp only [opened, parsed, Workspace.valueErrors, TokenPair.ofTree_eq]
        exact ofTokens fun token entry found => (Report.valueError?_code found).2
    · rw [Workspace.syntacticDiagnostics_eq opened parsed, ← List.filterMap_eq_map]
      refine inSourceOrder_of_ranges short id ?_ ((SyntaxNode.preorder_ascending order).sublist root.faults_sublist) ?_
      · intro node entry found
        cases Option.some.inj found
        rfl
      · intro node member
        exact order.forward node (root.faults_sublist.subset member)

namespace Sample

-- A pair inside another one, and a missing bracket behind an error.
theorem nested_pairs_in_order :
    (tree.InOrder ∧ text.utf8ByteSize < UInt32.size ∧ plugin.host.file? uri = some file) ∧
      InSourceOrder text ((Report.augment config tree text (plugin.host.semanticDiagnostics uri)).drop 2) ∧
      ((Report.augment config tree text (plugin.host.semanticDiagnostics uri)).drop 2).map (·.range) =
        [⟨⟨1, 8⟩, ⟨1, 14⟩⟩, ⟨⟨1, 22⟩, ⟨1, 27⟩⟩] ∧
      InSourceOrder text (Report.augment {} tree text []) ∧
      (Report.augment {} tree text []).map (·.range) =
        [⟨⟨1, 0⟩, ⟨1, 6⟩⟩, ⟨⟨1, 8⟩, ⟨1, 14⟩⟩, ⟨⟨1, 22⟩, ⟨1, 27⟩⟩] ∧
      InSourceOrder text (plugin.host.semanticDiagnostics uri) ∧
      (plugin.host.semanticDiagnostics uri).map (·.range) = [⟨⟨1, 8⟩, ⟨1, 14⟩⟩, ⟨⟨1, 22⟩, ⟨1, 27⟩⟩] ∧
      (brokenTree.InOrder ∧ brokenText.utf8ByteSize < UInt32.size ∧ brokenDesk.file? uri = some brokenFile) ∧
      InSourceOrder brokenText (brokenDesk.syntacticDiagnostics uri) ∧
      (brokenDesk.syntacticDiagnostics uri).map (·.range) = [⟨⟨0, 2⟩, ⟨0, 6⟩⟩, ⟨⟨1, 3⟩, ⟨1, 3⟩⟩] := by
  have order : tree.InOrder := by decide
  have short : text.utf8ByteSize < UInt32.size := by decide
  have order' : brokenTree.InOrder := by decide
  have short' : brokenText.utf8ByteSize < UInt32.size := by decide
  obtain ⟨added, own⟩ := reports_in_source_order tree text order short
  obtain ⟨-, own'⟩ := reports_in_source_order brokenTree brokenText order' short'
  refine ⟨⟨order, short, rfl⟩, ?_, rfl, ?_, rfl, ?_, rfl, ⟨order', short', rfl⟩, ?_, rfl⟩
  · exact added config (plugin.host.semanticDiagnostics uri)
  · exact added {} []
  · exact (own plugin.host uri file rfl rfl rfl).1
  · exact (own' brokenDesk uri brokenFile rfl rfl rfl).2

end Sample

end StyleTokens
