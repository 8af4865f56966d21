import StyleTokens.Proofs.TokenPairs
import StyleTokens.Workspace

namespace StyleTokens

open Text (LineTable)

namespace SyntaxNode

-- The walk for the outermost faults, with any rule for which of the other nodes are entered.
mutual

def faultsEntering (enters : SyntaxNode → Bool) : SyntaxNode → List SyntaxNode
  | .node info children =>
    if isFault (.node info children) then [.node info children]
    else if enters (.node info children) then faultsEnteringAll enters children
    else []

def faultsEnteringAll (enters : SyntaxNode → Bool) : List SyntaxNode → List SyntaxNode
  | [] => []
  | first :: rest => faultsEntering enters first ++ faultsEnteringAll enters rest

end

theorem faultsEnteringAll_eq (enters : SyntaxNode → Bool) (nodes : List SyntaxNode) :
    faultsEnteringAll enters nodes = nodes.flatMap (faultsEntering enters) := by
  induction nodes with
  | nil => rfl
  | cons first rest ih => rw [faultsEnteringAll, ih, List.flatMap_cons]

theorem faultsEntering_eq (enters : SyntaxNode → Bool) (node : SyntaxNode) :
    faultsEntering enters node =
      if node.isFault then [node]
      else if enters node then node.children.flatMap (faultsEntering enters) else [] := by
  cases node with
  | node info children =>
    rw [faultsEntering, faultsEnteringAll_eq]
    rfl

theorem faultsAll_eq (nodes : List SyntaxNode) : faultsAll nodes = nodes.flatMap faults := by
  induction nodes with
  | nil => rfl
  | cons first rest ih => rw [faultsAll, ih, List.flatMap_cons]

theorem faults_eq_entering (root : SyntaxNode) : root.faults = root.faultsEntering hasFault := by
  induction root using tree_induction with
  | step root ih =>
    rw [faultsEntering_eq, ← List.flatMap_congr ih]
    cases root with
    | node info children =>
      rw [faults, faultsAll_eq]
      rfl

theorem hasFault_iff {root : SyntaxNode} : root.hasFault = true ↔ ∃ node ∈ root.preorder, node.isFault = true := by
  rw [hasFault, List.any_eq_true]

theorem hasFault_cases {root : SyntaxNode} :
    root.hasFault = true ↔ root.isFault = true ∨ ∃ child ∈ root.children, child.hasFault = true := by
  simp only [hasFault_iff]
  constructor
  · rintro ⟨node, within, fault⟩
    rcases mem_preorder.mp within with rfl | ⟨child, member, below⟩
    · exact .inl fault
    · exact .inr ⟨child, member, node, below, fault⟩
  · rintro (fault | ⟨child, member, node, below, fault⟩)
    · exact ⟨root, self_mem_preorder root, fault⟩
    · exact ⟨node, mem_preorder.mpr (.inr ⟨child, member, below⟩), fault⟩

-- The plain walk enters every node that is no fault itself.
theorem plain_eq_nil_iff {root : SyntaxNode} : root.faultsEntering (fun _ => true) = [] ↔ root.hasFault = false := by
  induction root using tree_induction with
  | step root ih =>
    rw [faultsEntering_eq, ← Bool.not_eq_true, hasFault_cases]
    cases fault : root.isFault with
    | true => simp
    | false =>
      simp only [Bool.false_eq_true, if_false, if_true, List.flatMap_eq_nil_iff, false_or, not_exists, not_and,
        Bool.not_eq_true]
      constructor
      · intro empty child member
        exact (ih child member).mp (empty child member)
      · intro clean child member
        exact (ih child member).mpr (clean child member)

-- A node may be left out as soon as no fault is below it.
theorem entering_eq_plain {root : SyntaxNode} {enters : SyntaxNode → Bool}
    (sound : ∀ node ∈ root.preorder, node.hasFault = true → enters node = true) :
    root.faultsEntering enters = root.faultsEntering fun _ => true := by
  induction root using tree_induction with
  | step root ih =>
    have below : root.children.flatMap (faultsEntering enters) =
        root.children.flatMap (faultsEntering fun _ => true) := by
      apply List.flatMap_congr
      intro child member
      apply ih child member
      intro node within
      exact sound node (mem_preorder.mpr (.inr ⟨child, member, within⟩))
    cases entered : enters root with
    | true => rw [faultsEntering_eq, faultsEntering_eq, below, entered]
    | false =>
      have clean : root.hasFault = false := by
        cases flag : root.hasFault with
        | false => rfl
        | true =>
          rw [sound root (self_mem_preorder root) flag] at entered
          cases entered
      have plain := plain_eq_nil_iff.mpr clean
      rw [plain, faultsEntering_eq, entered]
      rw [faultsEntering_eq] at plain
      cases fault : root.isFault with
      | true => simp [fault] at plain
      | false => rfl

-- A fault at the end of the path, and none at any node on the way to it.
structure Outermost (root : SyntaxNode) (path : List Nat) (node : SyntaxNode) : Prop where
  place : root.nodeAt? path = some node
  fault : node.isFault = true
  uncovered : ∀ above rest outer, path = above ++ rest → rest ≠ [] → root.nodeAt? above = some outer →
    outer.isFault = false

theorem outermost_iff_reached {root node : SyntaxNode} {path : List Nat} :
    Outermost root path node ↔ Reached isFault (fun node => !node.isFault) root path node := by
  constructor
  · rintro ⟨place, fault, uncovered⟩
    refine ⟨place, fault, ?_⟩
    intro above rest outer whole more passed
    rw [uncovered above rest outer whole more passed]
    rfl
  · rintro ⟨place, fault, entered⟩
    refine ⟨place, fault, ?_⟩
    intro above rest outer whole more passed
    simpa using entered above rest outer whole more passed

-- The plain walk once more, with the path to each fault.
def placedFaults (root : SyntaxNode) : List (List Nat × SyntaxNode) := root.placedBy isFault fun node => !node.isFault

theorem placedFaults_nodes (root : SyntaxNode) :
    root.placedFaults.map Prod.snd = root.faultsEntering fun _ => true := by
  refine placedBy_nodes (fun node => ?_) root
  rw [faultsEntering_eq]
  cases node.isFault <;> simp

end SyntaxNode

namespace Workspace

theorem syntacticDiagnostics_eq {workspace : Workspace} {uri : Uri} {file : SourceFile} {root : SyntaxNode}
    (opened : workspace.file? uri = some file) (parsed : file.tree = some root) :
    workspace.syntacticDiagnostics uri =
      root.faults.map (syntaxErrorOf (LineTable.ofText file.content) file.content) := by
  simp [syntacticDiagnostics, opened, parsed]

-- The syntax errors of an open document. There is one for each place of an outermost fault, in pre-order, and the walk
-- finds the same ones under every rule that enters the nodes with a fault below, such as the one that enters all.
theorem syntactic_report_exact (workspace : Workspace) (uri : Uri) (file : SourceFile) (root : SyntaxNode)
    (opened : workspace.file? uri = some file) (parsed : file.tree = some root) :
    (∃ places : List (List Nat × SyntaxNode),
      places.Pairwise SyntaxNode.PathBefore ∧
      (∀ path node, (path, node) ∈ places ↔ root.Outermost path node) ∧
      workspace.syntacticDiagnostics uri =
        places.map (fun place => syntaxErrorOf (LineTable.ofText file.content) file.content place.2) ∧
      (workspace.syntacticDiagnostics uri).map (·.range) =
        places.map fun place => place.2.range (LineTable.ofText file.content)) ∧
    (∀ enters : SyntaxNode → Bool, (∀ node ∈ root.preorder, node.hasFault = true → enters node = true) →
      root.faultsEntering enters = root.faults) ∧
    (workspace.syntacticDiagnostics uri = [] ↔ root.hasFault = false) := by
  have pruned : root.faults = root.faultsEntering fun _ => true := by
    rw [SyntaxNode.faults_eq_entering]
    exact SyntaxNode.entering_eq_plain fun _ _ flag => flag
  have report := syntacticDiagnostics_eq opened parsed
  refine ⟨⟨root.placedFaults, SyntaxNode.placedBy_ordered _ _ root, ?_, ?_, ?_⟩, ?_, ?_⟩
  · intro path node
    exact SyntaxNode.mem_placedBy.trans SyntaxNode.outermost_iff_reached.symm
  · rw [report, pruned, ← SyntaxNode.placedFaults_nodes, List.map_map]
    rfl
  · rw [report, pruned, ← SyntaxNode.placedFaults_nodes, List.map_map, List.map_map]
    rfl
  · intro enters sound
    rw [pruned, SyntaxNode.entering_eq_plain sound]
  · rw [report, List.map_eq_nil_iff, pruned, SyntaxNode.plain_eq_nil_iff]

end Workspace

namespace Sample

def brokenText : String := "x;4,1:\ny=("

def fault (isMissing : Bool) (kind : String) (start stop : Nat) (children : List SyntaxNode) : SyntaxNode :=
  .node ⟨kind, !isMissing, !isMissing, isMissing, false, false, start, stop⟩ children

def brokenPart : SyntaxNode :=
  fault false "ERROR" 2 6
    [named "number" 2 3 [], mark "," 3, fault false "ERROR" 4 6 [named "number" 4 5 [], mark ":" 5]]

-- A clean statement, an error inside an error, and a bracket that is missing.
def brokenTree : SyntaxNode :=
  named "program" 0 10
    [named "expression_statement" 0 2 [named "identifier" 0 1 [], mark ";" 1],
     brokenPart,
     named "expression_statement" 7 10 [named "assignment_expression" 7 10
      [named "identifier" 7 8 [], mark "=" 8,
       named "parenthesized_expression" 9 10 [mark "(" 9, fault true ")" 10 10 []]]]]

def brokenFile : SourceFile := ⟨uri, brokenText, 1, some brokenTree⟩

def brokenDesk : Workspace := { documents := Table.insert ∅ uri.text brokenFile }

theorem inner_fault_unreported :
    (brokenDesk.file? uri = some brokenFile ∧ brokenFile.tree = some brokenTree) ∧
      (∃ places : List (List Nat × SyntaxNode), ([1], brokenPart) ∈ places ∧ (∀ node, ([1, 2], node) ∉ places) ∧
        brokenDesk.syntacticDiagnostics uri = places.map
          (fun place => Workspace.syntaxErrorOf (LineTable.ofText brokenText) brokenText place.2)) ∧
      (brokenDesk.syntacticDiagnostics uri).map (fun entry => (entry.range, entry.message)) =
        [(⟨⟨0, 2⟩, ⟨0, 6⟩⟩, "Syntax error: 4,1:"), (⟨⟨1, 3⟩, ⟨1, 3⟩⟩, "')' expected.")] := by
  obtain ⟨⟨places, -, outermost, report, -⟩, -, -⟩ :=
    Workspace.syntactic_report_exact brokenDesk uri brokenFile brokenTree rfl rfl
  refine ⟨⟨rfl, rfl⟩, ⟨places, ?_, ?_, report⟩, rfl⟩
  · apply (outermost [1] brokenPart).mpr
    apply SyntaxNode.outermost_iff_reached.mpr
    exact SyntaxNode.reached_cons.mpr ⟨rfl, brokenPart, rfl, SyntaxNode.reached_nil.mpr ⟨rfl, rfl⟩⟩
  · intro node member
    have clean := ((outermost [1, 2] node).mp member).uncovered [1] [2] brokenPart rfl (by simp) rfl
    cases clean

end Sample

end StyleTokens
