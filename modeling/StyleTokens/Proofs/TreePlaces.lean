import StyleTokens.Proofs.Descent

namespace StyleTokens.SyntaxNode

-- The node that the indices of children lead to. Equal nodes may stand in many places, so a place is such a path.
def nodeAt? : List Nat → SyntaxNode → Option SyntaxNode
  | [], root => some root
  | index :: path, root => root.children[index]?.bind (nodeAt? path)

-- Pre-order is the order of paths: index by index, and a path before those that go on from it.
def PathBefore {α : Type} (one other : List Nat × α) : Prop := List.Lex (· < ·) one.1 other.1

-- A walk that keeps the path to each node it takes, with any rules for which nodes are taken and which entered.
mutual

def placedBy (takes enters : SyntaxNode → Bool) : SyntaxNode → List (List Nat × SyntaxNode)
  | .node info children =>
    (if takes (.node info children) then [([], .node info children)] else []) ++
      if enters (.node info children) then placedByFrom takes enters 0 children else []

def placedByFrom (takes enters : SyntaxNode → Bool) (index : Nat) : List SyntaxNode → List (List Nat × SyntaxNode)
  | [] => []
  | first :: rest =>
    (placedBy takes enters first).map (fun place => (index :: place.1, place.2)) ++
      placedByFrom takes enters (index + 1) rest

end

-- A node that is taken at the end of the path, and nodes that are entered all the way to it.
structure Reached (takes enters : SyntaxNode → Bool) (root : SyntaxNode) (path : List Nat) (node : SyntaxNode) :
    Prop where
  place : root.nodeAt? path = some node
  taken : takes node = true
  entered : ∀ above rest outer, path = above ++ rest → rest ≠ [] → root.nodeAt? above = some outer →
    enters outer = true

variable {takes enters : SyntaxNode → Bool} {root node : SyntaxNode}

theorem reached_nil : Reached takes enters root [] node ↔ node = root ∧ takes root = true := by
  constructor
  · rintro ⟨place, taken, -⟩
    cases Option.some.inj place
    exact ⟨rfl, taken⟩
  · rintro ⟨rfl, taken⟩
    refine ⟨rfl, taken, ?_⟩
    intro above rest outer whole more
    exact absurd (List.append_eq_nil_iff.mp whole.symm).2 more

theorem reached_cons {index : Nat} {path : List Nat} :
    Reached takes enters root (index :: path) node ↔
      enters root = true ∧ ∃ child, root.children[index]? = some child ∧ Reached takes enters child path node := by
  constructor
  · rintro ⟨place, taken, entered⟩
    obtain ⟨child, found, inside⟩ := Option.bind_eq_some_iff.mp place
    refine ⟨entered [] (index :: path) root rfl (List.cons_ne_nil _ _) rfl, child, found, inside, taken, ?_⟩
    intro above onward outer whole more passed
    refine entered (index :: above) onward outer (by rw [whole, List.cons_append]) more ?_
    rw [nodeAt?, found, Option.bind_some, passed]
  · rintro ⟨entersRoot, child, found, inside, taken, entered⟩
    refine ⟨by rw [nodeAt?, found, Option.bind_some, inside], taken, ?_⟩
    intro above onward outer whole more passed
    cases above with
    | nil => rwa [← Option.some.inj passed]
    | cons first above =>
      obtain ⟨rfl, onwards⟩ := List.cons.inj whole
      rw [nodeAt?, found, Option.bind_some] at passed
      exact entered above onward outer onwards more passed

theorem placedBy_eq (takes enters : SyntaxNode → Bool) (node : SyntaxNode) :
    node.placedBy takes enters =
      (if takes node then [([], node)] else []) ++ if enters node then placedByFrom takes enters 0 node.children else [] := by
  cases node with
  | node info children => rw [placedBy]; rfl

theorem mem_placedByFrom {index : Nat} {nodes : List SyntaxNode} {path : List Nat} :
    (path, node) ∈ placedByFrom takes enters index nodes ↔ ∃ later child rest, path = (index + later) :: rest ∧
      nodes[later]? = some child ∧ (rest, node) ∈ child.placedBy takes enters := by
  induction nodes generalizing index with
  | nil => simp [placedByFrom]
  | cons first others ih =>
    rw [placedByFrom, List.mem_append, ih, List.mem_map]
    constructor
    · rintro (⟨⟨rest, found⟩, member, same⟩ | ⟨later, child, rest, rfl, place, member⟩)
      · obtain ⟨rfl, rfl⟩ := Prod.mk.inj same
        exact ⟨0, first, rest, rfl, rfl, member⟩
      · exact ⟨later + 1, child, rest, by rw [Nat.add_right_comm, Nat.add_assoc], place, member⟩
    · rintro ⟨later, child, rest, rfl, place, member⟩
      cases later with
      | zero =>
        cases Option.some.inj place
        exact .inl ⟨(rest, node), member, rfl⟩
      | succ later => exact .inr ⟨later, child, rest, by rw [Nat.add_right_comm, Nat.add_assoc], place, member⟩

theorem mem_placedBy {path : List Nat} :
    (path, node) ∈ root.placedBy takes enters ↔ Reached takes enters root path node := by
  induction root using tree_induction generalizing path with
  | step root ih =>
    rw [placedBy_eq, List.mem_append]
    cases path with
    | nil =>
      have later : ([], node) ∉ (if enters root then placedByFrom takes enters 0 root.children else []) := by
        intro member
        split at member
        · obtain ⟨_, _, _, same, -⟩ := mem_placedByFrom.mp member
          cases same
        · cases member
      cases taken : takes root <;> simp [reached_nil, later, taken]
    | cons index path =>
      have first : (index :: path, node) ∉ (if takes root then [(([] : List Nat), root)] else []) := by
        split <;> simp
      cases entered : enters root with
      | false => simp [reached_cons, first, entered]
      | true =>
        simp only [reached_cons, first, entered, false_or, if_true, true_and, mem_placedByFrom, Nat.zero_add]
        constructor
        · rintro ⟨_, child, _, same, place, member⟩
          obtain ⟨rfl, rfl⟩ := List.cons.inj same
          exact ⟨child, place, (ih child (List.mem_of_getElem? place)).mp member⟩
        · rintro ⟨child, place, reached⟩
          exact ⟨index, child, path, rfl, place, (ih child (List.mem_of_getElem? place)).mpr reached⟩

theorem placedByFrom_ordered {nodes : List SyntaxNode} (index : Nat)
    (inner : ∀ child ∈ nodes, (child.placedBy takes enters).Pairwise PathBefore) :
    (placedByFrom takes enters index nodes).Pairwise PathBefore := by
  induction nodes generalizing index with
  | nil => exact .nil
  | cons first rest ih =>
    rw [placedByFrom, List.pairwise_append]
    refine ⟨?_, ih (index + 1) fun child member => inner child (List.mem_cons_of_mem _ member), ?_⟩
    · rw [List.pairwise_map]
      apply (inner first List.mem_cons_self).imp
      intro one other before
      exact .cons before
    · rintro one early ⟨path, node⟩ late
      obtain ⟨place, -, rfl⟩ := List.mem_map.mp early
      obtain ⟨later, child, rest, rfl, -⟩ := mem_placedByFrom.mp late
      exact .rel (by omega)

theorem placedBy_ordered (takes enters : SyntaxNode → Bool) (root : SyntaxNode) :
    (root.placedBy takes enters).Pairwise PathBefore := by
  induction root using tree_induction with
  | step root ih =>
    rw [placedBy_eq, List.pairwise_append]
    refine ⟨?_, ?_, ?_⟩
    · split <;> simp
    · split
      · exact placedByFrom_ordered 0 ih
      · exact .nil
    · rintro one early ⟨path, node⟩ late
      split at early
      · cases List.mem_singleton.mp early
        split at late
        · obtain ⟨later, child, rest, rfl, -⟩ := mem_placedByFrom.mp late
          exact .nil
        · cases late
      · cases early

-- Without the paths it is the walk by the same rules.
theorem placedByFrom_nodes {nodes : List SyntaxNode} {walk : SyntaxNode → List SyntaxNode} (index : Nat)
    (inner : ∀ child ∈ nodes, (child.placedBy takes enters).map Prod.snd = walk child) :
    (placedByFrom takes enters index nodes).map Prod.snd = nodes.flatMap walk := by
  induction nodes generalizing index with
  | nil => rfl
  | cons first rest ih =>
    have onward := ih (index + 1) fun child member => inner child (List.mem_cons_of_mem _ member)
    rw [placedByFrom, List.map_append, List.map_map, onward, List.flatMap_cons, ← inner first List.mem_cons_self]
    rfl

theorem placedBy_nodes {walk : SyntaxNode → List SyntaxNode}
    (step : ∀ node, walk node = (if takes node then [node] else []) ++ if enters node then node.children.flatMap walk else [])
    (root : SyntaxNode) : (root.placedBy takes enters).map Prod.snd = walk root := by
  induction root using tree_induction with
  | step root ih =>
    rw [placedBy_eq, step, List.map_append]
    congr 1
    · split <;> rfl
    · split
      · exact placedByFrom_nodes 0 ih
      · rfl

theorem preorderAll_eq (nodes : List SyntaxNode) : preorderAll nodes = nodes.flatMap preorder := by
  induction nodes with
  | nil => rfl
  | cons first rest ih => rw [preorderAll, ih, List.flatMap_cons]

-- Every node with its path, in pre-order.
def places (root : SyntaxNode) : List (List Nat × SyntaxNode) := root.placedBy (fun _ => true) fun _ => true

theorem mem_places {path : List Nat} : (path, node) ∈ root.places ↔ root.nodeAt? path = some node := by
  rw [places, mem_placedBy]
  exact ⟨fun reached => reached.place, fun place => ⟨place, rfl, fun _ _ _ _ _ _ => rfl⟩⟩

theorem places_nodes (root : SyntaxNode) : root.places.map Prod.snd = root.preorder := by
  refine placedBy_nodes (fun node => ?_) root
  rw [preorder_eq, preorderAll_eq]
  rfl

end StyleTokens.SyntaxNode
