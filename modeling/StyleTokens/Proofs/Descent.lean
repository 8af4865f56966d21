import StyleTokens.SyntaxNode

namespace StyleTokens.SyntaxNode

-- A tree is met from its children upwards. The nested recursion is done here once.
theorem tree_induction {motive : SyntaxNode → Prop}
    (step : ∀ node : SyntaxNode, (∀ child ∈ node.children, motive child) → motive node) :
    ∀ node, motive node
  | .node info children => step _ fun child member => by
    have smaller : sizeOf child < sizeOf children := List.sizeOf_lt_of_mem member
    exact tree_induction step child
termination_by node => sizeOf node
decreasing_by
  rw [SyntaxNode.node.sizeOf_spec]
  omega

theorem preorder_eq (root : SyntaxNode) : root.preorder = root :: preorderAll root.children := by
  cases root with
  | node info children => rw [preorder]; rfl

theorem mem_preorderAll {node : SyntaxNode} {nodes : List SyntaxNode} :
    node ∈ preorderAll nodes ↔ ∃ root ∈ nodes, node ∈ root.preorder := by
  induction nodes with
  | nil => simp [preorderAll]
  | cons first rest ih => simp [preorderAll, ih]

theorem mem_preorder {node root : SyntaxNode} :
    node ∈ root.preorder ↔ node = root ∨ ∃ child ∈ root.children, node ∈ child.preorder := by
  cases root with
  | node info children => rw [preorder, List.mem_cons, mem_preorderAll]; rfl

theorem self_mem_preorder (node : SyntaxNode) : node ∈ node.preorder := mem_preorder.mpr (.inl rfl)

theorem mem_preorder_trans {node middle root : SyntaxNode} (inner : node ∈ middle.preorder)
    (outer : middle ∈ root.preorder) : node ∈ root.preorder := by
  induction root using tree_induction with
  | step root ih =>
    rcases mem_preorder.mp outer with rfl | ⟨child, member, below⟩
    · exact inner
    · exact mem_preorder.mpr (.inr ⟨child, member, ih child member below⟩)

theorem child_mem_preorder {child parent root : SyntaxNode} (member : child ∈ parent.children)
    (inside : parent ∈ root.preorder) : child ∈ root.preorder :=
  mem_preorder_trans (mem_preorder.mpr (.inr ⟨child, member, self_mem_preorder child⟩)) inside

-- Children lie in order and without overlap, each inside its parent.
structure Laid (root : SyntaxNode) : Prop where
  inside : ∀ node ∈ root.preorder, ∀ child ∈ node.children,
    node.start ≤ child.start ∧ child.start ≤ child.stop ∧ child.stop ≤ node.stop
  ordered : ∀ node ∈ root.preorder, node.children.Pairwise fun one other => one.stop ≤ other.start

instance (root : SyntaxNode) : Decidable (Laid root) :=
  decidable_of_iff (_ ∧ _) ⟨fun both => ⟨both.1, both.2⟩, fun laid => ⟨laid.inside, laid.ordered⟩⟩

theorem Laid.below {node root : SyntaxNode} (laid : Laid root) (member : node ∈ root.preorder) : Laid node :=
  ⟨fun inner within => laid.inside inner (mem_preorder_trans within member),
    fun inner within => laid.ordered inner (mem_preorder_trans within member)⟩

theorem Laid.child {child root : SyntaxNode} (laid : Laid root) (member : child ∈ root.children) : Laid child :=
  laid.below (child_mem_preorder member (self_mem_preorder root))

theorem Laid.range {node root : SyntaxNode} (laid : Laid root) (member : node ∈ root.preorder) :
    root.start ≤ node.start ∧ node.stop ≤ root.stop := by
  induction root using tree_induction with
  | step root ih =>
    rcases mem_preorder.mp member with rfl | ⟨child, among, below⟩
    · exact ⟨Nat.le_refl _, Nat.le_refl _⟩
    · have outer := laid.inside root (self_mem_preorder root) child among
      have inner := ih child among (laid.child among) below
      omega

-- No empty node stands at the offset. An empty node there would be entered in the place of what follows it.
def SolidAt (root : SyntaxNode) (offset : Nat) : Prop :=
  ∀ node ∈ root.preorder, node.start = node.stop → node.start ≠ offset

instance (root : SyntaxNode) (offset : Nat) : Decidable (SolidAt root offset) :=
  inferInstanceAs (Decidable (∀ _ ∈ _, _ → _))

theorem SolidAt.below {node root : SyntaxNode} {offset : Nat} (solid : SolidAt root offset)
    (member : node ∈ root.preorder) : SolidAt node offset :=
  fun inner within => solid inner (mem_preorder_trans within member)

theorem SolidAt.child {child root : SyntaxNode} {offset : Nat} (solid : SolidAt root offset)
    (member : child ∈ root.children) : SolidAt child offset :=
  fun node below => solid node (mem_preorder.mpr (.inr ⟨child, member, below⟩))

-- The node has the byte at the offset.
def Covers (node : SyntaxNode) (offset : Nat) : Prop := node.start ≤ offset ∧ offset < node.stop

instance (node : SyntaxNode) (offset : Nat) : Decidable (node.Covers offset) := inferInstanceAs (Decidable (_ ∧ _))

theorem Laid.covers_root {node root : SyntaxNode} {offset : Nat} (laid : Laid root) (within : node ∈ root.preorder)
    (covers : node.Covers offset) : root.Covers offset := by
  have around := laid.range within
  exact ⟨Nat.le_trans around.1 covers.1, Nat.lt_of_lt_of_le covers.2 around.2⟩

theorem Laid.covers_parent {child parent root : SyntaxNode} {offset : Nat} (laid : Laid root)
    (within : parent ∈ root.preorder) (member : child ∈ parent.children) (covers : child.Covers offset) :
    parent.Covers offset :=
  (laid.below within).covers_root (child_mem_preorder member (self_mem_preorder parent)) covers

theorem Covers.not_endsBefore {node : SyntaxNode} {offset : Nat} (covers : node.Covers offset) :
    node.endsBefore offset = false := by
  obtain ⟨below, above⟩ := covers
  unfold endsBefore
  split <;> simp <;> omega

theorem endsBefore_of_le {node : SyntaxNode} {offset : Nat} (left : node.stop ≤ offset)
    (solid : node.start = node.stop → node.start ≠ offset) : node.endsBefore offset = true := by
  unfold endsBefore
  split
  · rename_i empty
    have apart := solid empty
    simp
    omega
  · simpa using left

theorem covers_of_not_endsBefore {node : SyntaxNode} {offset : Nat} (entered : node.endsBefore offset = false)
    (reached : node.start ≤ offset) (solid : node.start = node.stop → node.start ≠ offset) : node.Covers offset := by
  unfold endsBefore at entered
  split at entered
  · rename_i empty
    have apart := solid empty
    simp at entered
    omega
  · simp at entered
    exact ⟨reached, entered⟩

-- Where the cursor stands after a child is entered.
def entered (parent : SyntaxNode) (above : List Step) (last : Cursor) (index : Nat) (child : SyntaxNode) : Cursor :=
  if child.info.named then ⟨child, ⟨parent, index⟩ :: above⟩ else last

-- Among ordered siblings the one that has the byte is entered: those before it end before the offset.
theorem seekAll_enters {offset : Nat} {child : SyntaxNode} (covers : child.Covers offset) (parent : SyntaxNode)
    (above : List Step) (last : Cursor) (index : Nat) {nodes : List SyntaxNode} (member : child ∈ nodes)
    (ordered : nodes.Pairwise fun one other => one.stop ≤ other.start)
    (solid : ∀ node ∈ nodes, node.start = node.stop → node.start ≠ offset) :
    ∃ found, nodes[found]? = some child ∧ seekAll offset parent above last index nodes =
      seek offset (⟨parent, index + found⟩ :: above) (entered parent above last (index + found) child) child := by
  induction nodes generalizing index with
  | nil => cases member
  | cons first rest ih =>
    obtain ⟨before, ordered⟩ := List.pairwise_cons.mp ordered
    rcases List.mem_cons.mp member with rfl | later
    · refine ⟨0, rfl, ?_⟩
      rw [seekAll, covers.not_endsBefore]
      have reached : ¬ offset < child.start := Nat.not_lt.mpr covers.1
      simp [reached, entered]
    · have left : first.stop ≤ offset := Nat.le_trans (before child later) covers.1
      have passed := endsBefore_of_le left (solid first (by simp))
      obtain ⟨found, place, enters⟩ :=
        ih (index + 1) later ordered fun node among => solid node (List.mem_cons_of_mem _ among)
      refine ⟨found + 1, place, ?_⟩
      rw [seekAll, if_pos passed, enters, Nat.add_right_comm, Nat.add_assoc]

theorem seek_eq (offset : Nat) (above : List Step) (last : Cursor) (node : SyntaxNode) :
    seek offset above last node = seekAll offset node above last 0 node.children := by
  cases node with
  | node info children => rw [seek]; rfl

theorem seek_enters {offset : Nat} {child parent : SyntaxNode} (laid : Laid parent) (solid : SolidAt parent offset)
    (member : child ∈ parent.children) (covers : child.Covers offset) (above : List Step) (last : Cursor) :
    ∃ found, parent.children[found]? = some child ∧ seek offset above last parent =
      seek offset (⟨parent, found⟩ :: above) (entered parent above last found child) child := by
  have firm : ∀ node ∈ parent.children, node.start = node.stop → node.start ≠ offset :=
    fun node among => solid node (child_mem_preorder among (self_mem_preorder parent))
  have ordered := laid.ordered parent (self_mem_preorder parent)
  obtain ⟨found, place, enters⟩ := seekAll_enters covers parent above last 0 member ordered firm
  rw [Nat.zero_add] at enters
  exact ⟨found, place, by rw [seek_eq, enters]⟩

-- The descent comes by every node that has the byte at the offset.
theorem seek_reaches {offset : Nat} {target root : SyntaxNode} (laid : Laid root) (solid : SolidAt root offset)
    (member : target ∈ root.preorder) (covers : target.Covers offset) (above : List Step) (last : Cursor) :
    ∃ above' last', seek offset above last root = seek offset above' last' target := by
  induction root using tree_induction generalizing above last with
  | step root ih =>
    rcases mem_preorder.mp member with rfl | ⟨child, among, below⟩
    · exact ⟨above, last, rfl⟩
    · have childCovers := (laid.child among).covers_root below covers
      obtain ⟨found, -, step⟩ := seek_enters laid solid among childCovers above last
      obtain ⟨above', last', onward⟩ := ih child among (laid.child among) (solid.child among) below
        (⟨root, found⟩ :: above) (entered root above last found child)
      exact ⟨above', last', step.trans onward⟩

-- A node whose byte belongs inside it to anonymous leaves alone is the end of the descent.
theorem seek_stays {offset : Nat} {node : SyntaxNode} (solid : SolidAt node offset)
    (bare : ∀ child ∈ node.children, child.Covers offset → child.info.named = false ∧ child.children = [])
    (above : List Step) (last : Cursor) : seek offset above last node = last := by
  rw [seek_eq]
  have firm : ∀ child ∈ node.children, child.start = child.stop → child.start ≠ offset :=
    fun child member => solid child (child_mem_preorder member (self_mem_preorder node))
  generalize node.children = nodes at bare firm
  generalize 0 = index
  induction nodes generalizing index with
  | nil => rw [seekAll]
  | cons first rest ih =>
    rw [seekAll]
    split
    · exact ih (fun child among => bare child (List.mem_cons_of_mem _ among))
        (fun child among => firm child (List.mem_cons_of_mem _ among)) (index + 1)
    · rename_i open_
      split
      · rfl
      · rename_i reached
        have covers : first.Covers offset :=
          covers_of_not_endsBefore (by simpa using open_) (Nat.not_lt.mp reached) (firm first (by simp))
        obtain ⟨anonymous, leaf⟩ := bare first (by simp) covers
        simp [anonymous, seek_eq, leaf, seekAll]

end StyleTokens.SyntaxNode
