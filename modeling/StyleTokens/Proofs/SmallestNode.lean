import StyleTokens.Proofs.Descent

namespace StyleTokens.SyntaxNode

variable {root node parent child target : SyntaxNode} {offset : Nat} {above : List Step}

-- Every node below the root has text.
def Filled (root : SyntaxNode) : Prop := ∀ node ∈ root.preorder, ∀ child ∈ node.children, child.start < child.stop

instance (root : SyntaxNode) : Decidable (Filled root) := inferInstanceAs (Decidable (∀ _ ∈ _, _))

-- Nothing in the node has both the byte and a name.
def Bare (node : SyntaxNode) (offset : Nat) : Prop :=
  ∀ inner ∈ node.preorder, inner.Covers offset → inner.info.named = false

-- The byte and a name, and nothing further inside that has them. This says nothing of how the node is found.
structure Smallest (node : SyntaxNode) (offset : Nat) : Prop where
  named : node.info.named = true
  covers : node.Covers offset
  inside : ∀ child ∈ node.children, child.Bare offset

-- The steps go from the root down to the node, the last step first.
inductive Way (root : SyntaxNode) : List Step → SyntaxNode → Prop
  | here : Way root [] root
  | down {above : List Step} {parent child : SyntaxNode} {index : Nat} (way : Way root above parent)
      (place : parent.children[index]? = some child) : Way root (⟨parent, index⟩ :: above) child

theorem Way.mem_preorder (way : Way root above node) : node ∈ root.preorder := by
  induction way with
  | here => exact self_mem_preorder root
  | down _ place ih => exact child_mem_preorder (List.mem_of_getElem? place) ih

theorem Bare.below (bare : node.Bare offset) (member : child ∈ node.children) : child.Bare offset :=
  fun inner within => bare inner (SyntaxNode.mem_preorder.mpr (.inr ⟨child, member, within⟩))

theorem Bare.of_leaf (leaf : node.children = []) (bare : node.Covers offset → node.info.named = false) :
    node.Bare offset := by
  intro inner within covers
  rcases mem_preorder.mp within with rfl | ⟨child, among, -⟩
  · exact bare covers
  · rw [leaf] at among
    cases among

theorem bare_of_not_covers (laid : Laid node) (apart : ¬ node.Covers offset) : node.Bare offset := by
  intro inner within covers
  exact absurd (laid.covers_root within covers) apart

-- Of ordered siblings only one has the byte.
theorem index_unique {nodes : List SyntaxNode} {other : SyntaxNode} {i j : Nat}
    (ordered : nodes.Pairwise fun one other => one.stop ≤ other.start) (first : nodes[i]? = some child)
    (second : nodes[j]? = some other) (covers : child.Covers offset) (covers' : other.Covers offset) : i = j := by
  obtain ⟨inFirst, rfl⟩ := List.getElem?_eq_some_iff.mp first
  obtain ⟨inSecond, rfl⟩ := List.getElem?_eq_some_iff.mp second
  have apart := List.pairwise_iff_getElem.mp ordered
  have earlier := apart i j inFirst inSecond
  have later := apart j i inSecond inFirst
  obtain ⟨fromStart, toStop⟩ := covers
  obtain ⟨fromStart', toStop'⟩ := covers'
  omega

theorem unique_of_covers {nodes : List SyntaxNode} {other : SyntaxNode}
    (ordered : nodes.Pairwise fun one other => one.stop ≤ other.start) (member : child ∈ nodes) (among : other ∈ nodes)
    (covers : child.Covers offset) (covers' : other.Covers offset) : other = child := by
  obtain ⟨i, first⟩ := List.mem_iff_getElem?.mp member
  obtain ⟨j, second⟩ := List.mem_iff_getElem?.mp among
  rw [index_unique ordered first second covers covers', second] at first
  exact Option.some.inj first

-- The descent ends where it is once no name with the byte is left below.
theorem seek_bare (laid : Laid node) (solid : SolidAt node offset) (bare : ∀ child ∈ node.children, child.Bare offset)
    (above : List Step) (last : Cursor) : seek offset above last node = last := by
  induction node using tree_induction generalizing above last with
  | step node ih =>
    by_cases covered : ∃ child ∈ node.children, child.Covers offset
    · obtain ⟨child, member, covers⟩ := covered
      obtain ⟨index, -, enters⟩ := seek_enters laid solid member covers above last
      have anonymous := bare child member child (self_mem_preorder child) covers
      rw [enters, entered, anonymous]
      exact ih child member (laid.child member) (solid.child member) (fun inner among => (bare child member).below among) _ _
    · refine seek_stays solid ?_ above last
      intro child member covers
      exact absurd ⟨child, member, covers⟩ covered

-- From the parent the descent goes on to a smallest node among the children.
theorem seek_child (laid : Laid parent) (solid : SolidAt parent offset) (member : target ∈ parent.children)
    (smallest : target.Smallest offset) (above : List Step) (last : Cursor) :
    ∃ index, parent.children[index]? = some target ∧
      seek offset above last parent = ⟨target, ⟨parent, index⟩ :: above⟩ := by
  obtain ⟨index, place, enters⟩ := seek_enters laid solid member smallest.covers above last
  refine ⟨index, place, ?_⟩
  rw [enters, seek_bare (laid.child member) (solid.child member) smallest.inside, entered, if_pos smallest.named]

-- A descent either meets no name with the byte, or ends at a smallest node and has kept the way to it. The induction
-- is on the node where the descent starts.
theorem seek_cases (laid : Laid node) (solid : SolidAt node offset) (way : Way root above node) (last : Cursor) :
    (seek offset above last node = last ∧ ∀ child ∈ node.children, child.Bare offset) ∨
      ∃ target step above', seek offset above last node = ⟨target, step :: above'⟩ ∧
        Way root (step :: above') target ∧ target.Smallest offset := by
  induction node using tree_induction generalizing above last with
  | step node ih =>
    by_cases covered : ∃ child ∈ node.children, child.Covers offset
    · obtain ⟨child, member, covers⟩ := covered
      obtain ⟨index, place, enters⟩ := seek_enters laid solid member covers above last
      have onward := ih child member (laid.child member) (solid.child member) (way.down place)
        (entered node above last index child)
      rw [← enters] at onward
      rcases onward with ⟨stays, bare⟩ | found
      · cases named : child.info.named with
        | true =>
          rw [entered, if_pos named] at stays
          exact .inr ⟨child, _, _, stays, way.down place, named, covers, bare⟩
        | false =>
          rw [entered, named] at stays
          refine .inl ⟨stays, ?_⟩
          intro other among
          by_cases also : other.Covers offset
          · obtain rfl := unique_of_covers (laid.ordered node (self_mem_preorder node)) member among covers also
            intro inner within covers'
            rcases SyntaxNode.mem_preorder.mp within with rfl | ⟨below, isChild, deeper⟩
            · exact named
            · exact bare below isChild inner deeper covers'
          · exact bare_of_not_covers (laid.child among) also
      · exact .inr found
    · left
      have apart : ∀ child ∈ node.children, child.Bare offset := fun child member =>
        bare_of_not_covers (laid.child member) fun covers => covered ⟨child, member, covers⟩
      exact ⟨seek_bare laid solid apart above last, apart⟩

theorem mem_preorder_cases (member : node ∈ root.preorder) :
    node = root ∨ ∃ parent ∈ root.preorder, node ∈ parent.children := by
  induction root using tree_induction with
  | step root ih =>
    rcases mem_preorder.mp member with rfl | ⟨child, among, within⟩
    · exact .inl rfl
    · right
      rcases ih child among within with rfl | ⟨parent, below, isChild⟩
      · exact ⟨root, self_mem_preorder root, among⟩
      · exact ⟨parent, mem_preorder.mpr (.inr ⟨child, among, below⟩), isChild⟩

-- An empty root, as an empty document has it, has room for no child.
theorem Filled.solidAt (filled : Filled root) (laid : Laid root) (offset : Nat) :
    SolidAt root offset ∨ root.children = [] := by
  by_cases empty : root.start = root.stop
  · right
    rw [List.eq_nil_iff_forall_not_mem]
    intro child member
    have around := laid.inside root (self_mem_preorder root) child member
    have wide := filled root (self_mem_preorder root) child member
    omega
  · left
    intro node member
    rcases mem_preorder_cases member with rfl | ⟨parent, within, isChild⟩
    · intro same
      exact absurd same empty
    · have wide := filled parent within node isChild
      intro same
      omega

theorem namedAt_cases (laid : Laid root) (solid : SolidAt root offset) :
    root.namedAt offset = ⟨root, []⟩ ∨
      ∃ target step above, root.namedAt offset = ⟨target, step :: above⟩ ∧ Way root (step :: above) target ∧
        target.Smallest offset := by
  rcases seek_cases laid solid .here ⟨root, []⟩ with ⟨stays, -⟩ | found
  · exact .inl stays
  · exact .inr found

end StyleTokens.SyntaxNode
