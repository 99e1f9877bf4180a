import ValeraControlTower.Library.Json

/-!
# What stands at a level of a tree

The root stands at level one, and what a container holds stands one level below it.
-/

namespace Json.Tree

variable {Str Num : Type}

/-- The values directly inside. -/
def children : Tree Str Num → List (Tree Str Num)
  | null | bool _ | num _ | str _ => []
  | arr items => items
  | obj members => members.map Prod.snd

/-- An object or an array. -/
def IsContainer : Tree Str Num → Prop
  | null | bool _ | num _ | str _ => False
  | arr _ | obj _ => True

/-- The second tree stands in the first at the level. -/
inductive StandsAt : ℕ → Tree Str Num → Tree Str Num → Prop
  | root (tree : Tree Str Num) : StandsAt 1 tree tree
  | child {level : ℕ} {tree child part : Tree Str Num} (isChild : child ∈ tree.children)
      (below : StandsAt level child part) : StandsAt (level + 1) tree part

theorem not_standsAt_zero {tree part : Tree Str Num} : ¬StandsAt 0 tree part := nofun

/-- Below the first level stands what stands in a child. -/
theorem standsAt_succ {level : ℕ} {tree part : Tree Str Num} :
    StandsAt (level + 2) tree part ↔ ∃ child ∈ tree.children, StandsAt (level + 1) child part := by
  constructor
  · intro stands
    cases stands with
    | child isChild below => exact ⟨_, isChild, below⟩
  · rintro ⟨child, isChild, below⟩
    exact .child isChild below

section Depth

theorem lt_depthItems {level : ℕ} {items : List (Tree Str Num)} :
    level < depthItems items ↔ ∃ item ∈ items, level < item.depth := by
  induction items with
  | nil => simp [depthItems]
  | cons item items inductionHypothesis => simp [depthItems, inductionHypothesis]

theorem lt_depthMembers {level : ℕ} {members : List (Str × Tree Str Num)} :
    level < depthMembers members ↔ ∃ value ∈ members.map Prod.snd, level < value.depth := by
  induction members with
  | nil => simp [depthMembers]
  | cons member members inductionHypothesis =>
      obtain ⟨key, value⟩ := member
      rw [depthMembers, lt_max_iff, inductionHypothesis, List.map_cons, List.exists_mem_cons_iff]

theorem lt_depth_succ {level : ℕ} {tree : Tree Str Num} :
    level + 1 < tree.depth ↔ ∃ child ∈ tree.children, level < child.depth := by
  cases tree with
  | null | bool _ | num _ | str _ => simp [depth, children]
  | arr items => rw [depth, Nat.add_comm 1, Nat.add_lt_add_iff_right, lt_depthItems, children]
  | obj members => rw [depth, Nat.add_comm 1, Nat.add_lt_add_iff_right, lt_depthMembers, children]

/-- A tree is deeper than a level where something stands below it. -/
theorem lt_depth_iff {level : ℕ} {tree : Tree Str Num} :
    level < tree.depth ↔ ∃ part, StandsAt (level + 1) tree part := by
  induction level generalizing tree with
  | zero =>
      have positive : 0 < tree.depth := by
        cases tree with
        | null | bool _ | num _ | str _ => exact Nat.one_pos
        | arr _ | obj _ => exact Nat.add_pos_left Nat.one_pos _
      exact iff_of_true positive ⟨tree, .root tree⟩
  | succ level inductionHypothesis =>
      rw [lt_depth_succ]
      simp only [inductionHypothesis, standsAt_succ]
      constructor
      · rintro ⟨child, isChild, part, below⟩
        exact ⟨part, child, isChild, below⟩
      · rintro ⟨part, child, isChild, below⟩
        exact ⟨child, isChild, part, below⟩

end Depth

section Nesting

theorem lt_nestingItems {level : ℕ} {items : List (Tree Str Num)} :
    level < nestingItems items ↔ ∃ item ∈ items, level < item.nesting := by
  induction items with
  | nil => simp [nestingItems]
  | cons item items inductionHypothesis => simp [nestingItems, inductionHypothesis]

theorem lt_nestingMembers {level : ℕ} {members : List (Str × Tree Str Num)} :
    level < nestingMembers members ↔ ∃ value ∈ members.map Prod.snd, level < value.nesting := by
  induction members with
  | nil => simp [nestingMembers]
  | cons member members inductionHypothesis =>
      obtain ⟨key, value⟩ := member
      rw [nestingMembers, lt_max_iff, inductionHypothesis, List.map_cons, List.exists_mem_cons_iff]

theorem lt_nesting_succ {level : ℕ} {tree : Tree Str Num} :
    level + 1 < tree.nesting ↔ ∃ child ∈ tree.children, level < child.nesting := by
  cases tree with
  | null | bool _ | num _ | str _ => simp [nesting, children]
  | arr items => rw [nesting, Nat.add_comm 1, Nat.add_lt_add_iff_right, lt_nestingItems, children]
  | obj members =>
      rw [nesting, Nat.add_comm 1, Nat.add_lt_add_iff_right, lt_nestingMembers, children]

theorem nesting_pos_iff {tree : Tree Str Num} : 0 < tree.nesting ↔ tree.IsContainer := by
  cases tree with
  | null | bool _ | num _ | str _ => simp [nesting, IsContainer]
  | arr _ | obj _ => exact iff_of_true (Nat.add_pos_left Nat.one_pos _) trivial

/-- Containers are nested more deeply than a level where one stands right below it. -/
theorem lt_nesting_iff {level : ℕ} {tree : Tree Str Num} :
    level < tree.nesting ↔ ∃ part, part.IsContainer ∧ StandsAt (level + 1) tree part := by
  induction level generalizing tree with
  | zero =>
      rw [nesting_pos_iff]
      constructor
      · exact fun isContainer => ⟨tree, isContainer, .root tree⟩
      · rintro ⟨part, isContainer, stands⟩
        cases stands with
        | root => exact isContainer
        | child _ below => exact absurd below not_standsAt_zero
  | succ level inductionHypothesis =>
      rw [lt_nesting_succ]
      simp only [inductionHypothesis, standsAt_succ]
      constructor
      · rintro ⟨child, isChild, part, isContainer, below⟩
        exact ⟨part, isContainer, child, isChild, below⟩
      · rintro ⟨part, isContainer, child, isChild, below⟩
        exact ⟨child, isChild, part, isContainer, below⟩

/-- Some container stands beyond a level, at whatever depth. -/
theorem exists_container_beyond {level : ℕ} {tree : Tree Str Num} :
    (∃ other part, level < other ∧ part.IsContainer ∧ StandsAt other tree part) ↔
      level < tree.nesting := by
  constructor
  · rintro ⟨other, part, beyond, isContainer, stands⟩
    obtain ⟨above, rfl⟩ := Nat.exists_eq_succ_of_ne_zero (Nat.ne_zero_of_lt beyond)
    have nested := lt_nesting_iff.mpr ⟨part, isContainer, stands⟩
    omega
  · intro nested
    obtain ⟨part, isContainer, stands⟩ := lt_nesting_iff.mp nested
    exact ⟨level + 1, part, Nat.lt_succ_self level, isContainer, stands⟩

/-- What has values below it is a container, so only the last level may hold none. -/
theorem lt_nesting_of_lt_depth {level : ℕ} {tree : Tree Str Num} (deeper : level + 1 < tree.depth) :
    level < tree.nesting := by
  induction level generalizing tree with
  | zero =>
      obtain ⟨child, isChild, _⟩ := lt_depth_succ.mp deeper
      apply nesting_pos_iff.mpr
      cases tree with
      | null | bool _ | num _ | str _ => cases isChild
      | arr _ | obj _ => trivial
  | succ level inductionHypothesis =>
      obtain ⟨child, isChild, deeperChild⟩ := lt_depth_succ.mp deeper
      exact lt_nesting_succ.mpr ⟨child, isChild, inductionHypothesis deeperChild⟩

theorem depth_le_nesting_succ (tree : Tree Str Num) : tree.depth ≤ tree.nesting + 1 := by
  apply Nat.le_of_not_lt
  exact fun deeper => Nat.lt_irrefl _ (lt_nesting_of_lt_depth deeper)

end Nesting

end Json.Tree
