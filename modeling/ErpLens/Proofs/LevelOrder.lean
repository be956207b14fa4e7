import ErpLens.Tree
import Mathlib.Data.List.Basic

/-!
# Level order visits every node once

A walk in level order and a walk in preorder list the same nodes. The preorder is the one to reason
with, since it follows the constructors of a tree.
-/

open List

namespace ErpLens.Tree

universe u

variable {α : Type u}

@[simp]
theorem label_node (label : α) (children : List (Tree α)) : (node label children).label = label :=
  rfl

@[simp]
theorem children_node (label : α) (children : List (Tree α)) :
    (node label children).children = children :=
  rfl

variable (tree : Tree α)

theorem subtrees_eq : tree.subtrees = tree :: forestSubtrees tree.children := by
  cases tree with
  | node label children => simp only [subtrees, children_node]

@[simp]
theorem forestSubtrees_append (left right : List (Tree α)) :
    forestSubtrees (left ++ right) = forestSubtrees left ++ forestSubtrees right := by
  induction left with
  | nil => simp [forestSubtrees]
  | cons tree rest ih => simp [forestSubtrees, ih]

variable (forest : List (Tree α))

theorem forestSubtrees_perm :
    (forestSubtrees forest).Perm (forest ++ forestSubtrees (forest.flatMap children)) := by
  induction forest with
  | nil => simp [forestSubtrees]
  | cons tree rest ih =>
    simp only [forestSubtrees, subtrees_eq, flatMap_cons, forestSubtrees_append, cons_append]
    refine Perm.cons tree ?_
    -- The children of the first root have to pass the remaining roots.
    refine (ih.append_left _).trans ?_
    rw [← append_assoc, ← append_assoc]
    exact perm_append_comm.append_right _

theorem levelSubtrees_perm :
    (levelSubtrees forest).Perm (forestSubtrees forest) := by
  fun_induction levelSubtrees forest with
  | case1 => simp [forestSubtrees]
  | case2 tree rest ih =>
    exact (ih.append_left (tree :: rest)).trans (forestSubtrees_perm (tree :: rest)).symm

/-- Level by level, every subtree of a tree is met exactly once. -/
theorem walkSubtrees_perm : tree.walkSubtrees.Perm tree.subtrees := by
  simpa only [walkSubtrees, forestSubtrees, append_nil] using levelSubtrees_perm [tree]

theorem levelOrder_eq_map :
    levelOrder forest = (levelSubtrees forest).map label := by
  fun_induction levelOrder forest with
  | case1 => simp [levelSubtrees]
  | case2 tree rest ih =>
    rw [levelSubtrees, map_append, ih]

theorem walk_eq_map : tree.walk = tree.walkSubtrees.map label :=
  levelOrder_eq_map [tree]

/-- The labels of a tree in preorder. -/
def labels : List α :=
  tree.subtrees.map label

/-- The labels of a forest in preorder. -/
def forestLabels : List α :=
  (forestSubtrees forest).map label

theorem labels_node (label : α) (children : List (Tree α)) :
    (node label children).labels = label :: forestLabels children := by
  simp [labels, forestLabels, subtrees, label_node]

@[simp]
theorem forestLabels_nil : forestLabels ([] : List (Tree α)) = [] :=
  rfl

@[simp]
theorem forestLabels_cons (rest : List (Tree α)) :
    forestLabels (tree :: rest) = tree.labels ++ forestLabels rest := by
  simp [forestLabels, labels, forestSubtrees]

/-- Level by level, every label of a tree is met as often as it stands in the tree. -/
theorem walk_perm : tree.walk.Perm tree.labels := by
  rw [walk_eq_map]
  exact (walkSubtrees_perm tree).map label

/-! ## Depth by depth -/

/-- The nodes that lie at a depth, from left to right. -/
def atDepth : Tree α → Nat → List (Tree α)
  | tree, 0 => [tree]
  | tree, depth + 1 => tree.children.flatMap fun child => child.atDepth depth

/-- All subtrees of a tree, those at a smaller depth first, those at the same depth from left to
right. No depth reaches the number of nodes. -/
def breadthFirst : List (Tree α) :=
  (List.range tree.size).flatMap tree.atDepth

theorem levelSubtrees_eq_flatMap_atDepth {depths : Nat} (enough : forestSize forest ≤ depths) :
    levelSubtrees forest =
      (List.range depths).flatMap fun depth => forest.flatMap (·.atDepth depth) := by
  fun_induction levelSubtrees forest generalizing depths with
  | case1 => simp
  | case2 tree rest ih =>
    have smaller := forestSize_flatMap_children (tree :: rest)
    rw [length_cons] at smaller
    cases depths with
    | zero => omega
    | succ others =>
      have below := ih (show _ ≤ others by omega)
      have top : (tree :: rest).flatMap (·.atDepth 0) = tree :: rest := by
        simp only [atDepth, flatMap_singleton']
      rw [below, range_succ_eq_map, flatMap_cons (x := 0), top, flatMap_map]
      simp only [flatMap_assoc, atDepth]

theorem walkSubtrees_eq_breadthFirst : tree.walkSubtrees = tree.breadthFirst := by
  have all := levelSubtrees_eq_flatMap_atDepth [tree] (show _ ≤ tree.size by simp [forestSize])
  simpa only [walkSubtrees, breadthFirst, flatMap_singleton] using all

end ErpLens.Tree
