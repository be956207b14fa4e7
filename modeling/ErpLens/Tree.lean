/-!
# Labelled trees

Trees with any number of children, and their labels in level order. The same order comes out of a
queue that each node leaves at the front while its children join at the end.
-/

namespace ErpLens

inductive Tree (α : Type u) where
  | node (label : α) (children : List (Tree α))

namespace Tree

variable {α : Type u}

def label : Tree α → α
  | node label _ => label

def children : Tree α → List (Tree α)
  | node _ children => children

mutual

def size : Tree α → Nat
  | node _ children => forestSize children + 1

def forestSize : List (Tree α) → Nat
  | [] => 0
  | tree :: rest => tree.size + forestSize rest

end

@[simp]
theorem forestSize_append (left right : List (Tree α)) :
    forestSize (left ++ right) = forestSize left + forestSize right := by
  induction left with
  | nil => simp [forestSize]
  | cons tree rest ih => simp only [List.cons_append, forestSize, ih]; omega

theorem size_eq (tree : Tree α) : tree.size = forestSize tree.children + 1 := by
  cases tree with
  | node label children => simp [size, Tree.children]

/-- Going down one level loses exactly the roots. -/
theorem forestSize_flatMap_children (forest : List (Tree α)) :
    forestSize (forest.flatMap children) + forest.length = forestSize forest := by
  induction forest with
  | nil => simp [forestSize]
  | cons tree rest ih =>
    simp only [List.flatMap_cons, forestSize_append, List.length_cons, forestSize, size_eq]
    omega

def levelOrder (forest : List (Tree α)) : List α :=
  match forest with
  | [] => []
  | tree :: rest =>
    (tree :: rest).map label ++ levelOrder ((tree :: rest).flatMap children)
termination_by forestSize forest
decreasing_by
  have := forestSize_flatMap_children (tree :: rest)
  simp only [List.length_cons] at this
  omega

def walk (tree : Tree α) : List α :=
  levelOrder [tree]

mutual

def subtrees : Tree α → List (Tree α)
  | node label children => node label children :: forestSubtrees children

def forestSubtrees : List (Tree α) → List (Tree α)
  | [] => []
  | tree :: rest => subtrees tree ++ forestSubtrees rest

end

def levelSubtrees (forest : List (Tree α)) : List (Tree α) :=
  match forest with
  | [] => []
  | tree :: rest => (tree :: rest) ++ levelSubtrees ((tree :: rest).flatMap children)
termination_by forestSize forest
decreasing_by
  have := forestSize_flatMap_children (tree :: rest)
  simp only [List.length_cons] at this
  omega

/-- The labels below the trees of a queue: those of the children of the first, which join the queue
at its end, and so on. -/
def queueBelow (queue : List (Tree α)) : List α :=
  match queue with
  | [] => []
  | tree :: rest => tree.children.map label ++ queueBelow (rest ++ tree.children)
termination_by forestSize queue
decreasing_by
  simp only [forestSize_append, forestSize, size_eq]
  omega

def descendants (tree : Tree α) : List α :=
  queueBelow [tree]

def walkSubtrees (tree : Tree α) : List (Tree α) :=
  levelSubtrees [tree]

end Tree

end ErpLens
