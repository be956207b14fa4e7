import ErpLens.Proofs.EntityListing
import Mathlib

/-!
# Analyses add up over the statements of a source

Two bodies put one after the other are walked level by level, which scatters what is found in them.
Nothing else happens to it: a rule finds in the whole what it finds in the parts.
-/

open List

namespace ErpLens.Source

open Analysis

variable {β γ : Type}

/-! ## Additive analyses -/

/-- An analysis that finds in two bodies, one after the other, what it finds in each of them. -/
def Additive (analysis : Outline → List β) : Prop :=
  ∀ first second : List Stmt,
    (analysis (Module.outline ⟨first ++ second⟩)).Perm
      (analysis (Module.outline ⟨first⟩) ++ analysis (Module.outline ⟨second⟩))

theorem Stmt.outlines_append (first second : List Stmt) :
    Stmt.outlines (first ++ second) = Stmt.outlines first ++ Stmt.outlines second := by
  induction first with
  | nil => simp [Stmt.outlines]
  | cons stmt rest ih => simp [Stmt.outlines, ih]

theorem flatMap_walkSubtrees_perm {rule : Outline → List β}
    (blind : ∀ children, rule (.plain children) = []) (body : List Stmt) :
    ((Module.outline ⟨body⟩).walkSubtrees.flatMap rule).Perm
      ((Tree.forestSubtrees (Stmt.outlines body)).flatMap rule) := by
  have belowRoot : (Module.outline ⟨body⟩).subtrees.flatMap rule =
      (Tree.forestSubtrees (Stmt.outlines body)).flatMap rule := by
    rw [Tree.subtrees_eq, flatMap_cons, Module.outline, blind]
    rfl
  rw [← belowRoot]
  exact (Tree.walkSubtrees_perm _).flatMap_right rule

namespace Additive

theorem flatMap_walkSubtrees (rule : Outline → List β)
    (blind : ∀ children, rule (.plain children) = []) :
    Additive fun outline => outline.walkSubtrees.flatMap rule := by
  intro first second
  refine (flatMap_walkSubtrees_perm blind (first ++ second)).trans ?_
  rw [Stmt.outlines_append, Tree.forestSubtrees_append, flatMap_append]
  exact ((flatMap_walkSubtrees_perm blind first).append
    (flatMap_walkSubtrees_perm blind second)).symm

theorem filterMap_walkSubtrees (rule : Outline → Option β)
    (blind : ∀ children, rule (.plain children) = none) :
    Additive fun outline => outline.walkSubtrees.filterMap rule := by
  simp only [filterMap_eq_flatMap_toList]
  exact flatMap_walkSubtrees _ fun children => by rw [blind, Option.toList_none]

theorem flatMap_walk (rule : Mark → List β) (blind : rule .other = []) :
    Additive fun outline => outline.walk.flatMap rule := by
  simp only [Tree.walk_eq_map, flatMap_map]
  exact flatMap_walkSubtrees _ fun _ => blind

theorem filterMap_walk (rule : Mark → Option β) (blind : rule .other = none) :
    Additive fun outline => outline.walk.filterMap rule := by
  simp only [Tree.walk_eq_map, filterMap_map]
  exact filterMap_walkSubtrees _ fun _ => blind

variable {analysis others : Outline → List β} (additive : Additive analysis)

include additive

theorem flatMap (rule : β → List γ) :
    Additive fun outline => (analysis outline).flatMap rule := by
  intro first second
  rw [← flatMap_append]
  exact (additive first second).flatMap_right rule

theorem filterMap (rule : β → Option γ) :
    Additive fun outline => (analysis outline).filterMap rule := by
  intro first second
  rw [← filterMap_append]
  exact (additive first second).filterMap rule

theorem filter (keep : β → Bool) :
    Additive fun outline => (analysis outline).filter keep := by
  intro first second
  rw [← filter_append]
  exact (additive first second).filter keep

theorem append (alsoAdditive : Additive others) :
    Additive fun outline => analysis outline ++ others outline := by
  intro first second
  refine ((additive first second).append (alsoAdditive first second)).trans ?_
  simp only [append_assoc]
  exact (perm_append_comm_assoc _ _ _).append_left _

end Additive

/-! ## The analyses of a source -/

theorem additive_definitions : Additive definitions :=
  .filterMap_walkSubtrees _ fun _ => rfl

theorem additive_callRecords : Additive callRecords :=
  additive_definitions.flatMap _

theorem additive_bareExcepts : Additive bareExcepts :=
  .filterMap_walk _ rfl

theorem additive_broadExceptions : Additive broadExceptions :=
  .filterMap_walkSubtrees _ fun _ => rfl

theorem additive_largeFunctions (limit : Int) : Additive (largeFunctions limit) :=
  .filterMap_walk _ rfl

theorem additive_largeClasses (limit : Int) : Additive (largeClasses limit) :=
  .filterMap_walk _ rfl

theorem additive_warnings {kind : IssueKind} (nodewise : kind ≠ .erpnextValidation) :
    Additive fun outline => (issuesOf outline).warnings.filter (·.kind = kind) := by
  have unjudged (outline : Outline) : (missingThrow outline).filter (·.kind = kind) = [] := by
    simp only [missingThrow]
    split <;> simp [nodewise.symm]
  simp only [issuesOf, filter_append, unjudged, append_nil]
  exact ((additive_broadExceptions.filter _).append ((additive_largeFunctions _).filter _)).append
    ((additive_largeClasses _).filter _)

/-! ## Entities -/

theorem Module.shown_append_iff (first second : List Stmt) :
    Module.Shown ⟨first ++ second⟩ ↔ Module.Shown ⟨first⟩ ∧ Module.Shown ⟨second⟩ := by
  have statements (body : List Stmt) : Module.Shown ⟨body⟩ ↔
      ∀ tree ∈ Tree.forestSubtrees (Stmt.outlines body), tree.label.Shown := by
    simp only [Module.Shown, Module.outline, Outline.plain, Tree.labels_node, Tree.forestLabels,
      forall_mem_cons, forall_mem_map, Mark.Shown, true_and]
  simp only [statements, Stmt.outlines_append, Tree.forestSubtrees_append, forall_mem_append]

theorem additive_entitiesBy (select : Entity → Option β) : Additive (entitiesBy select) :=
  (Additive.flatMap_walk Mark.entities rfl).filterMap select

/-- Entities that are, up to order, those of two listings together. -/
structure Sums (whole left right : FileEntities) : Prop where
  classes : whole.classes.Perm (left.classes ++ right.classes)
  functions : whole.functions.Perm (left.functions ++ right.functions)
  imports : whole.imports.Perm (left.imports ++ right.imports)

/-- Entities of two bodies are those of each, if all can be shown. -/
theorem entitiesOf_append_of_shown {first second : List Stmt}
    (shown : Module.Shown ⟨first ++ second⟩) :
    Sums (entitiesOf (Module.outline ⟨first ++ second⟩)).1
      (entitiesOf (Module.outline ⟨first⟩)).1 (entitiesOf (Module.outline ⟨second⟩)).1 := by
  rcases (Module.shown_append_iff first second).mp shown with ⟨firstShown, secondShown⟩
  rw [entitiesOf_of_shown shown, entitiesOf_of_shown firstShown, entitiesOf_of_shown secondShown]
  exact
    { classes := additive_entitiesBy Entity.class? first second
      functions := additive_entitiesBy Entity.function? first second
      imports := additive_entitiesBy Entity.import? first second }

/--
The entities of two bodies, one after the other, can be listed exactly if those of each can, and are
then the entities of both. Their call records and their errors are those of both in any case, and so
are their warnings of every kind but the one that asks for a `throw` in the whole source.
-/
theorem analyses_add_up :
    (∀ first second : List Stmt,
      ((entitiesOf (Module.outline ⟨first ++ second⟩)).2 = none ↔
        (entitiesOf (Module.outline ⟨first⟩)).2 = none ∧
          (entitiesOf (Module.outline ⟨second⟩)).2 = none) ∧
      ((entitiesOf (Module.outline ⟨first ++ second⟩)).2 = none →
        Sums (entitiesOf (Module.outline ⟨first ++ second⟩)).1
          (entitiesOf (Module.outline ⟨first⟩)).1 (entitiesOf (Module.outline ⟨second⟩)).1)) ∧
    Additive callRecords ∧
    Additive (fun outline => (issuesOf outline).errors) ∧
    ∀ kind ≠ IssueKind.erpnextValidation,
      Additive fun outline => (issuesOf outline).warnings.filter (·.kind = kind) := by
  refine ⟨fun first second => ⟨?_, fun finished => ?_⟩, additive_callRecords, additive_bareExcepts,
    fun kind nodewise => additive_warnings nodewise⟩
  · simp only [← Module.shown_iff]
    exact Module.shown_append_iff first second
  · exact entitiesOf_append_of_shown ((Module.shown_iff _).mpr finished)

/-- A class before a function, with what is found in the class one level further down. -/
def interleavedSource : String :=
  "class C:\n def m():\n  g()\n  try: a()\n  except Exception: pass\n" ++
    "def f():\n try: b()\n except Exception: pass\n"

theorem analyses_add_up_interleaved :
    ∃ first second : List Stmt, parse interleavedSource = .ok ⟨first ++ second⟩ ∧
      (entitiesOf (Module.outline ⟨first ++ second⟩)).2 = none ∧
      (entitiesOf (Module.outline ⟨first ++ second⟩)).1.functions.Perm
        ((entitiesOf (Module.outline ⟨first⟩)).1.functions ++
          (entitiesOf (Module.outline ⟨second⟩)).1.functions) ∧
      (callRecords (Module.outline ⟨first ++ second⟩)).map CallRecord.caller = ["f", "m", "m"] ∧
      (callRecords (Module.outline ⟨first⟩)).map CallRecord.caller = ["m", "m"] ∧
      (callRecords (Module.outline ⟨first ++ second⟩)).Perm
        (callRecords (Module.outline ⟨first⟩) ++ callRecords (Module.outline ⟨second⟩)) ∧
      ((issuesOf (Module.outline ⟨first ++ second⟩)).warnings.filter
        (·.kind = .broadException)).Perm
        ((issuesOf (Module.outline ⟨first⟩)).warnings.filter (·.kind = .broadException) ++
          (issuesOf (Module.outline ⟨second⟩)).warnings.filter (·.kind = .broadException)) := by
  have evaluated : ((parse interleavedSource).toOption.map fun tree =>
      ((entitiesOf tree.outline).2.isNone, (callRecords tree.outline).map CallRecord.caller,
        (callRecords (Module.outline ⟨tree.body.take 1⟩)).map CallRecord.caller)) =
      some (true, ["f", "m", "m"], ["m", "m"]) := by
    decide +kernel
  rcases exists_ok_of_map_toOption evaluated with ⟨tree, parsed, evaluated⟩
  simp only [Prod.mk.injEq, Option.isNone_iff_eq_none] at evaluated
  rcases evaluated with ⟨finished, callers, firstCallers⟩
  obtain ⟨entities, records, _, warnings⟩ := analyses_add_up
  have split : tree = ⟨tree.body.take 1 ++ tree.body.drop 1⟩ := by rw [List.take_append_drop]
  rw [split] at finished callers
  exact ⟨tree.body.take 1, tree.body.drop 1, parsed.trans (congrArg _ split), finished,
    ((entities _ _).2 finished).functions, callers, firstCallers, records _ _,
    warnings .broadException (by decide) _ _⟩

end ErpLens.Source
