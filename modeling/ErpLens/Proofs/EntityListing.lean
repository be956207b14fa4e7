import ErpLens.Proofs.Outcomes
import ErpLens.Proofs.Sessions

/-!
# What the listing of entities holds

The listing of a source stops at the first class or plain function of which a base or a decorator
has no standard form.
-/

namespace ErpLens.Source

open Analysis

/-! ## Sources that can be shown -/

/-- The bases of a class, and the decorators of a plain function, have standard forms. -/
def Mark.Shown : Mark → Prop
  | .classDef head _ _ => ∀ base ∈ head.bases, ∃ text, base.text = .ok text
  | .function head _ =>
    head.isAsync = false → ∀ decorator ∈ head.decorators, ∃ text, decorator.text = .ok text
  | _ => True

/-- All of a source can be shown. -/
def Module.Shown (tree : Module) : Prop :=
  ∀ mark ∈ tree.outline.labels, mark.Shown

theorem Mark.shown_iff (mark : Mark) : mark.Shown ↔ ∃ found, markEntities mark = .ok found := by
  cases mark with
  | classDef head methods document =>
    rw [Mark.Shown, ← exists_mapM_eq_ok_iff, markEntities]
    cases head.bases.mapM Expr.text <;> simp [bind, Except.bind, pure, Except.pure]
  | function head document =>
    rw [Mark.Shown, ← exists_mapM_eq_ok_iff, markEntities]
    cases head.isAsync with
    | true => simp [pure, Except.pure]
    | false =>
      cases head.decorators.mapM Expr.text <;> simp [bind, Except.bind, pure, Except.pure]
  | _ => simp [Mark.Shown, markEntities, pure, Except.pure]

theorem collect_eq_none_iff (marks : List Mark) :
    (collect marks).2 = none ↔ ∀ mark ∈ marks, mark.Shown := by
  induction marks with
  | nil => simp [collect]
  | cons mark rest ih =>
    rw [List.forall_mem_cons, ← ih, mark.shown_iff, collect]
    cases markEntities mark <;> simp

theorem Module.shown_iff_walk (tree : Module) :
    tree.Shown ↔ ∀ mark ∈ tree.outline.walk, mark.Shown := by
  simp only [Module.Shown, (Tree.walk_perm tree.outline).mem_iff]

theorem Module.shown_iff (tree : Module) : tree.Shown ↔ (entitiesOf tree.outline).2 = none := by
  rw [tree.shown_iff_walk, ← collect_eq_none_iff]
  rfl

theorem fault_extractSource_eq_none_iff (path : String) {code : String} {tree : Module}
    (parsed : parse code = .ok tree) : (extractSource path code).fault = none ↔ tree.Shown := by
  rw [tree.shown_iff]
  simp [extractSource, outlineOf_of_parse parsed]

/-! ## Node by node -/

theorem markEntities_function_cases {head : FunctionHead} {document : Option String}
    {found : List Entity} (listed : markEntities (.function head document) = .ok found) :
    head.isAsync = true ∧ found = [] ∨
      ∃ decorators, head.isAsync = false ∧ head.decorators.mapM Expr.text = .ok decorators ∧
        found = [.function ⟨head.name, head.line, head.params.positional.map Param.arg, decorators,
          document.getD ""⟩] := by
  rw [markEntities] at listed
  cases async : head.isAsync with
  | true =>
    simp only [async, if_true] at listed
    cases listed
    exact .inl ⟨rfl, rfl⟩
  | false =>
    simp only [async, Bool.false_eq_true, if_false] at listed
    rcases bind_eq_ok.mp listed with ⟨decorators, texts, foundEq⟩
    cases foundEq
    exact .inr ⟨decorators, rfl, texts, rfl⟩

/-- The entities of a node, none if it cannot be shown. -/
def Mark.entities (mark : Mark) : List Entity :=
  (markEntities mark).toOption.getD []

theorem Mark.entities_of_ok {mark : Mark} {found : List Entity}
    (listed : markEntities mark = .ok found) : mark.entities = found := by
  rw [Mark.entities, listed]
  rfl

theorem collect_of_none {marks : List Mark} (finished : (collect marks).2 = none) :
    (collect marks).1 = marks.flatMap Mark.entities := by
  induction marks with
  | nil => rfl
  | cons mark rest ih =>
    rw [collect] at finished ⊢
    cases listed : markEntities mark with
    | error fault => simp [listed] at finished
    | ok found =>
      simp only [listed] at finished
      rw [List.flatMap_cons, Mark.entities_of_ok listed, ← ih finished]

/-- The entities of one kind in an outline. -/
def entitiesBy {β : Type} (select : Entity → Option β) (outline : Outline) : List β :=
  (outline.walk.flatMap Mark.entities).filterMap select

theorem entitiesOf_of_shown {tree : Module} (shown : tree.Shown) :
    entitiesOf tree.outline =
      ({ classes := entitiesBy Entity.class? tree.outline
         functions := entitiesBy Entity.function? tree.outline
         imports := entitiesBy Entity.import? tree.outline }, none) := by
  have finished : (collect tree.outline.walk).2 = none := tree.shown_iff.mp shown
  rw [entitiesOf]
  simp only [entitiesBy, finished, collect_of_none finished]

end ErpLens.Source
