import ErpLens.Proofs.EntityListing
import ErpLens.Proofs.ExpectedCalls

/-!
# The entities of a syntax tree

The listing of a source goes over an outline. Here it is traced back to the statements: every class,
every plain function and every imported name is listed once.
-/

open List

namespace ErpLens.Source

open Analysis Outline

/-! ## What is to be listed -/

/-- A definition of a class. -/
structure ClassDefinition where
  head : ClassHead
  body : List Stmt

namespace Part

/-- The class that a part defines. -/
def class? : Part → Option ClassDefinition
  | .stmt (.classDef head body) => some ⟨head, body⟩
  | _ => none

/-- The plain function that a part defines. -/
def function? : Part → Option Definition
  | .stmt (.functionDef head body) => if head.isAsync then none else some ⟨head, body⟩
  | _ => none

/-- The names that a part imports. -/
def imports : Part → List ImportEntity
  | .stmt (.importModules names line) =>
    names.map fun imported => .whole imported.name imported.asName line
  | .stmt (.importNames module names line) =>
    names.map fun imported => .part (module.getD "") imported.name imported.asName line
  | _ => []

def methods (part : Part) : List String :=
  part.class?.toList.flatMap (methodNames ·.body)

def plainName? (part : Part) : Option String :=
  part.function?.map Definition.name

end Part

end ErpLens.Source

namespace ErpLens.Analysis

open Source Outline

/-- An entity says what the definition of a class says. -/
structure ClassEntity.Shows (found : ClassDefinition) (entity : ClassEntity) : Prop where
  name : entity.name = found.head.name
  line : entity.line = found.head.line
  methods : entity.methods = methodNames found.body
  bases : ∃ texts, found.head.bases.mapM Expr.text = .ok texts ∧
    entity.bases = if texts.isEmpty then ["object"] else texts
  document : entity.document = (document? found.body).getD ""

/-- An entity says what the definition of a function says. -/
structure FunctionEntity.Shows (found : Definition) (entity : FunctionEntity) : Prop where
  name : entity.name = found.name
  line : entity.line = found.head.line
  args : entity.args = found.head.params.positional.map Param.arg
  decorators : found.head.decorators.mapM Expr.text = .ok entity.decorators
  document : entity.document = (document? found.body).getD ""

/-! ## Part by part -/

/-- Entities are those of a part. -/
structure Lists (part : Part) (found : List Entity) : Prop where
  classes : List.Forall₂ ClassEntity.Shows part.class?.toList (found.filterMap Entity.class?)
  functions : List.Forall₂ FunctionEntity.Shows part.function?.toList
    (found.filterMap Entity.function?)
  imports : found.filterMap Entity.import? = part.imports

theorem lists_imports {part : Part} (noClass : part.class? = none)
    (noFunction : part.function? = none) : Lists part (part.imports.map .import_) where
  classes := by simp [noClass, Entity.class?, Function.comp_def]
  functions := by simp [noFunction, Entity.function?, Function.comp_def]
  imports := by simp [Entity.import?, Function.comp_def]

theorem lists_of_markEntities {part : Part} {found : List Entity}
    (listed : markEntities part.outline.label = .ok found) : Lists part found := by
  cases part with
  | handler handler =>
    rcases handler with ⟨type, name, body, line⟩
    cases listed
    exact lists_imports rfl rfl
  | stmt stmt =>
    cases stmt with
    | functionDef head body =>
      rcases markEntities_function_cases listed with
        ⟨async, rfl⟩ | ⟨decorators, plain, texts, rfl⟩
      · exact lists_imports rfl (by rw [Part.function?, async, if_pos rfl])
      · refine ⟨.nil, ?_, rfl⟩
        simp only [Part.function?, plain]
        exact .cons ⟨rfl, rfl, rfl, texts, rfl⟩ .nil
    | classDef head body =>
      rcases bind_eq_ok.mp listed with ⟨bases, texts, foundEq⟩
      cases foundEq
      exact ⟨.cons ⟨rfl, rfl, rfl, ⟨bases, texts, rfl⟩, rfl⟩ .nil, .nil, rfl⟩
    | importModules names line =>
      cases listed
      simpa [Part.imports, Function.comp_def] using
        @lists_imports (.stmt (.importModules names line)) rfl rfl
    | importNames module names line =>
      cases listed
      simpa [Part.imports, Function.comp_def] using
        @lists_imports (.stmt (.importNames module names line)) rfl rfl
    | _ =>
      cases listed
      exact lists_imports rfl rfl

theorem lists_flatMap {parts : List Part} (shown : ∀ part ∈ parts, part.outline.label.Shown) :
    List.Forall₂ ClassEntity.Shows (parts.filterMap Part.class?)
        ((parts.flatMap (·.outline.label.entities)).filterMap Entity.class?) ∧
      List.Forall₂ FunctionEntity.Shows (parts.filterMap Part.function?)
        ((parts.flatMap (·.outline.label.entities)).filterMap Entity.function?) ∧
      (parts.flatMap (·.outline.label.entities)).filterMap Entity.import? =
        parts.flatMap Part.imports := by
  induction parts with
  | nil => exact ⟨.nil, .nil, rfl⟩
  | cons part rest ih =>
    rw [forall_mem_cons] at shown
    rcases (Mark.shown_iff _).mp shown.1 with ⟨found, listed⟩
    have first := lists_of_markEntities listed
    rcases ih shown.2 with ⟨classes, functions, imports⟩
    rw [flatMap_cons, flatMap_cons, Mark.entities_of_ok listed, filterMap_append,
      filterMap_append, filterMap_append, imports, first.imports]
    refine ⟨?_, ?_, rfl⟩
    · rw [filterMap_eq_flatMap_toList, flatMap_cons, ← filterMap_eq_flatMap_toList]
      exact rel_append first.classes classes
    · rw [filterMap_eq_flatMap_toList, flatMap_cons, ← filterMap_eq_flatMap_toList]
      exact rel_append first.functions functions

/-! ## The whole source -/

theorem entities_of_not_isPart {mark : Mark} (bare : mark.isPart = false) : mark.entities = [] := by
  cases mark with
  | call callee line => rfl
  | other => rfl
  | _ => cases bare

theorem flatMap_entities_walk {outline : Outline} {parts : List Part}
    (ordered : outline.breadthFirst.filter (·.label.isPart) = parts.map Part.outline) :
    outline.walk.flatMap Mark.entities = parts.flatMap (·.outline.label.entities) := by
  have onlyParts (trees : List Outline) : trees.flatMap (·.label.entities) =
      (trees.filter (·.label.isPart)).flatMap (·.label.entities) := by
    induction trees with
    | nil => rfl
    | cons tree rest ih =>
      cases isPart : tree.label.isPart with
      | true => simp [isPart, ih]
      | false => simp [isPart, ih, entities_of_not_isPart]
  rw [Tree.walk_eq_map, Tree.walkSubtrees_eq_breadthFirst, flatMap_map, onlyParts, ordered,
    flatMap_map]

/-- The issue about a class with many methods. -/
def ClassEntity.tooLarge (entity : ClassEntity) : Issue :=
  ⟨.largeClass, s!"Class '{entity.name}' has too many methods ({entity.methods.length})",
    some entity.line⟩

theorem largeClasses_eq {outline : Outline} (shown : ∀ mark ∈ outline.walk, mark.Shown)
    (limit : Int) :
    largeClasses limit outline =
      ((entitiesBy Entity.class? outline).filter fun entity =>
        limit < entity.methods.length).map ClassEntity.tooLarge := by
  rw [largeClasses, entitiesBy]
  generalize outline.walk = marks at shown
  induction marks with
  | nil => rfl
  | cons mark rest ih =>
    rw [forall_mem_cons] at shown
    rcases mark.shown_iff.mp shown.1 with ⟨found, listed⟩
    rw [flatMap_cons, filterMap_append, filter_append, map_append,
      ← ih shown.2, Mark.entities_of_ok listed]
    cases mark with
    | classDef head methods document =>
      rcases bind_eq_ok.mp listed with ⟨bases, texts, foundEq⟩
      cases foundEq
      by_cases large : limit < methods.length
      · simp [large, Entity.class?, ClassEntity.tooLarge]
      · simp [large, Entity.class?]
    | function head document =>
      rcases markEntities_function_cases listed with ⟨_, rfl⟩ | ⟨decorators, _, _, rfl⟩ <;>
        simp [Entity.class?]
    | _ =>
      cases listed
      simp [Entity.class?]

/-! ## Methods -/

/-- Names are found, as often as they are given and besides the methods of all classes, among the
plain functions. -/
def AmongFunctions (names : List String) (parts : List Part) : Prop :=
  ∀ name, names.count name + (parts.flatMap Part.methods).count name ≤
    (parts.filterMap Part.plainName?).count name

namespace AmongFunctions

theorem nil : AmongFunctions [] [] := by
  intro name
  simp

theorem append {left right : List String} {leftParts rightParts : List Part}
    (first : AmongFunctions left leftParts) (second : AmongFunctions right rightParts) :
    AmongFunctions (left ++ right) (leftParts ++ rightParts) := by
  intro name
  have := first name
  have := second name
  simp only [flatMap_append, filterMap_append, count_append]
  omega

theorem forget {names : List String} {parts : List Part} (among : AmongFunctions names parts) :
    AmongFunctions [] parts := by
  intro name
  have := among name
  simp only [count_nil]
  omega

theorem part (part : Part) (noClass : part.class? = none) :
    AmongFunctions part.plainName?.toList [part] := by
  intro name
  cases named : part.plainName? <;> simp [Part.methods, noClass, named]

variable {body : List Stmt}

theorem function {head : FunctionHead}
    (among : AmongFunctions (methodNames body) (Stmt.listParts body)) :
    AmongFunctions (methodNames [.functionDef head body]) (Stmt.functionDef head body).parts := by
  have own : methodNames [.functionDef head body] =
      (Part.stmt (.functionDef head body)).plainName?.toList := by
    cases async : head.isAsync <;>
      simp [methodNames, Part.plainName?, Part.function?, async, Definition.name]
  rw [own, Stmt.parts]
  simpa using (part _ rfl).append among.forget

theorem classDef {head : ClassHead}
    (among : AmongFunctions (methodNames body) (Stmt.listParts body)) :
    AmongFunctions [] (Stmt.classDef head body).parts := by
  intro name
  rw [Stmt.parts, filterMap_cons_none rfl]
  simpa [Part.methods, Part.class?] using among name

end AmongFunctions

end ErpLens.Analysis

namespace ErpLens.Source

open Analysis

mutual

theorem Stmt.amongFunctions : ∀ stmt : Stmt, AmongFunctions (methodNames [stmt]) stmt.parts
  | .functionDef _ body => .function (Stmt.list_amongFunctions body)
  | .classDef _ body => .classDef (Stmt.list_amongFunctions body)
  | .forLoop _ _ body orelse _ | .whileLoop _ body orelse | .branch _ body orelse =>
    (Stmt.list_amongFunctions body).forget.append (Stmt.list_amongFunctions orelse).forget
  | .withBlock _ body _ => (Stmt.list_amongFunctions body).forget
  | .matchBlock _ cases => MatchCase.list_amongFunctions cases
  | .tryBlock body handlers orelse final =>
    (((Stmt.list_amongFunctions body).forget.append
      (ExceptHandler.list_amongFunctions handlers)).append
      (Stmt.list_amongFunctions orelse).forget).append (Stmt.list_amongFunctions final).forget
  | .importModules names line => .part (.stmt (.importModules names line)) rfl
  | .importNames module names line => .part (.stmt (.importNames module names line)) rfl
  | .ret _ | .delete _ | .assign _ _ | .augAssign _ _ _ | .annAssign _ _ _ | .raise _ _
  | .assertion _ _ | .globals _ | .nonlocals _ | .expr _ | .pass | .breakLoop | .continueLoop =>
    .nil

theorem Stmt.list_amongFunctions : ∀ body : List Stmt,
    AmongFunctions (methodNames body) (Stmt.listParts body)
  | [] => .nil
  | stmt :: rest => by
    rw [methodNames, ← singleton_append, filterMap_append]
    exact stmt.amongFunctions.append (Stmt.list_amongFunctions rest)

theorem ExceptHandler.list_amongFunctions : ∀ handlers : List ExceptHandler,
    AmongFunctions [] (ExceptHandler.listParts handlers)
  | [] => .nil
  | .mk type name body line :: rest =>
    ((AmongFunctions.part (.handler (.mk type name body line)) rfl).append
      (Stmt.list_amongFunctions body).forget).append (ExceptHandler.list_amongFunctions rest)

theorem MatchCase.list_amongFunctions : ∀ cases : List MatchCase,
    AmongFunctions [] (MatchCase.listParts cases)
  | [] => .nil
  | .mk _ _ body :: rest =>
    (Stmt.list_amongFunctions body).forget.append (MatchCase.list_amongFunctions rest)

end

end ErpLens.Source

namespace ErpLens.Analysis

open Source Outline

theorem map_eq_of_forall₂ {α β γ : Type} {related : α → β → Prop} {left : List α} {right : List β}
    (all : List.Forall₂ related left right) {f : α → γ} {g : β → γ}
    (same : ∀ a b, related a b → g b = f a) : right.map g = left.map f := by
  induction all with
  | nil => rfl
  | cons first _ ih => rw [map_cons, map_cons, same _ _ first, ih]

/-- Methods are plain functions of the source, each counted once. -/
theorem methods_subperm {tree : Module} {parts : List Part} (perm : parts.Perm tree.parts)
    {classes : List ClassEntity} {functions : List FunctionEntity}
    (classesShown : List.Forall₂ ClassEntity.Shows (parts.filterMap Part.class?) classes)
    (functionsShown : List.Forall₂ FunctionEntity.Shows (parts.filterMap Part.function?)
      functions) :
    (classes.flatMap (·.methods)).Subperm (functions.map (·.name)) := by
  have methods : classes.flatMap (·.methods) = parts.flatMap Part.methods := by
    rw [flatMap_def, map_eq_of_forall₂ classesShown fun _ _ shows => shows.methods,
      ← flatMap_def, filterMap_eq_flatMap_toList, flatMap_assoc]
    rfl
  have names : functions.map (·.name) = parts.filterMap Part.plainName? := by
    rw [map_eq_of_forall₂ functionsShown fun _ _ shows => shows.name, map_filterMap]
    rfl
  have among := (Stmt.list_amongFunctions tree.body).forget
  rw [methods, names, subperm_ext_iff]
  intro name _
  rw [(perm.flatMap_right _).count_eq, (perm.filterMap _).count_eq]
  simpa [Module.parts] using among name

/--
A source with a syntax tree is listed exactly if the bases of its classes and the decorators of its
plain functions can be shown; otherwise the listing fails. Every class, every plain function and
every imported name of the syntax tree, at any depth, is then listed once and says what its
statement says, and nothing else is listed. Methods are listed as functions as often as they are
methods, so that all classes together have no more methods than functions are listed. The classes
with more methods than a limit are those that the rule about large classes reports, in the same
order.
-/
theorem extraction_lists_parts_if_shown (path : String) {code : String} {tree : Module}
    (parsed : parse code = .ok tree) :
    (tree.Shown → ∃ (entities : FileEntities) (parts : List Part),
      (extractSource path code).outcome = .ok entities ∧ parts.Perm tree.parts ∧
      List.Forall₂ ClassEntity.Shows (parts.filterMap Part.class?) entities.classes ∧
      List.Forall₂ FunctionEntity.Shows (parts.filterMap Part.function?) entities.functions ∧
      entities.imports = parts.flatMap Part.imports ∧
      (entities.classes.flatMap (·.methods)).Subperm (entities.functions.map (·.name)) ∧
      (entities.classes.map (·.methods.length)).sum ≤ entities.functions.length ∧
      ∀ limit, largeClasses limit tree.outline =
        (entities.classes.filter fun entity => limit < entity.methods.length).map
          ClassEntity.tooLarge) ∧
    (¬tree.Shown → ∃ fault, (extractSource path code).outcome = .error (printFault fault)) := by
  have outlined := outlineOf_of_parse parsed
  constructor
  · intro shown
    rcases tree.exists_parts_eq with ⟨parts, ordered, perm⟩
    have walked := tree.shown_iff_walk.mp shown
    have partsShown : ∀ part ∈ parts, part.outline.label.Shown := by
      intro part partMem
      have listed : part.outline ∈ tree.outline.breadthFirst :=
        List.mem_of_mem_filter (ordered ▸ List.mem_map_of_mem partMem)
      apply walked
      rw [Tree.walk_eq_map, Tree.walkSubtrees_eq_breadthFirst]
      exact List.mem_map_of_mem listed
    have lists := lists_flatMap partsShown
    rw [← flatMap_entities_walk ordered] at lists
    rcases lists with ⟨classes, functions, imports⟩
    have subperm := methods_subperm perm classes functions
    have outcome : (extractSource path code).outcome =
        .ok { classes := entitiesBy Entity.class? tree.outline
              functions := entitiesBy Entity.function? tree.outline
              imports := entitiesBy Entity.import? tree.outline
              source := some (path, lineCount code) } := by
      rw [Extraction.outcome, extractSource, outlined]
      simp only [entitiesOf_of_shown shown]
      rfl
    refine ⟨_, parts, outcome, perm, classes, functions, imports, subperm, ?_,
      largeClasses_eq walked⟩
    have atMost := subperm.length_le
    rwa [List.length_flatMap, List.length_map] at atMost
  · intro notShown
    rw [tree.shown_iff] at notShown
    rcases Option.ne_none_iff_exists'.mp notShown with ⟨fault, faultEq⟩
    refine ⟨fault, ?_⟩
    rw [Extraction.outcome, extractSource, outlined]
    simp only [faultEq]
    rfl

/-- Classes in a class and in a branch, a method in a branch, an asynchronous one, and imports. -/
def packedSource : String :=
  "import a as b\nclass A(B):\n def f(): from c import d\n async def g(): pass\n class C:\n" ++
    "  def f(): pass\n  def h(): pass\n if x:\n  def k(): pass\n"

theorem extraction_lists_parts_if_shown_of_packedSource :
    ∃ tree entities, parse packedSource = .ok tree ∧ tree.Shown ∧
      (extractSource "a.py" packedSource).outcome = .ok entities ∧
      entities.functions.length = 4 ∧ (entities.classes.map (·.methods.length)).sum ≤ 4 ∧
      largeClasses 1 tree.outline =
        (entities.classes.filter fun entity => (1 : Int) < entity.methods.length).map
          ClassEntity.tooLarge := by
  have evaluated : ((parse packedSource).toOption.map fun tree =>
      ((entitiesOf tree.outline).2.isNone, (tree.parts.filterMap Part.function?).length)) =
      some (true, 4) := by
    decide +kernel
  rcases exists_ok_of_map_toOption evaluated with ⟨tree, parsed, evaluated⟩
  simp only [Prod.mk.injEq, Option.isNone_iff_eq_none] at evaluated
  have shown := tree.shown_iff.mpr evaluated.1
  rcases (extraction_lists_parts_if_shown "a.py" parsed).1 shown with
    ⟨entities, parts, outcome, perm, _, functions, _, _, atMost, large⟩
  have counted : entities.functions.length = 4 := by
    rw [← functions.length_eq, (perm.filterMap _).length_eq, evaluated.2]
  exact ⟨tree, entities, parsed, shown, outcome, counted, counted ▸ atMost, large 1⟩

/-- A class whose base has no standard form: a replacement field holds a control character. -/
def unshownClass : String :=
  "class A(f\"\x7b'\x01'\x7d\"): pass\n"

/-- The class is in the syntax tree, but the listing fails. -/
theorem class_without_shown_base_is_not_listed :
    ((parse unshownClass).toOption.map fun tree =>
        (tree.parts.filterMap Part.class?).map fun found => found.head.name) = some ["A"] ∧
      (extractSource "input.py" unshownClass).outcome.toOption = none := by
  decide +kernel

end ErpLens.Analysis
