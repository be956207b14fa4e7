import ErpLens.Analysis.Calls
import ErpLens.Proofs.CallSites
import ErpLens.Proofs.LevelOrder

/-!
# Call sites of an outline

The outline of a syntax tree forgets the syntax but keeps the nodes. `Holds` and `Stands` say that
no call, no definition and no other part is lost by that.
-/

open List

namespace ErpLens.Source

open Analysis

/-- The call that a node is. -/
def Mark.call? : Mark → Option Call
  | .call callee line => some ⟨callee, line⟩
  | _ => none

/-- A node that analyses report on. -/
def Mark.isPart : Mark → Bool
  | .call _ _ | .other => false
  | _ => true

/-- The functions around what is in a node. -/
def Mark.inside (mark : Mark) (around : List String) : List String :=
  match functionName mark with
  | some name => name :: around
  | none => around

namespace Outline

mutual

/-- The call sites of an outline. -/
def sites (around : List String) : Outline → List CallSite
  | .node mark children =>
    sitesAt around mark.call?.toList ++ forestSites (mark.inside around) children

def forestSites (around : List String) : List Outline → List CallSite
  | [] => []
  | tree :: rest => sites around tree ++ forestSites around rest

end

/-- An outline that is a function definition, with its name. -/
def definition? (tree : Outline) : Option (String × Outline) :=
  (functionName tree.label).map fun name => (name, tree)

/-- The definitions in a forest. -/
def forestDefinitions (forest : List Outline) : List (String × Outline) :=
  (Tree.forestSubtrees forest).filterMap definition?

/-- The parts in a forest. -/
def forestParts (forest : List Outline) : List Outline :=
  (Tree.forestSubtrees forest).filter (·.label.isPart)

@[simp]
theorem forestSites_append (around : List String) (left right : List Outline) :
    forestSites around (left ++ right) = forestSites around left ++ forestSites around right := by
  induction left with
  | nil => simp [forestSites]
  | cons tree rest ih => simp [forestSites, ih]

@[simp]
theorem forestDefinitions_append (left right : List Outline) :
    forestDefinitions (left ++ right) = forestDefinitions left ++ forestDefinitions right := by
  simp [forestDefinitions, Tree.forestSubtrees_append]

@[simp]
theorem forestParts_append (left right : List Outline) :
    forestParts (left ++ right) = forestParts left ++ forestParts right := by
  simp [forestParts, Tree.forestSubtrees_append]

theorem forestParts_node (mark : Mark) (children : List Outline) :
    forestParts [.node mark children] =
      (if mark.isPart then [.node mark children] else []) ++ forestParts children := by
  rw [forestParts, Tree.forestSubtrees, Tree.subtrees, Tree.forestSubtrees, append_nil]
  cases isPart : mark.isPart with
  | false => rw [filter_cons_of_neg (by simpa using isPart)]; rfl
  | true => rw [filter_cons_of_pos (by simpa using isPart)]; rfl

theorem forestDefinitions_node (mark : Mark) (children : List Outline) :
    forestDefinitions [.node mark children] =
      (definition? (.node mark children)).toList ++ forestDefinitions children := by
  simp only [forestDefinitions, Tree.forestSubtrees, Tree.subtrees, append_nil, filterMap_cons]
  cases definition? (.node mark children) <;> rfl

theorem forestSites_node (around : List String) (mark : Mark) (children : List Outline) :
    forestSites around [.node mark children] =
      sitesAt around mark.call?.toList ++ forestSites (mark.inside around) children := by
  simp [forestSites, sites]

end Outline

open Outline

theorem functionName_of_not_isPart {mark : Mark} (bare : mark.isPart = false) :
    functionName mark = none := by
  cases mark with
  | function head document => cases bare
  | _ => rfl

theorem sitesAt_append (around : List String) (left right : List Call) :
    sitesAt around (left ++ right) = sitesAt around left ++ sitesAt around right :=
  map_append

/-! ## Forests without definitions -/

/-- A forest whose calls are the given ones, all directly below the same functions. -/
structure Holds (forest : List Outline) (calls : List Call) : Prop where
  sites : ∀ around, forestSites around forest = sitesAt around calls
  definitions : forestDefinitions forest = []
  parts : forestParts forest = []

namespace Holds

theorem nil : Holds [] [] where
  sites _ := rfl
  definitions := rfl
  parts := rfl

theorem append {left right : List Outline} {leftCalls rightCalls : List Call}
    (leftHolds : Holds left leftCalls) (rightHolds : Holds right rightCalls) :
    Holds (left ++ right) (leftCalls ++ rightCalls) where
  sites around := by
    rw [forestSites_append, leftHolds.sites, rightHolds.sites, sitesAt_append]
  definitions := by
    rw [forestDefinitions_append, leftHolds.definitions, rightHolds.definitions, append_nil]
  parts := by rw [forestParts_append, leftHolds.parts, rightHolds.parts, append_nil]

theorem cons {tree : Outline} {rest : List Outline} {treeCalls restCalls : List Call}
    (treeHolds : Holds [tree] treeCalls) (restHolds : Holds rest restCalls) :
    Holds (tree :: rest) (treeCalls ++ restCalls) :=
  append treeHolds restHolds

theorem node {mark : Mark} {children : List Outline} {calls : List Call}
    (bare : mark.isPart = false) (holds : Holds children calls) :
    Holds [.node mark children] (mark.call?.toList ++ calls) where
  sites around := by
    rw [forestSites_node, sitesAt_append, Mark.inside, functionName_of_not_isPart bare, holds.sites]
  definitions := by
    rw [forestDefinitions_node, holds.definitions, definition?, Tree.label_node,
      functionName_of_not_isPart bare]
    rfl
  parts := by rw [forestParts_node, bare, holds.parts]; rfl

theorem plain {children : List Outline} {calls : List Call} (holds : Holds children calls) :
    Holds [Outline.plain children] calls :=
  node rfl holds

end Holds

mutual

theorem Expr.holds : ∀ e : Expr, Holds [e.outline] e.calls
  | .boolOp _ values => .plain (Expr.list_holds values)
  | .named target value => .plain (.cons target.holds value.holds)
  | .binary left _ right => .plain (.cons left.holds right.holds)
  | .unary _ operand => .plain operand.holds
  | .lambda params body => .plain (.cons params.holds body.holds)
  | .conditional test body orelse => .plain (.cons test.holds (.cons body.holds orelse.holds))
  | .dict items => .plain (.append (DictItem.keys_hold items) (DictItem.values_hold items))
  | .set elements => .plain (Expr.list_holds elements)
  | .listComp element clauses => .plain (.cons element.holds (Comprehension.list_holds clauses))
  | .setComp element clauses => .plain (.cons element.holds (Comprehension.list_holds clauses))
  | .dictComp key value clauses =>
    .plain (.cons key.holds (.cons value.holds (Comprehension.list_holds clauses)))
  | .generator element clauses => .plain (.cons element.holds (Comprehension.list_holds clauses))
  | .await value => .plain value.holds
  | .yield value => .plain (Expr.option_holds value)
  | .yieldFrom value => .plain value.holds
  | .compare left rest => .plain (.cons left.holds (Comparison.list_holds rest))
  | .call callee args keywords _ =>
    .node rfl (.cons callee.holds (.append (Expr.list_holds args) (KeywordArg.list_holds keywords)))
  | .formatted value _ spec => .plain (.cons value.holds (Expr.option_holds spec))
  | .joined values => .plain (Expr.list_holds values)
  | .constant _ => .plain .nil
  | .attribute value _ => .plain value.holds
  | .subscript value index => .plain (.cons value.holds index.holds)
  | .starred value => .plain value.holds
  | .name _ => .plain .nil
  | .list elements => .plain (Expr.list_holds elements)
  | .tuple elements => .plain (Expr.list_holds elements)
  | .slice lower upper step =>
    .plain (.append (.append (Expr.option_holds lower) (Expr.option_holds upper))
      (Expr.option_holds step))

theorem Expr.list_holds : ∀ es : List Expr, Holds (Expr.outlines es) (Expr.listCalls es)
  | [] => .nil
  | e :: rest => .cons e.holds (Expr.list_holds rest)

theorem Expr.option_holds : ∀ e : Option Expr, Holds (Expr.optionOutlines e) (Expr.optionCalls e)
  | none => .nil
  | some e => e.holds

theorem Expr.options_hold : ∀ es : List (Option Expr),
    Holds (Expr.optionsOutlines es) (Expr.optionsCalls es)
  | [] => .nil
  | e :: rest => .append (Expr.option_holds e) (Expr.options_hold rest)

theorem DictItem.keys_hold : ∀ items : List DictItem,
    Holds (DictItem.keyOutlines items) (DictItem.keyCalls items)
  | [] => .nil
  | .pair key _ :: rest => .cons key.holds (DictItem.keys_hold rest)
  | .unpack _ :: rest => DictItem.keys_hold rest

theorem DictItem.values_hold : ∀ items : List DictItem,
    Holds (DictItem.valueOutlines items) (DictItem.valueCalls items)
  | [] => .nil
  | .pair _ value :: rest => .cons value.holds (DictItem.values_hold rest)
  | .unpack value :: rest => .cons value.holds (DictItem.values_hold rest)

theorem Comparison.list_holds : ∀ rest : List Comparison,
    Holds (Comparison.outlines rest) (Comparison.listCalls rest)
  | [] => .nil
  | .mk _ right :: rest => .cons right.holds (Comparison.list_holds rest)

theorem KeywordArg.list_holds : ∀ keywords : List KeywordArg,
    Holds (KeywordArg.outlines keywords) (KeywordArg.listCalls keywords)
  | [] => .nil
  | .mk _ value :: rest => .cons (.plain value.holds) (KeywordArg.list_holds rest)

theorem Comprehension.list_holds : ∀ clauses : List Comprehension,
    Holds (Comprehension.outlines clauses) (Comprehension.listCalls clauses)
  | [] => .nil
  | .mk target iter conditions _ :: rest =>
    .cons (.plain (.cons target.holds (.cons iter.holds (Expr.list_holds conditions))))
      (Comprehension.list_holds rest)

theorem Param.holds : ∀ param : Param, Holds [param.outline] param.calls
  | .mk _ note => .plain (Expr.option_holds note)

theorem Param.list_holds : ∀ params : List Param,
    Holds (Param.outlines params) (Param.listCalls params)
  | [] => .nil
  | param :: rest => .cons param.holds (Param.list_holds rest)

theorem Param.option_holds : ∀ param : Option Param,
    Holds (Param.optionOutlines param) (Param.optionCalls param)
  | none => .nil
  | some param => param.holds

theorem Params.holds : ∀ params : Params, Holds [params.outline] params.calls
  | .mk posOnly positional varArg keywordOnly keywordDefaults keywordArg defaults =>
    .plain (.append (.append (.append (.append (.append (.append (Param.list_holds posOnly)
      (Param.list_holds positional)) (Param.option_holds varArg)) (Param.list_holds keywordOnly))
      (Expr.options_hold keywordDefaults)) (Param.option_holds keywordArg))
      (Expr.list_holds defaults))

end

mutual

theorem Pattern.holds : ∀ pattern : Pattern, Holds [pattern.outline] pattern.calls
  | .value literal => .plain literal.holds
  | .singleton _ => .plain .nil
  | .sequence patterns => .plain (Pattern.list_holds patterns)
  | .mapping keys patterns _ =>
    .plain (.append (Expr.list_holds keys) (Pattern.list_holds patterns))
  | .classOf callee patterns _ attrPatterns =>
    .plain (.cons callee.holds
      (.append (Pattern.list_holds patterns) (Pattern.list_holds attrPatterns)))
  | .star _ => .plain .nil
  | .capture none _ => .plain .nil
  | .capture (some pattern) _ => .plain pattern.holds
  | .alternatives patterns => .plain (Pattern.list_holds patterns)

theorem Pattern.list_holds : ∀ patterns : List Pattern,
    Holds (Pattern.outlines patterns) (Pattern.listCalls patterns)
  | [] => .nil
  | pattern :: rest => .cons pattern.holds (Pattern.list_holds rest)

end

theorem WithItem.list_holds (items : List WithItem) :
    Holds (items.map WithItem.outline) (items.flatMap WithItem.calls) := by
  induction items with
  | nil => exact .nil
  | cons item rest ih =>
    rw [map_cons, flatMap_cons]
    exact .cons (.plain (.cons item.context.holds (Expr.option_holds item.target))) ih

/-! ## Forests of statements -/

/-- A definition as its outline shows it. -/
def Definition.shown (definition : Definition) : String × Outline :=
  (definition.name, definition.stmt.outline)

def ExceptHandler.outline : ExceptHandler → Outline
  | .mk type _ body line =>
    .node (.handler type line) (Expr.optionOutlines type ++ Stmt.outlines body)

/-- The outline of a part. -/
def Part.outline : Part → Outline
  | .stmt found => found.outline
  | .handler found => found.outline

/-- A forest that has the call sites, the definitions and the parts of some statements. -/
structure Stands (forest : List Outline) (sites : List String → List CallSite)
    (definitions : List Definition) (parts : List Part) : Prop where
  sites : ∀ around, forestSites around forest = sites around
  definitions : forestDefinitions forest = definitions.map Definition.shown
  parts : forestParts forest = parts.map Part.outline

namespace Stands

theorem ofHolds {forest : List Outline} {calls : List Call} (holds : Holds forest calls) :
    Stands forest (fun around => sitesAt around calls) [] [] where
  sites := holds.sites
  definitions := holds.definitions
  parts := holds.parts

theorem append {left right : List Outline} {leftSites rightSites : List String → List CallSite}
    {leftDefinitions rightDefinitions : List Definition} {leftParts rightParts : List Part}
    (leftStands : Stands left leftSites leftDefinitions leftParts)
    (rightStands : Stands right rightSites rightDefinitions rightParts) :
    Stands (left ++ right) (fun around => leftSites around ++ rightSites around)
      (leftDefinitions ++ rightDefinitions) (leftParts ++ rightParts) where
  sites around := by rw [forestSites_append, leftStands.sites, rightStands.sites]
  definitions := by
    rw [forestDefinitions_append, leftStands.definitions, rightStands.definitions, map_append]
  parts := by rw [forestParts_append, leftStands.parts, rightStands.parts, map_append]

theorem cons {tree : Outline} {rest : List Outline}
    {treeSites restSites : List String → List CallSite}
    {treeDefinitions restDefinitions : List Definition} {treeParts restParts : List Part}
    (treeStands : Stands [tree] treeSites treeDefinitions treeParts)
    (restStands : Stands rest restSites restDefinitions restParts) :
    Stands (tree :: rest) (fun around => treeSites around ++ restSites around)
      (treeDefinitions ++ restDefinitions) (treeParts ++ restParts) :=
  append treeStands restStands

variable {sites : List String → List CallSite} {definitions : List Definition} {parts : List Part}

theorem appendCalls {left right : List Outline} {calls : List Call}
    (stands : Stands left sites definitions parts) (holds : Holds right calls) :
    Stands (left ++ right) (fun around => sites around ++ sitesAt around calls) definitions
      parts where
  sites around := by rw [forestSites_append, stands.sites, holds.sites]
  definitions := by
    rw [forestDefinitions_append, stands.definitions, holds.definitions, append_nil]
  parts := by rw [forestParts_append, stands.parts, holds.parts, append_nil]

theorem consCalls {tree : Outline} {rest : List Outline} {calls : List Call}
    (holds : Holds [tree] calls) (stands : Stands rest sites definitions parts) :
    Stands (tree :: rest) (fun around => sitesAt around calls ++ sites around) definitions parts :=
  append (ofHolds holds) stands

theorem plain {children : List Outline} (stands : Stands children sites definitions parts) :
    Stands [Outline.plain children] sites definitions parts where
  sites around := stands.sites around ▸ forestSites_node around .other children
  definitions := stands.definitions ▸ forestDefinitions_node .other children
  parts := stands.parts ▸ forestParts_node .other children

theorem part (part : Part) {mark : Mark} {children : List Outline}
    (outline_eq : part.outline = .node mark children) (nameless : functionName mark = none)
    (isPart : mark.isPart = true) (callless : mark.call? = none)
    (stands : Stands children sites definitions parts) :
    Stands [part.outline] sites definitions (part :: parts) where
  sites around := by
    rw [outline_eq, forestSites_node, Mark.inside, nameless, callless, stands.sites]
    rfl
  definitions := by
    rw [outline_eq, forestDefinitions_node, stands.definitions, definition?, Tree.label_node,
      nameless]
    rfl
  parts := by
    rw [map_cons, outline_eq, forestParts_node, isPart, stands.parts]
    rfl

theorem function (definition : Definition) {children : List Outline}
    (outline_eq : definition.stmt.outline =
      .node (.function definition.head (document? definition.body)) children)
    (stands : Stands children sites definitions parts) :
    Stands [definition.stmt.outline] (fun around => sites (definition.name :: around))
      (definition :: definitions) (.stmt definition.stmt :: parts) where
  sites around := by
    rw [outline_eq, forestSites_node, ← stands.sites]
    rfl
  definitions := by
    rw [outline_eq, forestDefinitions_node, stands.definitions, map_cons,
      Definition.shown, outline_eq]
    rfl
  parts := by
    rw [map_cons, Part.outline, outline_eq, forestParts_node, stands.parts]
    rfl

end Stands

mutual

theorem Stmt.stands : ∀ stmt : Stmt,
    Stands [stmt.outline] (stmt.sites ·) stmt.definitions stmt.parts
  | .functionDef head body =>
    .function ⟨head, body⟩ rfl
      (.consCalls head.params.holds
        (.appendCalls (.appendCalls (Stmt.list_stands body) (Expr.list_holds head.decorators))
          (Expr.option_holds head.returns)))
  | .classDef head body =>
    .part (.stmt (.classDef head body)) rfl rfl rfl rfl (.appendCalls
      (.append
        (.ofHolds (.append (Expr.list_holds head.bases) (KeywordArg.list_holds head.keywords)))
        (Stmt.list_stands body))
      (Expr.list_holds head.decorators))
  | .ret value => .plain (.ofHolds (Expr.option_holds value))
  | .delete targets => .plain (.ofHolds (Expr.list_holds targets))
  | .assign targets value => .plain (.ofHolds (.append (Expr.list_holds targets) value.holds))
  | .augAssign target _ value => .plain (.ofHolds (.cons target.holds value.holds))
  | .annAssign target note value =>
    .plain (.ofHolds (.cons target.holds (.cons note.holds (Expr.option_holds value))))
  | .forLoop target iter body orelse _ =>
    .plain (.consCalls target.holds (.consCalls iter.holds
      (.append (Stmt.list_stands body) (Stmt.list_stands orelse))))
  | .whileLoop test body orelse =>
    .plain (.consCalls test.holds
      (.append (Stmt.list_stands body) (Stmt.list_stands orelse)))
  | .branch test body orelse =>
    .plain (.consCalls test.holds
      (.append (Stmt.list_stands body) (Stmt.list_stands orelse)))
  | .withBlock items body _ =>
    .plain (.append (.ofHolds (WithItem.list_holds items)) (Stmt.list_stands body))
  | .matchBlock subject cases =>
    .plain (.consCalls subject.holds (MatchCase.list_stands cases))
  | .raise exc cause =>
    .plain (.ofHolds (.append (Expr.option_holds exc) (Expr.option_holds cause)))
  | .tryBlock body handlers orelse final =>
    .plain (.append (.append (.append (Stmt.list_stands body) (ExceptHandler.list_stands handlers))
      (Stmt.list_stands orelse)) (Stmt.list_stands final))
  | .assertion test message =>
    .plain (.ofHolds (.cons test.holds (Expr.option_holds message)))
  | .importModules names line =>
    .part (.stmt (.importModules names line)) rfl rfl rfl rfl (.ofHolds .nil)
  | .importNames module names line =>
    .part (.stmt (.importNames module names line)) rfl rfl rfl rfl (.ofHolds .nil)
  | .globals _ => .plain (.ofHolds .nil)
  | .nonlocals _ => .plain (.ofHolds .nil)
  | .expr value => .plain (.ofHolds value.holds)
  | .pass => .plain (.ofHolds .nil)
  | .breakLoop => .plain (.ofHolds .nil)
  | .continueLoop => .plain (.ofHolds .nil)

theorem Stmt.list_stands : ∀ body : List Stmt,
    Stands (Stmt.outlines body) (Stmt.listSites · body) (Stmt.listDefinitions body)
      (Stmt.listParts body)
  | [] => .ofHolds .nil
  | stmt :: rest => .cons stmt.stands (Stmt.list_stands rest)

theorem ExceptHandler.list_stands : ∀ handlers : List ExceptHandler,
    Stands (ExceptHandler.outlines handlers) (ExceptHandler.listSites · handlers)
      (ExceptHandler.listDefinitions handlers) (ExceptHandler.listParts handlers)
  | [] => .ofHolds .nil
  | .mk type name body line :: rest =>
    .cons (.part (.handler (.mk type name body line)) rfl rfl rfl rfl
        (.append (.ofHolds (Expr.option_holds type)) (Stmt.list_stands body)))
      (ExceptHandler.list_stands rest)

theorem MatchCase.list_stands : ∀ cases : List MatchCase,
    Stands (MatchCase.outlines cases) (MatchCase.listSites · cases)
      (MatchCase.listDefinitions cases) (MatchCase.listParts cases)
  | [] => .ofHolds .nil
  | .mk pattern guard body :: rest =>
    .cons (.plain (.consCalls pattern.holds
      (.append (.ofHolds (Expr.option_holds guard)) (Stmt.list_stands body))))
      (MatchCase.list_stands rest)

end

/-- The outline of a source has its call sites, definitions and parts. -/
theorem Module.stands (module : Module) :
    Stands [module.outline] (fun around => Stmt.listSites around module.body)
      module.definitions module.parts :=
  .plain (Stmt.list_stands module.body)

end ErpLens.Source
