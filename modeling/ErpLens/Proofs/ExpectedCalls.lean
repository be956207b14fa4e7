import ErpLens.Proofs.CallTables

/-!
# Rules that expect a call

Two rules look for a call at any depth and know it only by a plain name. A logger and `frappe` are
used through their methods, and such a call is not seen.
-/

open List

namespace ErpLens.Source

open Analysis Outline

/-! ## Forms of calls -/

/-- The owner and the method of a call such as `a.b()`. -/
def Call.method? : Call → Option (String × String)
  | ⟨.attribute (.name owner) method, _⟩ => some (owner, method)
  | _ => none

/-- The callee is one of some plain names. -/
def Call.callsAny (names : List String) (call : Call) : Bool :=
  call.plainName?.any names.contains

/-- A call that counts as logging. -/
def Call.logsByName (call : Call) : Bool :=
  call.callsAny ["print", "log", "logger"]

/-- `log.m(..)` or `logger.m(..)`, whatever the method. -/
def Call.logsByMethod (call : Call) : Bool :=
  call.method?.any (["log", "logger"].contains ·.1)

/-- A call that counts as throwing. -/
def Call.throwsByName (call : Call) : Bool :=
  call.callsAny ["throw"]

/-- The call `frappe.throw(...)`. -/
def Call.throwsByMethod (call : Call) : Bool :=
  call.method? == some ("frappe", "throw")

theorem any_or (calls : List Call) (left right : Call → Bool) :
    (calls.any fun call => left call || right call) = (calls.any left || calls.any right) := by
  rw [Bool.eq_iff_iff]
  simp only [any_eq_true, Bool.or_eq_true, and_or_left, exists_or]

theorem any_walk_callsAny (names : List String) (outline : Outline) :
    outline.walk.any (Analysis.callsAny names) = (callsOf [outline]).any (Call.callsAny names) := by
  rw [(Tree.walk_perm outline).any_eq, callsOf, Tree.forestLabels_cons, Tree.forestLabels_nil,
    append_nil, any_filterMap]
  congr 1
  funext mark
  cases mark with
  | call callee line => cases callee <;> rfl
  | _ => rfl

/-! ## Handlers -/

namespace ExceptHandler

def line : ExceptHandler → Nat
  | .mk _ _ _ line => line

def isBroad : ExceptHandler → Bool
  | .mk (some (.name id)) _ _ _ => id == "Exception"
  | _ => false

def calls (handler : ExceptHandler) : List Call :=
  (ExceptHandler.listSites [] [handler]).map CallSite.call

theorem calls_eq (handler : ExceptHandler) : handler.calls = callsOf [handler.outline] := by
  rw [calls, ← (ExceptHandler.list_stands [handler]).sites, map_call_forestSites]
  cases handler
  rfl

end ExceptHandler

def Part.handler? : Part → Option ExceptHandler
  | .stmt _ => none
  | .handler found => some found

def Module.handlers (tree : Module) : List ExceptHandler :=
  tree.parts.filterMap Part.handler?

def Mark.isHandler : Mark → Bool
  | .handler _ _ => true
  | _ => false

theorem filter_isHandler_map_outline (parts : List Part) :
    (parts.map Part.outline).filter (·.label.isHandler) =
      (parts.filterMap Part.handler?).map ExceptHandler.outline := by
  induction parts with
  | nil => rfl
  | cons part rest ih =>
    cases part with
    | stmt found =>
      have other : found.outline.label.isHandler = false := by cases found <;> rfl
      rw [map_cons, filter_cons_of_neg (by simp [Part.outline, other]), ih, filterMap_cons_none rfl]
    | handler found =>
      have isHandler : found.outline.label.isHandler = true := by cases found; rfl
      rw [map_cons, filter_cons_of_pos (by simp [Part.outline, isHandler]), ih]
      rfl

theorem Module.exists_parts_eq (tree : Module) : ∃ parts : List Part,
    tree.outline.breadthFirst.filter (·.label.isPart) = parts.map Part.outline ∧
      parts.Perm tree.parts := by
  have preorder : tree.outline.subtrees.filter (·.label.isPart) = tree.parts.map Part.outline := by
    have parts := tree.stands.parts
    rwa [forestParts, Tree.forestSubtrees, Tree.forestSubtrees, append_nil] at parts
  have found := (Tree.walkSubtrees_perm tree.outline).filter (·.label.isPart)
  rw [Tree.walkSubtrees_eq_breadthFirst, preorder] at found
  exact (eq_map_comp_perm Part.outline).ge _ _ found

theorem Module.exists_handlers_eq (tree : Module) : ∃ handlers : List ExceptHandler,
    tree.outline.breadthFirst.filter (·.label.isHandler) = handlers.map ExceptHandler.outline ∧
      handlers.Perm tree.handlers := by
  rcases tree.exists_parts_eq with ⟨parts, ordered, perm⟩
  refine ⟨parts.filterMap Part.handler?, ?_, perm.filterMap _⟩
  rw [← filter_isHandler_map_outline, ← ordered, filter_filter]
  refine filter_congr fun outline _ => ?_
  cases outline.label <;> rfl

/-! ## Functions that validate -/

/-- The plain functions called `validate`. -/
def Module.validators (tree : Module) : List Definition :=
  tree.definitions.filter fun definition =>
    !definition.head.isAsync && definition.name == "validate"

/-- There is a `validate`, and none makes an expected call. -/
def Module.validatesWithout (tree : Module) (expected : Call → Bool) : Bool :=
  !tree.validators.isEmpty && tree.validators.all fun definition => !definition.calls.any expected

theorem Module.mem_validators {tree : Module} {outline : Outline} :
    outline ∈ Analysis.validators tree.outline ↔
      ∃ definition ∈ tree.validators, definition.stmt.outline = outline := by
  rcases exists_definitions_eq tree with ⟨ordered, definitionsEq, perm⟩
  constructor
  · intro validatorMem
    rcases mem_filter.mp validatorMem with ⟨walked, validates⟩
    rcases outline with ⟨mark, children⟩
    cases mark with
    | function head document =>
      have found : (head.name, Tree.node (.function head document) children) ∈
          Analysis.definitions tree.outline := mem_filterMap.mpr ⟨_, walked, rfl⟩
      rw [definitionsEq] at found
      rcases mem_map.mp found with ⟨definition, definitionMem, shownEq⟩
      have outlineEq : definition.stmt.outline = .node (.function head document) children :=
        (Prod.ext_iff.mp shownEq).2
      have headEq : definition.head = head := by
        have labels := congrArg Tree.label outlineEq
        injection labels
      refine ⟨definition, mem_filter.mpr ⟨perm.mem_iff.mp definitionMem, ?_⟩, outlineEq⟩
      rw [Definition.name, headEq]
      exact validates
    | _ => cases validates
  · rintro ⟨definition, validatorMem, rfl⟩
    rcases mem_filter.mp validatorMem with ⟨definitionMem, validates⟩
    have shownMem : definition.shown ∈ Analysis.definitions tree.outline :=
      definitionsEq ▸ mem_map_of_mem (perm.mem_iff.mpr definitionMem)
    rcases mem_filterMap.mp shownMem with ⟨outline, walked, found⟩
    rcases Option.map_eq_some_iff.mp found with ⟨name, _, shownEq⟩
    cases shownEq
    exact mem_filter.mpr ⟨walked, validates⟩

end ErpLens.Source

namespace ErpLens.Analysis

open Source Outline

/-! ## The warnings of one kind -/

theorem filter_kind {issues : List Issue} {own : IssueKind}
    (all : ∀ issue ∈ issues, issue.kind = own) (kind : IssueKind) :
    issues.filter (·.kind == kind) = if own = kind then issues else [] := by
  split
  · rename_i same
    exact filter_eq_self.mpr fun issue mem => by simp [all issue mem, same]
  · rename_i different
    exact filter_eq_nil_iff.mpr fun issue mem => by simp [all issue mem, different]

variable {issue : Issue} {outline : Outline}

theorem kind_of_mem_broadExceptions (reported : issue ∈ broadExceptions outline) :
    issue.kind = .broadException := by
  rcases mem_filterMap.mp reported with ⟨tree, _, found⟩
  rcases Option.bind_eq_some_iff.mp found with ⟨line, _, issueEq⟩
  split at issueEq <;> cases issueEq
  rfl

theorem kind_of_mem_largeFunctions {limit : Int} (reported : issue ∈ largeFunctions limit outline) :
    issue.kind = .largeFunction := by
  rcases mem_filterMap.mp reported with ⟨mark, _, found⟩
  split at found
  · simp only at found
    split at found <;> cases found
    rfl
  · cases found

theorem kind_of_mem_largeClasses {limit : Int} (reported : issue ∈ largeClasses limit outline) :
    issue.kind = .largeClass := by
  rcases mem_filterMap.mp reported with ⟨mark, _, found⟩
  split at found
  · split at found <;> cases found
    rfl
  · cases found

theorem kind_of_mem_missingThrow (reported : issue ∈ missingThrow outline) :
    issue.kind = .erpnextValidation := by
  simp only [missingThrow] at reported
  split at reported
  · rw [mem_singleton.mp reported]
  · cases reported

theorem filter_kind_warnings (outline : Outline) (kind : IssueKind) :
    (issuesOf outline).warnings.filter (·.kind == kind) =
      (if .broadException = kind then broadExceptions outline else []) ++
      (if .largeFunction = kind then largeFunctions functionLimit outline else []) ++
      (if .largeClass = kind then largeClasses classLimit outline else []) ++
      (if .erpnextValidation = kind then missingThrow outline else []) := by
  simp [issuesOf, filter_kind fun _ => kind_of_mem_broadExceptions,
    filter_kind fun _ => kind_of_mem_largeFunctions,
    filter_kind fun _ => kind_of_mem_largeClasses, filter_kind fun _ => kind_of_mem_missingThrow]

/-! ## Handlers that do not log -/

def silenceOf (handler : ExceptHandler) : Issue :=
  ⟨.broadException, "Catching Exception without logging", some handler.line⟩

theorem broadHandler_label (handler : ExceptHandler) :
    broadHandler handler.outline.label =
      if handler.isBroad then some handler.line else none := by
  rcases handler with ⟨type, name, body, line⟩
  cases type with
  | none => rfl
  | some caught =>
    cases caught with
    | name id => simp [ExceptHandler.outline, broadHandler, isNameAmong, ExceptHandler.isBroad,
        ExceptHandler.line]
    | _ => rfl

theorem broadExceptions_eq {outline : Outline} {handlers : List ExceptHandler}
    (found : outline.breadthFirst.filter (·.label.isHandler) =
      handlers.map ExceptHandler.outline) :
    broadExceptions outline =
      (handlers.filter fun handler =>
        handler.isBroad && !handler.calls.any Call.logsByName).map silenceOf := by
  -- The rule looks at handlers only, so that it may as well go over these.
  have handlersOnly : broadExceptions outline =
      (outline.breadthFirst.filter (·.label.isHandler)).filterMap fun tree =>
        (broadHandler tree.label).bind fun line =>
          if (callsOf [tree]).any Call.logsByName then none
          else some ⟨.broadException, "Catching Exception without logging", some line⟩ := by
    rw [broadExceptions, Tree.walkSubtrees_eq_breadthFirst, filterMap_filter]
    congr 1
    funext tree
    rw [any_walk_callsAny]
    cases tree.label <;> rfl
  rw [handlersOnly, found, filterMap_map, ← filterMap_eq_map, filterMap_filter]
  congr 1
  funext handler
  simp only [Function.comp_apply, broadHandler_label, ← handler.calls_eq, silenceOf]
  cases handler.isBroad <;> cases handler.calls.any Call.logsByName <;> rfl

/--
The warnings about handlers of `Exception` are, in breadth-first order, those of the handlers in
which nothing is logged by a plain name. Those in which nothing is logged at all are what is left of
them when the handlers go that log by a method.
-/
theorem broadExceptions_miss_methods {code : String} {tree : Module}
    (parsed : parse code = .ok tree) :
    ∃ (issues : Issues) (handlers : List ExceptHandler),
      Issues.analyze {} code = .ok issues ∧ handlers.Perm tree.handlers ∧
      tree.outline.breadthFirst.filter (·.label.isHandler) = handlers.map ExceptHandler.outline ∧
      issues.warnings.filter (·.kind == .broadException) =
        (handlers.filter fun handler =>
          handler.isBroad && !handler.calls.any Call.logsByName).map silenceOf ∧
      (handlers.filter fun handler => handler.isBroad &&
          !handler.calls.any fun call => call.logsByName || call.logsByMethod) =
        (handlers.filter fun handler =>
          handler.isBroad && !handler.calls.any Call.logsByName).filter fun handler =>
            !handler.calls.any Call.logsByMethod := by
  rcases tree.exists_handlers_eq with ⟨handlers, found, perm⟩
  refine ⟨issuesOf tree.outline, handlers, analyze_of_outline (outlineOf_of_parse parsed), perm,
    found, ?_, ?_⟩
  · rw [filter_kind_warnings, ← broadExceptions_eq found]
    simp
  · rw [List.filter_filter]
    refine List.filter_congr fun handler _ => ?_
    rw [any_or, Bool.not_or, Bool.and_comm (!_), Bool.and_left_comm]

/-- Handlers on the lines 2, 4, 6 and 8. The first logs through the second, which stands in it, the
third by a method, the last not at all. -/
def handlersSource : String :=
  "try: a()\nexcept Exception:\n try: b()\n except Exception: log(c)\n" ++
    "try: d()\nexcept Exception as e: logger.error(e)\ntry: f()\nexcept Exception: pass\n"

theorem broadExceptions_miss_methods_of_handlersSource :
    ∃ (tree : Module) (handlers : List ExceptHandler), parse handlersSource = .ok tree ∧
      handlers.Perm tree.handlers ∧
      (handlers.filter fun handler =>
        handler.isBroad && !handler.calls.any Call.logsByName).map silenceOf =
        [⟨.broadException, "Catching Exception without logging", some 6⟩,
          ⟨.broadException, "Catching Exception without logging", some 8⟩] := by
  have evaluated : (Issues.analyze {} handlersSource).toOption.map
      (·.warnings.filter (·.kind == .broadException)) =
      some [⟨.broadException, "Catching Exception without logging", some 6⟩,
        ⟨.broadException, "Catching Exception without logging", some 8⟩] := by
    decide +kernel
  cases parsed : parse handlersSource with
  | error fault =>
    simp [Issues.analyze, outlineOf, parsed, Except.map, Except.toOption] at evaluated
  | ok tree =>
    rcases broadExceptions_miss_methods parsed with
      ⟨issues, handlers, analyzed, perm, _, reported, _⟩
    rw [analyzed] at evaluated
    exact ⟨tree, handlers, rfl, perm, reported.symm.trans (Option.some.inj evaluated)⟩

def loggerSource : String :=
  "try:\n    a()\nexcept Exception as e:\n    logger.error(e)\n"

/-- A handler that logs gets the warning that it does not. -/
theorem logger_method_goes_unseen :
    (Issues.analyze {} loggerSource).toOption.map (·.warnings) =
        some [⟨.broadException, "Catching Exception without logging", some 3⟩] ∧
      ((parse loggerSource).toOption.map fun tree => (tree.handlers.filter fun handler =>
        handler.isBroad && !handler.calls.any fun call =>
          call.logsByName || call.logsByMethod).map ExceptHandler.line) = some [] := by
  decide +kernel

/-! ## Functions that do not throw -/

def unthrown : Issue :=
  ⟨.erpnextValidation, "`validate()` found but no frappe.throw() used", none⟩

theorem missingThrow_eq (tree : Module) :
    missingThrow tree.outline =
      if tree.validatesWithout Call.throwsByName then [unthrown] else [] := by
  have empty : (validators tree.outline).isEmpty = tree.validators.isEmpty := by
    rw [Bool.eq_iff_iff, List.isEmpty_iff, List.isEmpty_iff, eq_nil_iff_forall_not_mem,
      eq_nil_iff_forall_not_mem]
    simp [Module.mem_validators]
  have thrown : ((validators tree.outline).any fun found => found.walk.any (callsAny ["throw"])) =
      tree.validators.any fun definition => definition.calls.any Call.throwsByName := by
    rw [Bool.eq_iff_iff, any_eq_true, any_eq_true]
    simp only [Module.mem_validators, any_walk_callsAny, Definition.calls_eq,
      exists_exists_and_eq_and]
    rfl
  simp only [missingThrow, empty, thrown, Module.validatesWithout, not_any_eq_all_not]
  rfl

/--
The warning about `validate` functions is given, once, exactly if there are some and none of them
throws by the plain name. It is asked for where moreover none of them throws by the method of
`frappe`.
-/
theorem missingThrow_misses_methods {code : String} {tree : Module}
    (parsed : parse code = .ok tree) :
    ∃ issues, Issues.analyze {} code = .ok issues ∧
      issues.warnings.filter (·.kind == .erpnextValidation) =
        (if tree.validatesWithout Call.throwsByName then [unthrown] else []) ∧
      (tree.validatesWithout fun call => call.throwsByName || call.throwsByMethod) =
        (tree.validatesWithout Call.throwsByName &&
          tree.validators.all fun definition => !definition.calls.any Call.throwsByMethod) := by
  refine ⟨issuesOf tree.outline, analyze_of_outline (outlineOf_of_parse parsed), ?_, ?_⟩
  · rw [filter_kind_warnings, ← missingThrow_eq]
    simp
  · rw [Bool.eq_iff_iff]
    simp only [Module.validatesWithout, any_or, Bool.not_or, Bool.and_eq_true, List.all_eq_true,
      forall_and, and_assoc]

/-- No `validate` function throws: one hands `throw` on and calls a method of that name of another
object, the other one is asynchronous. -/
def validateSource : String :=
  "class A:\n def validate(self):\n  self.throw(x)\n  def f(): return g(throw)\n" ++
    "async def validate(): throw(x)\n"

theorem missingThrow_misses_methods_of_validateSource :
    ∃ tree issues, parse validateSource = .ok tree ∧
      Issues.analyze {} validateSource = .ok issues ∧
      issues.warnings.filter (·.kind == .erpnextValidation) = [unthrown] := by
  have evaluated : ((parse validateSource).toOption.map fun tree =>
      tree.validatesWithout Call.throwsByName) = some true := by
    decide +kernel
  rcases exists_ok_of_map_toOption evaluated with ⟨tree, parsed, evaluated⟩
  rcases missingThrow_misses_methods parsed with ⟨issues, analyzed, reported, _⟩
  rw [evaluated, if_pos rfl] at reported
  exact ⟨tree, issues, parsed, analyzed, reported⟩

def throwSource : String :=
  "def validate(self):\n    frappe.throw(\"x\")\n"

theorem frappe_throw_goes_unseen :
    (Issues.analyze {} throwSource).toOption.map (·.warnings) = some [unthrown] ∧
      ((parse throwSource).toOption.map fun tree =>
        tree.validatesWithout fun call => call.throwsByName || call.throwsByMethod) =
        some false := by
  decide +kernel

end ErpLens.Analysis
