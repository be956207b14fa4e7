import ErpLens.Source.Outline
import ErpLens.Value.Basic

/-!
# Issues of a source

Five rules that look at an outline: handlers that catch everything, handlers of `Exception` that do
not log, long functions, classes with many methods, and `validate` functions that never throw.
-/

namespace ErpLens.Analysis

open Source

inductive IssueKind where
  | bareExcept | broadException | largeFunction | largeClass | erpnextValidation
deriving Repr, DecidableEq

structure Issue where
  kind : IssueKind
  message : String
  line : Option Nat
deriving Repr, DecidableEq

structure Issues where
  errors : List Issue := []
  warnings : List Issue := []
deriving Repr, DecidableEq

def isNameAmong (names : List String) : Expr → Bool
  | .name id => names.contains id
  | _ => false

def callsAny (names : List String) : Mark → Bool
  | .call callee _ => isNameAmong names callee
  | _ => false

def bareExcepts (outline : Outline) : List Issue :=
  outline.walk.filterMap fun
    | .handler none line =>
      some ⟨.bareExcept, "Bare except detected (should catch specific exceptions)", some line⟩
    | _ => none

def loggingNames : List String := ["print", "log", "logger"]

def broadHandler : Mark → Option Nat
  | .handler (some type) line => if isNameAmong ["Exception"] type then some line else none
  | _ => none

def broadExceptions (outline : Outline) : List Issue :=
  outline.walkSubtrees.filterMap fun tree =>
    (broadHandler tree.label).bind fun line =>
      if tree.walk.any (callsAny loggingNames) then none
      else some ⟨.broadException, "Catching Exception without logging", some line⟩

def largeFunctions (limit : Int) (outline : Outline) : List Issue :=
  outline.walk.filterMap fun
    | .function head _ =>
      let length : Int := (head.endLine : Int) - head.line
      if !head.isAsync && limit < length then
        some ⟨.largeFunction, s!"Function '{head.name}' is too long ({length} lines)",
          some head.line⟩
      else none
    | _ => none

def largeClasses (limit : Int) (outline : Outline) : List Issue :=
  outline.walk.filterMap fun
    | .classDef head methods _ =>
      if limit < methods.length then
        some ⟨.largeClass, s!"Class '{head.name}' has too many methods ({methods.length})",
          some head.line⟩
      else none
    | _ => none

def isValidate : Mark → Bool
  | .function head _ => !head.isAsync && head.name == "validate"
  | _ => false

def validators (outline : Outline) : List Outline :=
  outline.walkSubtrees.filter fun tree => isValidate tree.label

def missingThrow (outline : Outline) : List Issue :=
  let found := validators outline
  if !found.isEmpty && !(found.any fun tree => tree.walk.any (callsAny ["throw"])) then
    [⟨.erpnextValidation, "`validate()` found but no frappe.throw() used", none⟩]
  else []

def functionLimit : Int := 80

def classLimit : Int := 30

def issuesOf (outline : Outline) : Issues where
  errors := bareExcepts outline
  warnings := broadExceptions outline ++ largeFunctions functionLimit outline ++
    largeClasses classLimit outline ++ missingThrow outline

/-! ## As values -/

def IssueKind.label : IssueKind → String
  | .bareExcept => "BareExcept"
  | .broadException => "BroadException"
  | .largeFunction => "LargeFunction"
  | .largeClass => "LargeClass"
  | .erpnextValidation => "ERPNextValidation"

def Issue.toValue (issue : Issue) : Value :=
  .ofFields [("type", .str issue.kind.label), ("message", .str issue.message),
    ("line", (issue.line.map Value.nat).getD .null)]

def Issues.fields (issues : Issues) : Fields :=
  [("errors", .list (issues.errors.map Issue.toValue)),
    ("warnings", .list (issues.warnings.map Issue.toValue))]

def Issues.toValue (issues : Issues) : Value :=
  .ofFields issues.fields

end ErpLens.Analysis
