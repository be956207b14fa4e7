import ErpLens.Value.Access

/-!
# Verdicts on a report template

What checks find in a template: errors, which make it unusable, and warnings. Checks are put
together by joining their verdicts.
-/

namespace ErpLens.Accounts.Template

structure Issue where
  message : String
  line : Value := .null
  field : Value := .null

namespace Issue

def toValue (issue : Issue) : Value :=
  .object "ValidationIssue" [("message", .str issue.message), ("row_idx", issue.line),
    ("field", issue.field), ("details", .dict .plain [])]

def describe (issue : Value) : Outcome String := do
  let line ← issue.field "row_idx"
  let field ← issue.field "field"
  let place := if line.truth then s!"Row {line.text}: " else ""
  let part := if field.truth then s!"[{field.text}] " else ""
  return place ++ part ++ (← issue.field "message").text

end Issue

structure Verdict (α : Type) where
  errors : List α := []
  warnings : List α := []

namespace Verdict

variable {α : Type}

def merge (first second : Verdict α) : Verdict α :=
  ⟨first.errors ++ second.errors, first.warnings ++ second.warnings⟩

def isValid (verdict : Verdict α) : Bool :=
  verdict.errors.isEmpty

def hasWarnings (verdict : Verdict α) : Bool :=
  !verdict.warnings.isEmpty

def error (found : α) : Verdict α := ⟨[found], []⟩

def all (verdicts : List (Verdict α)) : Verdict α :=
  verdicts.foldl merge {}

def ofValue (value : Value) : Outcome (Verdict Value) := do
  return ⟨← (← value.field "issues").items, ← (← value.field "warnings").items⟩

def toValue (verdict : Verdict Value) : Value :=
  .object "ValidationResult" [("issues", .list verdict.errors), ("warnings", .list verdict.warnings)]

def ofIssues (verdict : Verdict Issue) : Value :=
  toValue ⟨verdict.errors.map Issue.toValue, verdict.warnings.map Issue.toValue⟩

end Verdict

end ErpLens.Accounts.Template
