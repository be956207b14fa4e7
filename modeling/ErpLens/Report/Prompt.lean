import ErpLens.Report.Print

/-!
# Prompts

The questions about a source that are put to the language model. The short question only gives
totals and the start of the source; the long one also names the first classes and functions.
-/

namespace ErpLens.Report

open Program

def promptLine (entity : Value) : Outcome String := do
  if ← entity.contains (.str "methods") then
    let name ← entity.key "name"
    let line ← entity.key "line"
    return s!"- {name.text} (line {line.text})\n"
  else
    let name ← entity.key "name"
    let args ← keyOr entity "args" (.list [])
    let args ← args.joinTexts ", "
    let line ← entity.key "line"
    return s!"- {name.text}({args}) (line {line.text})\n"

def promptLimit : Int := 5

def listEntities (found : Value) (limit : Int) : Outcome String := do
  if !found.truth then return "None"
  let shown ← (← found.slice limit).items
  let lines ← shown.mapM promptLine
  let count : Int := ↑(← found.size)
  let rest := if limit < count then s!"- ... and {count - limit} more\n" else ""
  return String.join lines ++ rest

def longPrompt (code : String) (found calls : Value) : Outcome String := do
  let classCount ← countAt found "classes"
  let functionCount ← countAt found "functions"
  let importCount ← countAt found "imports"
  let callCount ← totalCalls calls
  let classes ← listEntities (← keyOr found "classes" (.list [])) promptLimit
  let functions ← listEntities (← keyOr found "functions" (.list [])) promptLimit
  return Text.joinLines [
    "", "You are a senior ERPNext backend engineer analyzing Python code.", "",
    "Analyze this code and provide insights:", "", "=== CODE STRUCTURE ===",
    "Classes: " ++ classCount, "Functions: " ++ functionCount, "Imports: " ++ importCount,
    "Call Relationships: " ++ callCount.text, "", "=== KEY CLASSES ===",
    classes,
    "", "=== KEY FUNCTIONS ===",
    functions,
    "", "=== SOURCE CODE ===",
    Text.take 3000 code ++ "...",
    "", "Please provide:", "1. Main purpose of this code",
    "2. Key business logic and responsibilities", "3. Important hooks or validations",
    "4. Dependencies and integrations", "5. Potential issues or improvements", "",
    "Be concise and practical.", ""]

def shortPrompt (code : String) (found calls : Value) : Outcome String := do
  let classCount ← countAt found "classes"
  let functionCount ← countAt found "functions"
  let callCount ← totalCalls calls
  return Text.joinLines [
    "You are a senior ERPNext backend engineer. Analyze this code:", "", "Classes: " ++ classCount,
    "Functions: " ++ functionCount, "Call relationships: " ++ callCount.text, "", "Code sample:",
    Text.take 2000 code ++ "...",
    "", "Provide: 1) Main purpose 2) Key logic 3) Issues 4) Improvements"]

/-- What the language model says to the long question. A fault becomes part of the answer. -/
def insights (code : String) (found calls : Value) : Program String := do
  let outcome ← attempt do
    generate (← longPrompt code found calls)
  match outcome with
  | .ok (some text) => return text
  | .ok none => return "Analysis could not be generated."
  | .error fault => return "Error getting Gemini analysis: " ++ fault.message

end ErpLens.Report
