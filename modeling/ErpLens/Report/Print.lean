import ErpLens.Json.Write
import ErpLens.Program
import ErpLens.Report.Layout

/-!
# Printing reports

What is reported arrives as values, because reports are also made from saved results: a part that is
not there counts as empty, and one of the wrong kind is a fault after what was printed before it.
-/

namespace ErpLens.Report

open Program

def keyOr (value : Value) (name : String) (default : Value) : Outcome Value :=
  value.getD (.str name) default

def sizeText (value : Value) : Outcome String :=
  return toString (← value.size)

def countAt (value : Value) (name : String) : Outcome String := do
  sizeText (← keyOr value name (.list []))

def totalCalls (relationships : Value) : Outcome Value := do
  keyOr (← keyOr relationships "stats" (.ofFields [])) "total_calls" (.int 0)

def rule : String := String.ofList (List.replicate 60 '=')

def header (title : Value) : Program Unit := do
  say ("\n" ++ bright ++ Color.cyan.paint rule)
  match title with
  | .str text => say (center 60 text)
  | _ => fail (title.noField "center")
  say (rule ++ plain ++ "\n")

def section_ (title : String) : Program Unit :=
  say (bright ++ Color.yellow.paint (">>> " ++ title) ++ plain)

def shownMethods : Int := 3

def shownFunctions : Int := 10

def shownImports : Int := 8

def classLines (entity : Value) : Program Unit := do
  let name ← entity.key "name"
  let line ← entity.key "line"
  say ("  " ++ Color.cyan.paint ("class " ++ name.text) ++
    Color.white.paint (" (line " ++ line.text ++ ")"))
  if (← entity.get "bases").truth then
    let bases ← entity.key "bases"
    say ("    " ++ Color.magenta.paint ("inherits: " ++ (← bases.joinTexts ", ")))
  if (← entity.get "methods").truth then
    let methods ← entity.key "methods"
    let count ← sizeText methods
    let shown ← methods.slice shownMethods
    say ("    " ++ Color.blue.paint
      ("methods: " ++ count ++ " → " ++ (← shown.joinTexts ", ")))

def functionLine (entity : Value) : Program Unit := do
  let args ← entity.key "args"
  let args ← args.joinTexts ", "
  let name ← entity.key "name"
  let line ← entity.key "line"
  say ("  " ++ Color.cyan.paint ("def " ++ name.text ++ "(" ++ args ++ ")") ++
    Color.white.paint (" (line " ++ line.text ++ ")"))

def importLine (entity : Value) : Program Unit := do
  let kind ← entity.key "type"
  let module ← entity.key "module"
  if kind == .str "import" then
    say ("  " ++ Color.yellow.paint ("import " ++ module.text))
  else
    let name ← entity.key "name"
    say ("  " ++ Color.yellow.paint ("from " ++ module.text ++ " import " ++ name.text))

def moreLine (items : Value) (shown : Int) (noun : String) : Program Unit := do
  let count : Int := ↑(← items.size)
  if shown < count then
    say s!"  ... and {count - shown} more {noun}"

def entities (found : Value) : Program Unit := do
  section_ "EXTRACTED ENTITIES"
  if (← found.get "classes").truth then
    let classes ← found.key "classes"
    let count ← sizeText classes
    say ("\n" ++ Color.green.paint s!"Classes ({count}):")
    (← classes.items).forM classLines
  if (← found.get "functions").truth then
    let functions ← found.key "functions"
    let count ← sizeText functions
    say ("\n" ++ Color.green.paint s!"Functions ({count}):")
    let shown ← functions.slice shownFunctions
    (← shown.items).forM functionLine
    moreLine functions shownFunctions "functions"
  if (← found.get "imports").truth then
    let imports ← found.key "imports"
    let count ← sizeText imports
    say ("\n" ++ Color.green.paint s!"Imports ({count}):")
    let shown ← imports.slice shownImports
    (← shown.items).forM importLine
    moreLine imports shownImports "imports"

def rankingLine (entry : Value) : Program Unit := do
  let (name, count) ← entry.pair
  let bar ← bar count
  let name ← column 30 name
  let count ← column 3 count
  say ("  " ++ Color.yellow.paint name ++ " " ++ Color.cyan.paint (count ++ " calls " ++ bar))

def ranking (statistics : Value) (name title : String) : Program Unit := do
  if (← statistics.get name).truth then
    say ("\n" ++ Color.green.paint title)
    let entries ← statistics.key name
    (← entries.items).forM rankingLine

def relationships (found : Value) : Program Unit := do
  section_ "CALL RELATIONSHIPS"
  let _ ← keyOr found "relationships" (.list [])
  let statistics ← keyOr found "stats" (.ofFields [])
  let total ← keyOr statistics "total_calls" (.int 0)
  say ("\n" ++ Color.cyan.paint ("Total function calls detected: " ++ total.text))
  let callers ← keyOr statistics "unique_callers" (.int 0)
  say (Color.cyan.paint ("Unique callers: " ++ callers.text))
  let callees ← keyOr statistics "unique_callees" (.int 0)
  say (Color.cyan.paint ("Unique callees: " ++ callees.text))
  ranking statistics "most_called" "Most Called Functions:"
  ranking statistics "most_calls_from" "Functions That Call Most Others:"

def assessment (text : String) : Program Unit := do
  section_ "AI ANALYSIS (Gemini)"
  say ("\n" ++ Color.lightGreen.paint text ++ plain ++ "\n")

def save (data : Value) (path : String) : Program Unit := do
  writeFile path (Json.pretty data)
  say (Color.green.paint ("✓ Saved to " ++ path))

def summaryLine (label text : String) : Program Unit :=
  say (Color.blue.paint (label ++ ": " ++ text))

def summary (path : String) (found calls : Value) : Program Unit := do
  header (.str "CODE ANALYSIS SUMMARY")
  summaryLine "File" path
  summaryLine "Classes" (← countAt found "classes")
  summaryLine "Functions" (← countAt found "functions")
  summaryLine "Imports" (← countAt found "imports")
  summaryLine "Call Relationships" (← totalCalls calls).text

def shownFiles : Nat := 10

def fileLine (entry : Value × Value) : Program Unit := do
  let name ← column 40 entry.1
  let functions ← entry.2.key "functions"
  let classes ← entry.2.key "classes"
  say ("  " ++ Color.yellow.paint name ++ " " ++
    Color.green.paint s!"({functions.text} functions, {classes.text} classes)")

def rankFiles (details : Value) : Outcome Entries := do
  let entries ← match details with
    | .dict _ entries => pure entries
    | _ => throw (details.noField "items")
  let keyed ← entries.mapM fun entry =>
    return (← entry.2.key "functions", entry)
  return (← Value.sortWith (fun a b => Value.lessThan b.1 a.1) keyed).map Prod.snd

def folderSummary (path : String) (details found calls : Value) : Program Unit := do
  header (.str "FOLDER ANALYSIS SUMMARY")
  summaryLine "Folder" path
  summaryLine "Files analyzed" (← sizeText details)
  summaryLine "Total Classes" (← countAt found "classes")
  summaryLine "Total Functions" (← countAt found "functions")
  summaryLine "Total Imports" (← countAt found "imports")
  summaryLine "Cross-file Call Relationships" (← totalCalls calls).text
  say ("\n" ++ Color.cyan.paint "Top files by function count:")
  ((← rankFiles details).take shownFiles).forM fileLine

end ErpLens.Report
