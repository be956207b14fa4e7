import ErpLens.Analysis.Session
import ErpLens.Report.Prompt

/-!
# Analysing one file

Both tools find the entities, calls and issues of a file, print them and ask the language model;
each has its own question, does its own thing when the model fails, and saves its own results.
-/

namespace ErpLens.Command

open Program Report Analysis

inductive Tool where
  | suite
  | analyzer
deriving Repr, DecidableEq

def runExtraction (step : Extraction) : Program Extractor := do
  step.printed.forM say
  match step.fault with
  | some fault => fail fault
  | none => return step.extractor

def issueLine (color : Color) (sign : String) (issue : Issue) : String :=
  let line := (issue.line.map toString).getD "None"
  color.paint s!"  {sign} {issue.kind.label} (line {line}): {issue.message}"

def Issues.isEmpty (issues : Issues) : Bool :=
  issues.errors.isEmpty && issues.warnings.isEmpty

def noIssues : String :=
  Color.green.paint "✓ No structural issues detected"

def modelLine : String :=
  Color.yellow.paint "Getting AI insights from Gemini..."

def fileResults : String := "analysis_output.json"

namespace Suite

def analyzeFile (path : String) (saving : Bool) : Program Unit := do
  say (Color.cyan.paint s!"Analyzing: {path}\n")
  say (Color.yellow.paint "[1/3] Extracting code structure...")
  let extractor ← runExtraction (extractFile (← files) {} path)
  let entities := extractor.entities.toValue
  say (Color.yellow.paint "[2/3] Detecting call relationships...")
  let code ← readSource path
  let relationships := (CallDetector.detect {} code).2
  say (Color.yellow.paint "[2.5/3] Detecting potential issues...")
  let issues ← Issues.analyze {} code
  say (Color.yellow.paint "[3/3] Generating analysis...\n")
  Report.summary path entities relationships
  Report.entities entities
  Report.relationships relationships
  if !issues.errors.isEmpty || !issues.warnings.isEmpty then
    say ("\n" ++ Color.red.paint ">>> DETECTED ISSUES")
    issues.errors.forM fun issue => say (issueLine .red "❌" issue)
    issues.warnings.forM fun issue => say (issueLine .yellow "⚠️" issue)
  else say noIssues
  say modelLine
  let reply ← generate (← shortPrompt code entities relationships)
  Report.assessment (reply.getD "No analysis")
  if saving then
    Report.save (.ofFields [("file", .str path), ("entities", entities),
      ("relationships", relationships), ("issues", issues.toValue)]) fileResults
  say (Color.green.paint "\n✓ Analysis complete!\n")

end Suite

namespace Analyzer

def analyzeFile (path : String) (saving : Bool) : Program Unit := do
  say (Color.cyan.paint s!"Analyzing: {path}\n")
  say (Color.yellow.paint "[1/3] Extracting code structure...")
  let extractor ← runExtraction (extractFile (← files) {} path)
  let entities := extractor.entities.toValue
  say (Color.yellow.paint "[2/3] Detecting call relationships...")
  let code ← readSource path
  let relationships := (CallDetector.detect {} code).2
  say (Color.yellow.paint "[2.5/3] Detecting potential issues...")
  let issues ← Issues.analyze {} code
  say (Color.yellow.paint "[3/3] Generating analysis...\n")
  Report.summary path entities relationships
  Report.entities entities
  Report.relationships relationships
  if !issues.errors.isEmpty || !issues.warnings.isEmpty then
    say ("\n" ++ Color.red.paint ">>> DETECTED ISSUES")
    issues.errors.forM fun issue => say (issueLine .red "❌" issue)
    issues.warnings.forM fun issue => say (issueLine .yellow "⚠️" issue)
  else say noIssues
  say modelLine
  let insights ← Report.insights code entities relationships
  Report.assessment insights
  if saving then
    Report.save (.ofFields [("file", .str path), ("entities", entities),
      ("relationships", relationships), ("ai_analysis", .str insights),
      ("issues", issues.toValue)]) fileResults
  say (Color.green.paint "\n✓ Analysis complete!\n")

end Analyzer

def analyzeFile : Tool → String → Bool → Program Unit
  | .suite => Suite.analyzeFile
  | .analyzer => Analyzer.analyzeFile

end ErpLens.Command
