import ErpLens.Command.AnalyzeFolder
import ErpLens.Proofs.EntityListing
import ErpLens.Proofs.Fields
import ErpLens.Proofs.FileTrees
import ErpLens.Proofs.ProgramRuns
import Mathlib

/-!
# The files of a folder do not disturb each other

One extractor and one call detector are used for all files, and a file that fails is passed over.
`Gathered` says what the files give alone; the loop of either tool keeps its variables in step with
exactly that.
-/

open List

namespace ErpLens.Command

variable {disk : Files.Disk} {folder path name code : String}

open Program Report Analysis Source

/-! ## What files give -/

/-- What one file of a folder gives. -/
structure FileFindings where
  path : String
  entities : FileEntities
  totalCalls : Nat
  issues : Issues

/-- What the files of a folder give, one after the other. -/
abbrev Findings := List FileFindings

namespace FileFindings

variable (found : FileFindings)

def classValues : List Value :=
  found.entities.classes.map fun entity => tagged found.path entity.fields

def functionValues : List Value :=
  found.entities.functions.map fun entity => tagged found.path entity.fields

def importValues : List Value :=
  found.entities.imports.map fun entity => tagged found.path entity.fields

def issueValue : Value :=
  .ofFields [("file", .str found.path),
    ("errors", .list (found.issues.errors.map Issue.toValue)),
    ("warnings", .list (found.issues.warnings.map Issue.toValue))]

/-- The numbers that a tool keeps for a file. Only the analyser counts imports. -/
def counts (tool : Tool) : Value :=
  .ofFields ([("classes", .nat found.entities.classes.length),
    ("functions", .nat found.entities.functions.length)] ++
    match tool with
    | .analyzer => [("imports", .nat found.entities.imports.length)]
    | .suite => [])

end FileFindings

namespace Findings

variable (tool : Tool) (findings : Findings)

/-- The numbers of calls, file by file. -/
def detailFields : Fields :=
  findings.map fun found => (found.path, found.counts tool)

def details : Value :=
  .ofFields (findings.detailFields tool)

/-- The entities of all files. Only the analyser keeps imports. -/
def entities : Value :=
  .ofFields [("classes", .list (findings.flatMap FileFindings.classValues)),
    ("functions", .list (findings.flatMap FileFindings.functionValues)),
    ("imports", .list (match tool with
      | .analyzer => findings.flatMap FileFindings.importValues
      | .suite => []))]

def totalCalls : Nat :=
  (findings.map (·.totalCalls)).sum

/-- Statistics that give a number of calls and nothing else. -/
def namelessStatistics (total : Nat) : Value :=
  .ofFields [("total_calls", .nat total), ("unique_callers", .nat 0), ("unique_callees", .nat 0),
    ("most_called", .list [])]

/-- What a tool says of the calls in all files. It lists none; only the analyser counts them. -/
def relationships : Value :=
  .ofFields [("calls", .list []), ("stats", match tool with
    | .analyzer => namelessStatistics findings.totalCalls
    | .suite => .ofFields [("total_calls", .nat 0)])]

def issues : Value :=
  .list (findings.map FileFindings.issueValue)

end Findings

/-! ## One file alone -/

/-- What a file gives to analyses that have seen nothing before. -/
def foundIn (disk : Files.Disk) (path name code : String) (issues : Issues) : FileFindings where
  path := name
  entities := (extractFile disk {} path).extractor.entities
  totalCalls := (CallDetector.detect {} code).1.records.length
  issues

/-- What a file gives to analyses that have seen nothing before. -/
def fileAlone (disk : Files.Disk) (folder path : String) : Option FileFindings :=
  match Files.readSource disk path with
  | .error _ => none
  | .ok code =>
    match (extractFile disk {} path).fault, Issues.analyze {} code with
    | none, .ok issues => some (foundIn disk path (Files.nameIn disk folder path) code issues)
    | _, _ => none

/-- What the files give that do not fail. -/
def gather (disk : Files.Disk) (folder : String) (paths : List String) : Findings :=
  paths.filterMap (fileAlone disk folder)

/-- Why a file gives nothing, and what the extractor prints on the way. -/
inductive FailsWith (disk : Files.Disk) (path : String) : List String → Fault → Prop
  | unread {fault : Fault} (unread : Files.readSource disk path = .error fault) :
      FailsWith disk path [] fault
  | unshown {code : String} {fault : Fault} (read : Files.readSource disk path = .ok code)
      (stopped : (extractFile disk {} path).fault = some fault) :
      FailsWith disk path (extractFile disk {} path).printed fault
  | refused {code : String} {fault : Fault} (read : Files.readSource disk path = .ok code)
      (finished : (extractFile disk {} path).fault = none)
      (refused : Issues.analyze {} code = .error fault) :
      FailsWith disk path (extractFile disk {} path).printed fault

/-- A file that gives something. -/
structure IsTaken (disk : Files.Disk) (path code : String) (issues : Issues) : Prop where
  read : Files.readSource disk path = .ok code
  finished : (extractFile disk {} path).fault = none
  analyzed : Issues.analyze {} code = .ok issues

theorem FailsWith.fileAlone_eq_none {lines : List String} {fault : Fault}
    (fails : FailsWith disk path lines fault) (folder : String) :
    fileAlone disk folder path = none := by
  cases fails with
  | unread unread => simp only [fileAlone, unread]
  | unshown read stopped => simp only [fileAlone, read, stopped]
  | refused read finished refused => simp only [fileAlone, read, finished, refused]

theorem IsTaken.fileAlone_eq_some {issues : Issues} (taken : IsTaken disk path code issues)
    (folder : String) : fileAlone disk folder path =
      some (foundIn disk path (Files.nameIn disk folder path) code issues) := by
  simp only [fileAlone, taken.read, taken.finished, taken.analyzed]

theorem fails_or_isTaken (disk : Files.Disk) (path : String) :
    (∃ lines fault, FailsWith disk path lines fault) ∨
      ∃ code issues, IsTaken disk path code issues := by
  cases read : Files.readSource disk path with
  | error fault => exact .inl ⟨_, _, .unread read⟩
  | ok code =>
    cases finished : (extractFile disk {} path).fault with
    | some fault => exact .inl ⟨_, _, .unshown read finished⟩
    | none =>
      cases analyzed : Issues.analyze {} code with
      | error fault => exact .inl ⟨_, _, .refused read finished analyzed⟩
      | ok issues => exact .inr ⟨code, issues, read, finished, analyzed⟩

/-- What the sources at some paths give, each read by analyses that have seen nothing before. -/
inductive Gathered (disk : Files.Disk) (folder : String) : List String → Findings → Prop
  | nil : Gathered disk folder [] []
  | taken {path code : String} {tree : Module} {issues : Issues} {paths : List String}
      {findings : Findings} (read : Files.readSource disk path = .ok code)
      (parsed : parse code = .ok tree) (shown : tree.Shown)
      (analyzed : Issues.analyze {} code = .ok issues)
      (rest : Gathered disk folder paths findings) :
      Gathered disk folder (path :: paths)
        ({ path := Files.nameIn disk folder path
           entities := (extractFile disk {} path).extractor.entities
           totalCalls := (CallDetector.detect {} code).1.records.length
           issues } :: findings)
  | rejected {path code : String} {fault : SyntaxFault} {paths : List String}
      {findings : Findings} (read : Files.readSource disk path = .ok code)
      (refused : parse code = .error fault) (rest : Gathered disk folder paths findings) :
      Gathered disk folder (path :: paths) findings
  | unshown {path code : String} {tree : Module} {paths : List String} {findings : Findings}
      (read : Files.readSource disk path = .ok code) (parsed : parse code = .ok tree)
      (notShown : ¬ tree.Shown) (rest : Gathered disk folder paths findings) :
      Gathered disk folder (path :: paths) findings

section

variable (read : Files.readSource disk path = .ok code)

include read

theorem fault_extractFile_eq_none_iff {tree : Module} (parsed : parse code = .ok tree) :
    (extractFile disk {} path).fault = none ↔ tree.Shown := by
  simp only [extractFile, read]
  exact fault_extractSource_eq_none_iff path parsed

theorem failsWith_of_error {fault : SyntaxFault} (refused : parse code = .error fault) :
    FailsWith disk path (extractFile disk {} path).printed (syntaxFault fault) := by
  have unlined : outlineOf code = .error fault := by
    rw [outlineOf, refused]
    rfl
  refine .refused read ?_ ?_
  · simp only [extractFile, read, extractSource, unlined]
  · rw [Issues.analyze, unlined]

theorem exists_failsWith_of_not_shown {tree : Module} (parsed : parse code = .ok tree)
    (notShown : ¬ tree.Shown) :
    ∃ fault, FailsWith disk path (extractFile disk {} path).printed fault := by
  rcases Option.ne_none_iff_exists'.mp
    (mt (fault_extractFile_eq_none_iff read parsed).mp notShown) with ⟨fault, stopped⟩
  exact ⟨fault, .unshown read stopped⟩

theorem isTaken_of_shown {tree : Module} (parsed : parse code = .ok tree) (shown : tree.Shown) :
    IsTaken disk path code (issuesOf tree.outline) :=
  ⟨read, (fault_extractFile_eq_none_iff read parsed).mpr shown,
    analyze_of_outline (outlineOf_of_parse parsed)⟩

end

theorem gathered {paths : List String}
    (readable : ∀ path ∈ paths, ∃ code, Files.readSource disk path = .ok code) (folder : String) :
    Gathered disk folder paths (gather disk folder paths) := by
  induction paths with
  | nil => exact .nil
  | cons path others ih =>
    have rest := ih fun other otherMem => readable other (mem_cons_of_mem _ otherMem)
    rcases readable path mem_cons_self with ⟨code, read⟩
    rw [gather, filterMap_cons]
    cases parsed : parse code with
    | error fault =>
      rw [(failsWith_of_error read parsed).fileAlone_eq_none]
      exact .rejected read parsed rest
    | ok tree =>
      by_cases shown : tree.Shown
      · have taken := isTaken_of_shown read parsed shown
        rw [taken.fileAlone_eq_some]
        exact .taken read parsed shown taken.analyzed rest
      · rcases exists_failsWith_of_not_shown read parsed shown with ⟨fault, fails⟩
        rw [fails.fileAlone_eq_none]
        exact .unshown read parsed shown rest

theorem Gathered.paths_sublist {paths : List String} {findings : Findings}
    (gathered : Gathered disk folder paths findings) :
    (findings.map (·.path)).Sublist (paths.map (Files.nameIn disk folder)) := by
  induction gathered with
  | nil => exact .slnil
  | taken _ _ _ _ _ ih => exact ih.cons_cons _
  | rejected _ _ _ ih => exact ih.cons _
  | unshown _ _ _ _ ih => exact ih.cons _

/-! ## The lines for a file -/

def progressLine (count index : Nat) (name : String) : String :=
  s!"  [{index}/{count}] {name}"

def errorLine (name : String) (fault : Fault) : String :=
  Color.red.paint s!"    Error in {name}: " ++ fault.message

/-- The lines that are printed while a file is analysed: its number and name, what the extractor
prints, and why it fails, if it does. -/
def fileLines (disk : Files.Disk) (folder : String) (count index : Nat) (path : String) :
    List String :=
  let name := Files.nameIn disk folder path
  progressLine count index name ::
    match Files.readSource disk path with
    | .error fault => [errorLine name fault]
    | .ok code =>
      (extractFile disk {} path).printed ++
        match (extractFile disk {} path).fault, Issues.analyze {} code with
        | some fault, _ => [errorLine name fault]
        | none, .error fault => [errorLine name fault]
        | none, .ok _ => []

theorem FailsWith.fileLines_eq {lines : List String} {fault : Fault}
    (fails : FailsWith disk path lines fault) (folder : String) (count index : Nat) :
    fileLines disk folder count index path =
      [progressLine count index (Files.nameIn disk folder path)] ++ lines ++
        [errorLine (Files.nameIn disk folder path) fault] := by
  cases fails with
  | unread unread => simp only [fileLines, unread, append_nil, singleton_append]
  | unshown read stopped => simp only [fileLines, read, stopped, cons_append, nil_append]
  | refused read finished refused =>
    simp only [fileLines, read, finished, refused, cons_append, nil_append]

theorem IsTaken.fileLines_eq {issues : Issues} (taken : IsTaken disk path code issues)
    (folder : String) (count index : Nat) :
    fileLines disk folder count index path =
      [progressLine count index (Files.nameIn disk folder path)] ++
        (extractFile disk {} path).printed := by
  simp only [fileLines, taken.read, taken.finished, taken.analyzed, append_nil, singleton_append]

/-! ## One file in the loop -/

theorem runsFrom_runExtraction (step : Extraction) :
    RunsFrom disk (runExtraction step) step.printed
      (match step.fault with
        | some fault => .error fault
        | none => .ok step.extractor) := by
  intro workspace _
  rw [runExtraction, runIn_bind_ok (runIn_forM_say step.printed workspace)]
  cases step.fault <;> rfl

theorem runsFrom_runExtraction_of_finished {step : Extraction} (finished : step.fault = none) :
    RunsFrom disk (runExtraction step) step.printed (.ok step.extractor) := by
  have extracted := @runsFrom_runExtraction disk step
  rwa [finished] at extracted

theorem runsFrom_runExtraction_of_fault {step : Extraction} {fault : Fault}
    (stopped : step.fault = some fault) :
    RunsFrom disk (runExtraction step) step.printed (.error fault) := by
  have extracted := @runsFrom_runExtraction disk step
  rwa [stopped] at extracted

theorem put_of_not_mem {α : Type} {table : List (String × α)}
    (fresh : name ∉ table.map Prod.fst) (value : α) :
    Analysis.put name value table = table ++ [(name, value)] := by
  induction table with
  | nil => rfl
  | cons entry rest ih =>
    simp only [map_cons, mem_cons, not_or] at fresh
    rw [Analysis.put, if_neg (by simpa using Ne.symm fresh.1), ih fresh.2, cons_append]

theorem put_detailFields {findings : Findings} {found : FileFindings}
    (fresh : found.path ∉ findings.map (·.path)) (tool : Tool) :
    Analysis.put found.path (found.counts tool) (findings.detailFields tool) =
      (findings ++ [found]).detailFields tool := by
  rw [put_of_not_mem (by simpa [Findings.detailFields] using fresh)]
  simp [Findings.detailFields]

/-- Variables that hold what some files give alone, whatever the analyses have seen so far, and a
part of the loop that keeps them so for one more file. -/
structure TakesFile {σ : Type} (disk : Files.Disk)
    (totalsOf : Extractor → CallDetector → Findings → σ)
    (take : String → String → Procedure σ Unit) : Prop where
  fails : ∀ {path : String} {lines : List String} {fault : Fault},
    FailsWith disk path lines fault → ∀ name extractor detector findings, ∃ next after,
      Procedure.Takes disk (take path name) (totalsOf extractor detector findings) lines
        (.error fault) (totalsOf next after findings)
  takes : ∀ {path code : String} {issues : Issues}, IsTaken disk path code issues →
    ∀ name extractor detector findings, name ∉ findings.map FileFindings.path → ∃ next after,
      Procedure.Takes disk (take path name) (totalsOf extractor detector findings)
        (extractFile disk {} path).printed (.ok ())
        (totalsOf next after (findings ++ [foundIn disk path name code issues]))

namespace Suite

/-- The variables of the suite after files that give some findings. -/
def totalsOf (extractor : Extractor) (detector : CallDetector) (findings : Findings) : Totals where
  extractor
  detector
  classes := findings.flatMap FileFindings.classValues
  functions := findings.flatMap FileFindings.functionValues
  issues := findings.map FileFindings.issueValue
  details := findings.detailFields .suite

theorem takesFile_takeFile : TakesFile disk totalsOf takeFile where
  fails := by
    intro path lines fault fails name extractor detector findings
    cases fails with
    | unread unread => exact ⟨extractor, detector, .stop (.lift (.readSource unread))⟩
    | unshown read stopped =>
      refine ⟨(extractFile disk {} path).extractor, detector, ?_⟩
      refine .bind_silent (.lift (.readSource read)) (.bind_silent (.lift .files) ?_)
      refine .bind_silent .fetch ?_
      rw [extractFile_of_read read]
      exact .bind_silent (.update _) (.stop (.lift (runsFrom_runExtraction_of_fault stopped)))
    | @refused code _ read finished refused =>
      refine ⟨(extractFile disk {} path).extractor, (detector.detect code).1, ?_⟩
      rw [← append_nil (extractFile disk {} path).printed]
      refine .bind_silent (.lift (.readSource read)) (.bind_silent (.lift .files) ?_)
      refine .bind_silent .fetch ?_
      rw [extractFile_of_read read]
      refine .bind_silent (.update _) ?_
      refine .bind (.lift (runsFrom_runExtraction_of_finished finished)) ?_
      refine .bind_silent .fetch (.bind_silent (.update _) ?_)
      rw [refused]
      exact .stop (.lift_except _)
  takes := by
    intro path code issues taken name extractor detector findings fresh
    refine ⟨(extractFile disk {} path).extractor, (detector.detect code).1, ?_⟩
    rw [← append_nil (extractFile disk {} path).printed]
    refine .bind_silent (.lift (.readSource taken.read)) (.bind_silent (.lift .files) ?_)
    refine .bind_silent .fetch ?_
    rw [extractFile_of_read taken.read]
    refine .bind_silent (.update _) ?_
    refine .bind (.lift (runsFrom_runExtraction_of_finished taken.finished)) ?_
    refine .bind_silent .fetch (.bind_silent (.update _) ?_)
    rw [taken.analyzed]
    refine .bind_silent (.lift_except _) (.bind_silent (.update _) ?_)
    refine .bind_silent (.forM_collect (fun (classes : List Value) (totals : Totals) =>
      { totals with classes := totals.classes ++ classes }) (by simp) (by simp)
      (fun entity : ClassEntity => tagged name entity.fields) _ _) ?_
    refine .bind_silent (.forM_collect (fun (functions : List Value) (totals : Totals) =>
      { totals with functions := totals.functions ++ functions }) (by simp) (by simp)
      (fun entity : FunctionEntity => tagged name entity.fields) _ _) ?_
    refine .update_to ?_
    rw [totalsOf, totalsOf, ← put_detailFields (by exact fresh)]
    simp only [flatMap_append, map_append, flatMap_singleton, map_singleton]
    rfl

end Suite

namespace Analyzer

/-- The variables of the analyser after files that give some findings. -/
def totalsOf (extractor : Extractor) (detector : CallDetector) (findings : Findings) : Totals where
  extractor
  detector
  classes := findings.flatMap FileFindings.classValues
  functions := findings.flatMap FileFindings.functionValues
  imports := findings.flatMap FileFindings.importValues
  totalCalls := .nat findings.totalCalls
  issues := findings.map fun found => (found.path, found.issues)
  details := findings.detailFields .analyzer

/-- The report on a file that is taken gives the number of its calls, and has nothing under the key
where the analyser looks for them. -/
theorem report_of_isTaken {issues : Issues} (taken : IsTaken disk path code issues)
    (detector : CallDetector) :
    keyOr (detector.detect code).2 "calls" (.list []) = .ok (.list []) ∧
      Report.totalCalls (detector.detect code).2 =
        .ok (.nat (CallDetector.detect {} code).1.records.length) := by
  cases outlined : outlineOf code with
  | error fault =>
    have analyzed := taken.analyzed
    simp [Issues.analyze, outlined] at analyzed
  | ok outline =>
    have counted : (CallDetector.detect {} code).1.records = callRecords outline := by
      rw [CallDetector.detect, outlined]
    rw [report_detect outlined, counted]
    refine ⟨Value.getD_ofFields_of_none rfl _, ?_⟩
    have stats : keyOr (callReport (some (callRecords outline))) "stats" (.ofFields []) =
        .ok (callStatistics (callRecords outline)) := Value.getD_ofFields rfl _
    rw [Report.totalCalls, stats, ok_bind, callStatistics]
    split <;> exact Value.getD_ofFields rfl _

theorem takesFile_takeFile : TakesFile disk totalsOf takeFile where
  fails := by
    intro path lines fault fails name extractor detector findings
    cases fails with
    | unread unread => exact ⟨extractor, detector, .stop (.lift (.readSource unread))⟩
    | unshown read stopped =>
      refine ⟨(extractFile disk {} path).extractor, detector, ?_⟩
      refine .bind_silent (.lift (.readSource read)) (.bind_silent (.lift .files) ?_)
      refine .bind_silent .fetch ?_
      rw [extractFile_of_read read]
      exact .bind_silent (.update _) (.stop (.lift (runsFrom_runExtraction_of_fault stopped)))
    | @refused code _ read finished refused =>
      refine ⟨(extractFile disk {} path).extractor, (detector.detect code).1, ?_⟩
      rw [← append_nil (extractFile disk {} path).printed]
      refine .bind_silent (.lift (.readSource read)) (.bind_silent (.lift .files) ?_)
      refine .bind_silent .fetch ?_
      rw [extractFile_of_read read]
      refine .bind_silent (.update _) ?_
      refine .bind (.lift (runsFrom_runExtraction_of_finished finished)) ?_
      refine .bind_silent .fetch (.bind_silent (.update _) ?_)
      rw [refused]
      exact .stop (.lift_except _)
  takes := by
    intro path code issues taken name extractor detector findings fresh
    rcases report_of_isTaken taken detector with ⟨noCalls, counted⟩
    refine ⟨(extractFile disk {} path).extractor, (detector.detect code).1, ?_⟩
    rw [← append_nil (extractFile disk {} path).printed]
    refine .bind_silent (.lift (.readSource taken.read)) (.bind_silent (.lift .files) ?_)
    refine .bind_silent .fetch ?_
    rw [extractFile_of_read taken.read]
    refine .bind_silent (.update _) ?_
    refine .bind (.lift (runsFrom_runExtraction_of_finished taken.finished)) ?_
    refine .bind_silent .fetch (.bind_silent (.update _) ?_)
    rw [taken.analyzed]
    refine .bind_silent (.lift_except _) (.bind_silent (.update _) ?_)
    refine .bind_silent (.forM_collect (fun (classes : List Value) (totals : Totals) =>
      { totals with classes := totals.classes ++ classes }) (by simp) (by simp)
      (fun entity : ClassEntity => tagged name entity.fields) _ _) ?_
    refine .bind_silent (.forM_collect (fun (functions : List Value) (totals : Totals) =>
      { totals with functions := totals.functions ++ functions }) (by simp) (by simp)
      (fun entity : FunctionEntity => tagged name entity.fields) _ _) ?_
    refine .bind_silent (.forM_collect (fun (imports : List Value) (totals : Totals) =>
      { totals with imports := totals.imports ++ imports }) (by simp) (by simp)
      (fun entity : ImportEntity => tagged name entity.fields) _ _) ?_
    -- There is no call to go over, and the number of calls is added to that of the files before.
    dsimp only [totalsOf]
    rw [noCalls]
    refine .bind_silent (.lift_except _) (.bind_silent (.lift_except _) (.bind_silent (.pure _) ?_))
    refine .bind_silent .fetch ?_
    rw [counted]
    refine .bind_silent (.lift_except _) (.bind_silent (.lift_except _) ?_)
    refine .bind_silent (.update _) (.update_to ?_)
    have counts : Findings.totalCalls (findings ++ [foundIn disk path name code issues]) =
        findings.totalCalls + (CallDetector.detect {} code).1.records.length := by
      simp [Findings.totalCalls, foundIn]
    rw [← put_detailFields (by exact fresh), counts]
    simp only [flatMap_append, map_append, flatMap_singleton, map_singleton]
    rfl

end Analyzer

/-! ## All files -/

section

variable {σ : Type} {totalsOf : Extractor → CallDetector → Findings → σ}
  {take : String → String → Procedure σ Unit}

/-- What both tools put around the part of the loop that takes a file. -/
def guarded (take : String → String → Procedure σ Unit) (folder : String) (count index : Nat)
    (path : String) : Procedure σ Unit := do
  let name := Files.nameIn (← files) folder path
  try
    say s!"  [{index}/{count}] {name}"
    take path name
  catch fault =>
    say (Color.red.paint s!"    Error in {name}: " ++ fault.message)

namespace TakesFile

variable (takesFile : TakesFile disk totalsOf take)

include takesFile

/-- A file in the loop adds to the variables what it gives alone, and prints its lines. A fault
leaves the variables as they were. -/
theorem exists_takes_guarded (folder : String) (count index : Nat) (path : String)
    (extractor : Extractor) (detector : CallDetector) {findings : Findings}
    (fresh : Files.nameIn disk folder path ∉ findings.map (·.path)) :
    ∃ next after, Procedure.Takes disk (guarded take folder count index path)
      (totalsOf extractor detector findings) (fileLines disk folder count index path) (.ok ())
      (totalsOf next after (findings ++ (fileAlone disk folder path).toList)) := by
  rcases fails_or_isTaken disk path with ⟨lines, fault, fails⟩ | ⟨code, issues, taken⟩
  · rcases takesFile.fails fails (Files.nameIn disk folder path) extractor detector findings with
      ⟨next, after, stopped⟩
    rw [fails.fileAlone_eq_none, fails.fileLines_eq, Option.toList_none, append_nil]
    refine ⟨next, after, .bind_silent (.lift .files) ?_⟩
    exact .tryCatch_of_error (.bind (.lift (.say _)) stopped) (.lift (.say _))
  · rcases takesFile.takes taken _ extractor detector findings fresh with ⟨next, after, took⟩
    rw [taken.fileAlone_eq_some, taken.fileLines_eq, Option.toList_some]
    refine ⟨next, after, .bind_silent (.lift .files) ?_⟩
    exact .tryCatch_of_ok (.bind (.lift (.say _)) took)

/-- The loop over some files adds to the variables what each of them gives alone. -/
theorem exists_takes_forM {paths : List String} (count index : Nat) (extractor : Extractor)
    (detector : CallDetector) (findings : Findings)
    (distinct : (findings.map (·.path) ++ paths.map (Files.nameIn disk folder)).Nodup) :
    ∃ next after, Procedure.Takes disk
      ((paths.zipIdx index).forM fun entry => guarded take folder count entry.2 entry.1)
      (totalsOf extractor detector findings)
      ((paths.zipIdx index).flatMap fun entry => fileLines disk folder count entry.2 entry.1)
      (.ok ()) (totalsOf next after (findings ++ gather disk folder paths)) := by
  induction paths generalizing index extractor detector findings with
  | nil => exact ⟨extractor, detector, by simpa [gather] using .pure ()⟩
  | cons path rest ih =>
    have fresh : Files.nameIn disk folder path ∉ findings.map (·.path) := fun mem =>
      (disjoint_of_nodup_append distinct) mem (by simp)
    rcases takesFile.exists_takes_guarded folder count index path extractor detector fresh with
      ⟨next, after, first⟩
    have split : findings ++ gather disk folder (path :: rest) =
        findings ++ (fileAlone disk folder path).toList ++ gather disk folder rest := by
      rw [gather, filterMap_cons]
      cases fileAlone disk folder path <;> simp [gather]
    have restDistinct : ((findings ++ (fileAlone disk folder path).toList).map (·.path) ++
        rest.map (Files.nameIn disk folder)).Nodup := by
      refine distinct.sublist ?_
      rw [map_append, map_cons, append_assoc]
      refine .append (.refl _) ?_
      rcases fails_or_isTaken disk path with ⟨_, _, fails⟩ | ⟨_, _, taken⟩
      · simp [fails.fileAlone_eq_none]
      · simp [taken.fileAlone_eq_some, foundIn]
    rcases ih (index + 1) next after _ restDistinct with ⟨last, end_, later⟩
    rw [split]
    exact ⟨last, end_, .bind first later⟩

/-- The variables after all files hold what the files give alone. -/
theorem exists_performs {paths : List String}
    (distinct : (paths.map (Files.nameIn disk folder)).Nodup) :
    ∃ extractor detector, RunsFrom disk
      (Procedure.perform ((paths.zipIdx 1).forM fun entry =>
        guarded take folder paths.length entry.2 entry.1) (totalsOf {} {} []))
      ((paths.zipIdx 1).flatMap fun entry => fileLines disk folder paths.length entry.2 entry.1)
      (.ok (totalsOf extractor detector (gather disk folder paths))) := by
  rcases takesFile.exists_takes_forM paths.length 1 {} {} [] distinct with
    ⟨extractor, detector, looped⟩
  exact ⟨extractor, detector, looped.perform⟩

end TakesFile

end

/-! ## From the loop to the reports -/

/-- What a tool saves for a folder. -/
def resultsOf (tool : Tool) (folder : String) (count : Nat) (findings : Findings)
    (insights : String) : Value :=
  .ofFields ([("folder", .str folder), ("files_analyzed", .nat count),
    ("file_details", findings.details tool), ("entities", findings.entities tool)] ++
    (match tool with
      | .analyzer => [("relationships", findings.relationships tool),
        ("ai_analysis", .str insights)]
      | .suite => []) ++
    [("issues", findings.issues)])

/-- The analyser makes the issues of a file ready for saving only when it saves them. -/
theorem resultsOf_analyzer (folder : String) (count : Nat) (findings : Findings) :
    resultsOf .analyzer folder count findings = fun insights =>
      .ofFields [("folder", .str folder), ("files_analyzed", .nat count),
        ("file_details", findings.details .analyzer), ("entities", findings.entities .analyzer),
        ("relationships", findings.relationships .analyzer), ("ai_analysis", .str insights),
        ("issues", .list ((findings.map fun found => (found.path, found.issues)).map fun entry =>
          .ofFields [("file", .str entry.1),
            ("errors", .list (entry.2.errors.map Issue.toValue)),
            ("warnings", .list (entry.2.warnings.map Issue.toValue))]))] := by
  rw [map_map]
  rfl

def generatingLine : String := "\n" ++ Color.yellow.paint "[3/3] Generating analysis...\n"

def folderCompleteLine : String := Color.green.paint "\n✓ Folder analysis complete!\n"

/-- What a tool does with the findings of a folder. -/
def presentFolder (tool : Tool) (folder : String) (saving : Bool) (paths : List String)
    (findings : Findings) : Program Unit :=
  match tool with
  | .suite => do
    say generatingLine
    Report.folderSummary folder (findings.details .suite) (findings.entities .suite)
      (findings.relationships .suite)
    Report.entities (findings.entities .suite)
    say folderCompleteLine
    if saving then Report.save (resultsOf .suite folder paths.length findings "") folderResults
  | .analyzer => do
    say generatingLine
    Report.folderSummary folder (findings.details .analyzer) (findings.entities .analyzer)
      (findings.relationships .analyzer)
    Report.entities (findings.entities .analyzer)
    Report.relationships (findings.relationships .analyzer)
    say ("\n" ++ Color.yellow.paint ">>> DETECTED ISSUES")
    Analyzer.showIssues (findings.map fun found => (found.path, found.issues))
    say modelLine
    let code ← Analyzer.sampleSources paths
    let insights ← Report.insights code (findings.entities .analyzer)
      (findings.relationships .analyzer)
    Report.assessment insights
    if saving then
      Report.save (resultsOf .analyzer folder paths.length findings insights) folderResults
    say folderCompleteLine

/-- What is printed until all files of a folder are analysed. -/
def inspectionLines (disk : Files.Disk) (tool : Tool) (folder : String) : List String :=
  let paths := Files.findSources disk folder
  [Color.cyan.paint s!"Analyzing folder: {folder}\n",
    Color.green.paint s!"Found {paths.length} Python files\n"] ++
  (match tool with
    | .analyzer => [Color.yellow.paint "[1/3] Extracting code structure from all files..."]
    | .suite => []) ++
  [Color.yellow.paint "[1/3] Analyzing files..."] ++
  (paths.zipIdx 1).flatMap fun entry => fileLines disk folder paths.length entry.2 entry.1

theorem statistics_nil (total : Nat) :
    Analyzer.statistics (.nat total) [] = .ok (Findings.namelessStatistics total) := by
  have noRanking : rankingValue (mostFrequent rankedNames []) = .list [] := by
    simp [mostFrequent, Analysis.ranking, tally, Value.takeTo, rankingValue]
  have noNames (key : String) : Analyzer.namesAt key [] = .ok [] := rfl
  rw [Analyzer.statistics, noNames, ok_bind, noNames, ok_bind, noRanking]
  rfl

/-- In a folder with sources a tool prints the lines of all files, and then does with what they give
alone what it does with findings. -/
theorem leadsTo_presentFolder (isFolder : Files.isDirectory disk folder = true)
    (someSource : Files.findSources disk folder ≠ []) (tool : Tool) (saving : Bool) :
    LeadsTo disk (analyzeFolder tool folder saving) (inspectionLines disk tool folder)
      (presentFolder tool folder saving (Files.findSources disk folder)
        (gather disk folder (Files.findSources disk folder))) := by
  have nonempty : (Files.findSources disk folder).isEmpty = false := by simpa using someSource
  have distinct := Files.nodup_nameIn disk folder
  cases tool with
  | suite =>
    rcases Suite.takesFile_takeFile.exists_performs distinct with ⟨extractor, detector, performs⟩
    refine .bind_silent .files ?_
    simp only [isFolder, nonempty, Bool.not_true, Bool.false_eq_true, if_false]
    refine .bind_say (.bind_say (.bind_say ?_))
    exact .past_to performs rfl
  | analyzer =>
    rcases Analyzer.takesFile_takeFile.exists_performs distinct with ⟨extractor, detector, performs⟩
    refine .bind_silent .files ?_
    simp only [isFolder, nonempty, Bool.not_true, Bool.false_eq_true, if_false]
    refine .bind_say (.bind_say (.bind_say (.bind_say ?_)))
    refine .bind_of_silent performs ?_
    refine .past_to (.lift (statistics_nil _)) ?_
    rw [presentFolder, resultsOf_analyzer]
    rfl

end ErpLens.Command
