import ErpLens.Proofs.EntityReports

/-!
# Summaries of files and folders

The stand-alone analyser adds up classes, functions, imports and calls of all files that were taken;
the suite adds up classes and functions only.
-/

open List

namespace ErpLens

namespace Command

variable {disk : Files.Disk} {path : String}

open Program Report Analysis Source

/-! ## Files that are taken -/

/-- The outline of a file that can be read and parsed. -/
def outlineAt? (disk : Files.Disk) (path : String) : Option Outline :=
  (Files.readSource disk path).toOption.bind fun code => (outlineOf code).toOption

theorem outlineAt?_eq_some {code : String} {outline : Outline}
    (read : Files.readSource disk path = .ok code) (outlined : outlineOf code = .ok outline) :
    outlineAt? disk path = some outline := by
  simp [outlineAt?, read, outlined, Except.toOption]

/-- A file can be read, parsed and shown. -/
def accepts (disk : Files.Disk) (path : String) : Bool :=
  match outlineAt? disk path with
  | none => false
  | some outline => (entitiesOf outline).2.isNone

/-- The numbers of a file, nought if it has no outline. -/
def countsAt (disk : Files.Disk) (path : String) : Totals :=
  match outlineAt? disk path with
  | none => ⟨0, 0, 0, 0⟩
  | some outline =>
    let entities := (entitiesOf outline).1
    { classes := entities.classes.length
      functions := entities.functions.length
      imports := entities.imports.length
      calls := (callRecords outline).length }

theorem exists_of_accepts (accepted : accepts disk path = true) :
    ∃ code outline, Files.readSource disk path = .ok code ∧ outlineOf code = .ok outline ∧
      (entitiesOf outline).2 = none := by
  cases read : Files.readSource disk path with
  | error fault => simp [accepts, outlineAt?, read, Except.toOption] at accepted
  | ok code =>
    cases outlined : outlineOf code with
    | error fault => simp [accepts, outlineAt?, read, outlined, Except.toOption] at accepted
    | ok outline =>
      refine ⟨code, outline, rfl, outlined, ?_⟩
      simpa [accepts, outlineAt?_eq_some read outlined] using accepted

theorem countsAt_eq {code : String} {outline : Outline}
    (read : Files.readSource disk path = .ok code) (outlined : outlineOf code = .ok outline) :
    countsAt disk path =
      { classes := (entitiesOf outline).1.classes.length
        functions := (entitiesOf outline).1.functions.length
        imports := (entitiesOf outline).1.imports.length
        calls := (callRecords outline).length } := by
  simp [countsAt, outlineAt?_eq_some read outlined]

/-- The numbers of what a file gave. -/
def FileFindings.totals (found : FileFindings) : Totals :=
  { classes := found.entities.classes.length
    functions := found.entities.functions.length
    imports := found.entities.imports.length
    calls := found.totalCalls }

theorem totals_fileAlone (disk : Files.Disk) (folder path : String) :
    (fileAlone disk folder path).map FileFindings.totals =
      if accepts disk path then some (countsAt disk path) else none := by
  cases read : Files.readSource disk path with
  | error fault =>
    rw [(FailsWith.unread read).fileAlone_eq_none]
    simp [accepts, outlineAt?, read, Except.toOption]
  | ok code =>
    cases parsed : parse code with
    | error fault =>
      rw [(failsWith_of_error read parsed).fileAlone_eq_none]
      simp [accepts, outlineAt?, read, outlineOf, parsed, Except.toOption, Except.map]
    | ok tree =>
      have outlined := outlineOf_of_parse parsed
      by_cases shown : tree.Shown
      · rw [(isTaken_of_shown read parsed shown).fileAlone_eq_some, countsAt_eq read outlined]
        simp [accepts, outlineAt?_eq_some read outlined, tree.shown_iff.mp shown, extractFile,
          read, extractSource, outlined, CallDetector.detect, FileFindings.totals, foundIn]
      · rcases exists_failsWith_of_not_shown read parsed shown with ⟨fault, fails⟩
        rw [fails.fileAlone_eq_none]
        simp [accepts, outlineAt?_eq_some read outlined, mt tree.shown_iff.mpr shown]

theorem totals_gather (disk : Files.Disk) (folder : String) (paths : List String) :
    (gather disk folder paths).map FileFindings.totals =
      (paths.filter (accepts disk)).map (countsAt disk) := by
  induction paths with
  | nil => rfl
  | cons path rest ih =>
    have alone := totals_fileAlone disk folder path
    rw [gather, filterMap_cons, filter_cons]
    cases taken : accepts disk path with
    | true =>
      rw [taken, if_pos rfl, Option.map_eq_some_iff] at alone
      rcases alone with ⟨found, gave, counted⟩
      rw [gave, if_pos rfl, map_cons, map_cons, counted, ← ih]
      rfl
    | false =>
      rw [taken, if_neg (by simp), Option.map_eq_none_iff] at alone
      rw [alone, if_neg (by simp), ← ih]
      rfl

/-! ## Numbers in reports -/

variable (tool : Tool)

/-- The numbers that a tool shows for a folder with files of known numbers. The suite counts neither
imports nor calls. -/
def shownTotals (all : List Totals) : Totals :=
  match tool with
  | .analyzer => Totals.sum all
  | .suite => { Totals.sum all with imports := 0, calls := 0 }

theorem totalCalls_eq (findings : Findings) :
    findings.totalCalls = (Totals.sum (findings.map FileFindings.totals)).calls := by
  simp [Findings.totalCalls, Totals.sum, FileFindings.totals, Function.comp_def]

theorem gives_folder (findings : Findings) :
    Gives (findings.entities tool) (findings.relationships tool)
      (shownTotals tool (findings.map FileFindings.totals)) := by
  have classes : (findings.flatMap FileFindings.classValues).length =
      (Totals.sum (findings.map FileFindings.totals)).classes := by
    simp [Totals.sum, FileFindings.totals, FileFindings.classValues, Function.comp_def]
  have functions : (findings.flatMap FileFindings.functionValues).length =
      (Totals.sum (findings.map FileFindings.totals)).functions := by
    simp [Totals.sum, FileFindings.totals, FileFindings.functionValues, Function.comp_def]
  have imports : (findings.flatMap FileFindings.importValues).length =
      (Totals.sum (findings.map FileFindings.totals)).imports := by
    simp [Totals.sum, FileFindings.totals, FileFindings.importValues, Function.comp_def]
  cases tool with
  | analyzer =>
    constructor
    · exact (countAt_ofFields rfl).trans (by rw [classes, shownTotals])
    · exact (countAt_ofFields rfl).trans (by rw [functions, shownTotals])
    · exact (countAt_ofFields rfl).trans (by rw [imports, shownTotals])
    · exact (totalCalls_ofFields rfl rfl).trans (by rw [totalCalls_eq, shownTotals])
  | suite =>
    constructor
    · exact (countAt_ofFields rfl).trans (by rw [classes, shownTotals])
    · exact (countAt_ofFields rfl).trans (by rw [functions, shownTotals])
    · exact (countAt_ofFields rfl).trans rfl
    · exact (totalCalls_ofFields rfl rfl).trans rfl

def FileFindings.entry (found : FileFindings) : Value × Value :=
  (.str found.path, found.counts tool)

theorem FileFindings.key_functions (found : FileFindings) :
    (found.counts tool).key "functions" = .ok (.nat found.entities.functions.length) :=
  Value.key_ofFields rfl

theorem FileFindings.printsSome_fileLine (found : FileFindings) :
    PrintsSome (fileLine (found.entry tool)) () := by
  have classesKey : (found.counts tool).key "classes" = .ok (.nat found.entities.classes.length) :=
    Value.key_ofFields rfl
  have name : column 40 (.str found.path) = .ok (padRight 40 found.path) := rfl
  exact .bind_lift name (.bind_lift (found.key_functions tool) (.bind_lift classesKey (.say _)))

theorem keyed_entries (findings : Findings) :
    (findings.map (FileFindings.entry tool)).mapM (fun entry => do
        return (← entry.2.key "functions", entry) : _ → Outcome (Value × Value × Value)) =
      .ok (findings.map fun found =>
        (.nat found.entities.functions.length, found.entry tool)) := by
  induction findings with
  | nil => rfl
  | cons found rest ih =>
    have keyed : (found.entry tool).2.key "functions" =
        .ok (.nat found.entities.functions.length) := found.key_functions tool
    rw [map_cons, mapM_cons, keyed, ih]
    rfl

theorem exists_rankFiles (findings : Findings) :
    ∃ entries, rankFiles (findings.details tool) = .ok entries ∧
      ∀ entry ∈ entries, PrintsSome (fileLine entry) () := by
  let keyed := findings.map fun found =>
    (Value.nat found.entities.functions.length, found.entry tool)
  have total : ∀ one ∈ keyed, ∀ other ∈ keyed,
      ∃ answer, Value.lessThan other.1 one.1 = .ok answer := by
    intro one oneMem other otherMem
    rcases mem_map.mp oneMem with ⟨left, -, rfl⟩
    rcases mem_map.mp otherMem with ⟨right, -, rfl⟩
    exact Value.exists_lessThan_nat _ _
  rcases Value.exists_sortWith total with ⟨sorted, ran, perm⟩
  refine ⟨sorted.map Prod.snd, ?_, ?_⟩
  · have detailsEq : findings.details tool =
        .dict .plain (findings.map (FileFindings.entry tool)) := by
      simp [Findings.details, Findings.detailFields, Value.ofFields, FileFindings.entry]
    rw [detailsEq, rankFiles]
    simp only [pure_bind, keyed_entries, ok_bind]
    rw [ran, ok_bind]
    rfl
  · intro entry mem
    rcases mem_map.mp mem with ⟨pair, pairMem, rfl⟩
    rcases mem_map.mp (perm.mem_iff.mp pairMem) with ⟨found, -, rfl⟩
    exact found.printsSome_fileLine tool

theorem exists_prints_folderSummary (folder : String) (findings : Findings) :
    ∃ more, Prints (Report.folderSummary folder (findings.details tool) (findings.entities tool)
        (findings.relationships tool))
      (folderSummaryLines folder findings.length
        (shownTotals tool (findings.map FileFindings.totals)) ++ more) () := by
  rcases exists_rankFiles tool findings with ⟨entries, ranked, shown⟩
  have sized : (findings.details tool).size = .ok findings.length := by
    rw [Findings.details, Value.size_ofFields, Findings.detailFields, length_map]
  exact (gives_folder tool findings).exists_prints_folderSummary sized ranked shown folder

/-! ## The part that both tools do alike -/

/-- What a tool knows of a file when it asks the language model. -/
structure FileReport where
  code : String
  entities : Value
  relationships : Value
  issues : Issues

/-- What is done with a file up to the line that announces the language model. -/
def inspect (path : String) : Program FileReport := do
  say (Color.cyan.paint s!"Analyzing: {path}\n")
  say (Color.yellow.paint "[1/3] Extracting code structure...")
  let extractor ← runExtraction (extractFile (← files) {} path)
  let entities := extractor.entities.toValue
  say (Color.yellow.paint "[2/3] Detecting call relationships...")
  let code ← readSource path
  let relationships := (CallDetector.detect {} code).2
  say (Color.yellow.paint "[2.5/3] Detecting potential issues...")
  let issues ← Issues.analyze {} code
  say (Color.yellow.paint "[3/3] Generating analysis...\n")
  Report.summary path entities relationships
  Report.entities entities
  Report.relationships relationships
  if !issues.errors.isEmpty || !issues.warnings.isEmpty then
    say ("\n" ++ Color.red.paint ">>> DETECTED ISSUES")
    issues.errors.forM fun issue => say (issueLine .red "❌" issue)
    issues.warnings.forM fun issue => say (issueLine .yellow "⚠️" issue)
  else say noIssues
  say modelLine
  return { code, entities, relationships, issues }

/-- The results of a file as they are saved. -/
def FileReport.resultsOf (report : FileReport) (path : String) (insights : Fields) : Value :=
  .ofFields ([("file", .str path), ("entities", report.entities),
    ("relationships", report.relationships)] ++ insights ++ [("issues", report.issues.toValue)])

/-- What a tool does after the line that announces the language model. -/
def finishFile (path : String) (saving : Bool) (report : FileReport) :
    Program Unit :=
  match tool with
  | .suite => do
    let reply ← generate (← shortPrompt report.code report.entities report.relationships)
    Report.assessment (reply.getD "No analysis")
    if saving then Report.save (report.resultsOf path []) fileResults
    say (Color.green.paint "\n✓ Analysis complete!\n")
  | .analyzer => do
    let insights ← Report.insights report.code report.entities report.relationships
    Report.assessment insights
    if saving then Report.save (report.resultsOf path [("ai_analysis", .str insights)]) fileResults
    say (Color.green.paint "\n✓ Analysis complete!\n")

theorem ite_bind {α β : Type} {condition : Prop} [Decidable condition] (first second : Program α)
    (next : α → Program β) : (if condition then first else second) >>= next =
      if condition then first >>= next else second >>= next := by
  split <;> rfl

/-- Each tool starts with the common part, written out in its own text. -/
theorem analyzeFile_eq (path : String) (saving : Bool) :
    analyzeFile tool path saving = inspect path >>= finishFile tool path saving := by
  cases tool with
  | suite =>
    simp only [analyzeFile, Suite.analyzeFile, inspect, bind_assoc, ite_bind, pure_bind]
    rfl
  | analyzer =>
    simp only [analyzeFile, Analyzer.analyzeFile, inspect, bind_assoc, ite_bind, pure_bind]
    rfl

/-! ## What the static part gives -/

/-- What the analyses of a source give. -/
def reportOf (path code : String) (outline : Outline) : FileReport where
  code := code
  entities := FileEntities.toValue
    { (entitiesOf outline).1 with source := some (path, lineCount code) }
  relationships := callReport (some (callRecords outline))
  issues := issuesOf outline

variable {code : String} {outline : Outline}

theorem gives_reportOf (read : Files.readSource disk path = .ok code)
    (outlined : outlineOf code = .ok outline) :
    Gives (reportOf path code outline).entities (reportOf path code outline).relationships
      (countsAt disk path) := by
  rw [countsAt_eq read outlined]
  constructor
  · refine (countAt_ofFields rfl).trans ?_
    simp
  · refine (countAt_ofFields rfl).trans ?_
    simp
  · refine (countAt_ofFields rfl).trans ?_
    simp
  · rw [reportOf, callReport, callStatistics]
    split
    · exact totalCalls_ofFields rfl rfl
    · exact totalCalls_ofFields rfl rfl

theorem reachesLine_inspect (read : Files.readSource disk path = .ok code)
    (outlined : outlineOf code = .ok outline) (finished : (entitiesOf outline).2 = none) :
    ReachesLine disk (inspect path) [fileSummaryLines path (countsAt disk path)] modelLine
      (pure (reportOf path code outline)) := by
  have extracted : RunsFrom disk (runExtraction (extractFile disk {} path))
      (extractFile disk {} path).printed (.ok (extractFile disk {} path).extractor) := by
    refine runsFrom_runExtraction_of_finished ?_
    simp [extractFile, read, extractSource, outlined, finished]
  have summary := (gives_reportOf read outlined).prints_summary path
  rw [← append_nil (fileSummaryLines _ _)] at summary
  have entitiesEq : (extractFile disk {} path).extractor.entities =
      { (entitiesOf outline).1 with source := some (path, lineCount code) } := by
    simp only [extractFile, read, extractSource, outlined]
  refine .after (.say _) (.after (.say _) (.after .files (.after extracted ?_)))
  refine .after (.say _) (.after (.readSource read) (.after (.say _) ?_))
  refine .after (.lift (analyze_of_outline outlined)) (.after (.say _) ?_)
  simp only [entitiesEq, report_detect outlined]
  refine .showing (.of_prints summary) ?_
  -- From here on the lines are not known, only that there are some.
  refine .afterSome (listsEntities_file _).printsSome_entities ?_
  refine .afterSome (printsSome_relationships _) ?_
  split
  · refine .after (.say _) (.afterSome (.forM fun _ _ => .say _) ?_)
    exact .afterSome (.forM fun _ _ => .say _) .now
  · exact .after (.say _) .now

/-- What a tool still does after the static part of the analysis of a file that is taken. -/
theorem exists_leadsTo_finishFile (accepted : accepts disk path = true) :
    ∃ code outline lines, Files.readSource disk path = .ok code ∧ outlineOf code = .ok outline ∧
      Gives (reportOf path code outline).entities (reportOf path code outline).relationships
        (countsAt disk path) ∧
      ListsEntities (reportOf path code outline).entities ∧
      fileSummaryLines path (countsAt disk path) <:+: lines ∧
      ∀ tool saving, LeadsTo disk (analyzeFile tool path saving) (lines ++ [modelLine])
        (finishFile tool path saving (reportOf path code outline)) := by
  rcases exists_of_accepts accepted with ⟨code, outline, read, outlined, finished⟩
  rcases reachesLine_inspect read outlined finished with ⟨lines, shown, reached⟩
  refine ⟨code, outline, lines, read, outlined, gives_reportOf read outlined,
    listsEntities_file _, shown _ mem_cons_self, fun tool saving => ?_⟩
  have inspected : RunsFrom disk (inspect path) (lines ++ [modelLine])
      (.ok (reportOf path code outline)) := reached
  rw [analyzeFile_eq]
  exact .past inspected

theorem grows_saveIf (saving : Bool) (data : Value) (path : String) {next : Unit → Program Unit}
    (later : ∀ done, Grows (next done)) :
    Grows (if saving = true then Report.save data path >>= next else next ()) :=
  .ite (.bind (grows_save _ _) later) (later ())

theorem grows_finishFile (path : String) (saving : Bool) (report : FileReport) :
    Grows (finishFile tool path saving report) := by
  cases tool with
  | suite =>
    refine .bind (.lift _) fun _ => .bind (.generate _) fun _ => ?_
    exact .bind (grows_assessment _) fun _ => grows_saveIf _ _ _ fun _ => .say _
  | analyzer =>
    refine .bind (grows_insights _ _ _) fun _ => .bind (grows_assessment _) fun _ => ?_
    exact grows_saveIf _ _ _ fun _ => .say _

theorem shows_analyzeFile {workspace : Workspace} (accepted : accepts workspace.files path = true)
    (tool : Tool) (saving : Bool) :
    Shows (analyzeFile tool path saving) workspace
      (fileSummaryLines path (countsAt workspace.files path)) := by
  rcases exists_leadsTo_finishFile accepted with ⟨_, _, lines, -, -, -, -, shown, leads⟩
  exact .of_leadsTo (leads tool saving) rfl (shown.trans (prefix_append _ _).isInfix)
    (grows_finishFile tool path saving _)

/-! ## Reports on folders -/

theorem printsSome_showIssues (issues : List (String × Issues)) :
    PrintsSome (Analyzer.showIssues issues) () := by
  refine .bind (.forM fun _ _ => ?_) (.ite (fun _ => .say _) fun _ => .pure ())
  exact .bind (.say _) (.bind (.forM fun _ _ => .say _) (.forM fun _ _ => .say _))

def issuesTitle : String :=
  "\n" ++ Color.yellow.paint ">>> DETECTED ISSUES"

/-- The parts of the report on a folder whose lines are known. -/
def folderParts (folder : String) (findings : Findings) : List (List String) :=
  folderSummaryLines folder findings.length
      (shownTotals tool (findings.map FileFindings.totals)) ::
    match tool with
    | .suite => []
    | .analyzer => [statisticsLines findings.totalCalls 0 0 ++ [issuesTitle]]

/-- The last line of the report on a folder. -/
def lastLine : Tool → String
  | .suite => folderCompleteLine
  | .analyzer => modelLine

/-- What a tool does after the report on a folder. -/
def finishFolder (folder : String) (saving : Bool) (paths : List String)
    (findings : Findings) : Program Unit :=
  match tool with
  | .suite => do
    if saving then Report.save (resultsOf .suite folder paths.length findings "") folderResults
  | .analyzer => do
    let code ← Analyzer.sampleSources paths
    let insights ← Report.insights code (findings.entities .analyzer)
      (findings.relationships .analyzer)
    Report.assessment insights
    if saving then
      Report.save (resultsOf .analyzer folder paths.length findings insights) folderResults
    say folderCompleteLine

theorem reachesLine_presentFolder (folder : String) (saving : Bool) (paths : List String)
    (findings : Findings) :
    ReachesLine disk (presentFolder tool folder saving paths findings)
      (folderParts tool folder findings) (lastLine tool)
      (finishFolder tool folder saving paths findings) := by
  rcases exists_prints_folderSummary tool folder findings with ⟨more, summary⟩
  have entities := (listsEntities_folder tool findings).printsSome_entities
  cases tool with
  | suite => exact .after (.say _) (.showing (.of_prints summary) (.afterSome entities .now))
  | analyzer =>
    refine .after (.say _) (.showing (.of_prints summary) (.afterSome entities ?_))
    -- The statistics and the next title are one part, so that nothing comes between them.
    rw [← bind_assoc]
    have titled : Prints (do
        Report.relationships (findings.relationships .analyzer)
        say issuesTitle) (statisticsLines findings.totalCalls 0 0 ++ [issuesTitle] ++ []) () := by
      rw [append_nil]
      exact .bind (prints_relationships findings) (.say _)
    exact .showing (.of_prints titled) (.afterSome (printsSome_showIssues _) .now)

theorem grows_finishFolder (folder : String) (saving : Bool) (paths : List String)
    (findings : Findings) : Grows (finishFolder tool folder saving paths findings) := by
  cases tool with
  | suite => exact .ite (grows_save _ _) (.pure ())
  | analyzer =>
    refine .bind (.bind (.mapM (fun _ => .bind (.readSource _) fun _ => .pure _) _) fun _ =>
      .pure _) fun _ => .bind (grows_insights _ _ _) fun _ => ?_
    exact .bind (grows_assessment _) fun _ => grows_saveIf _ _ _ fun _ => .say _

variable {folder : String}

theorem shows_presentFolder {tool : Tool} {findings : Findings} {part : List String}
    (mem : part ∈ folderParts tool folder findings) (saving : Bool) (paths : List String)
    (workspace : Workspace) :
    Shows (presentFolder tool folder saving paths findings) workspace part := by
  rcases @reachesLine_presentFolder workspace.files tool folder saving paths findings with
    ⟨lines, shown, leads⟩
  exact .of_leadsTo leads rfl ((shown part mem).trans (prefix_append _ _).isInfix)
    (grows_finishFolder tool folder saving paths findings)

theorem shows_analyzeFolder_part {workspace : Workspace}
    (isFolder : Files.isDirectory workspace.files folder = true)
    (someSource : Files.findSources workspace.files folder ≠ []) {tool : Tool} {part : List String}
    (mem : part ∈ folderParts tool folder
      (gather workspace.files folder (Files.findSources workspace.files folder)))
    (saving : Bool) : Shows (analyzeFolder tool folder saving) workspace part := by
  rcases @reachesLine_presentFolder workspace.files tool folder saving
    (Files.findSources workspace.files folder)
    (gather workspace.files folder (Files.findSources workspace.files folder)) with
    ⟨lines, shown, leads⟩
  refine .of_leadsTo ((leadsTo_presentFolder isFolder someSource tool saving).trans leads) rfl ?_
    (grows_finishFolder _ _ _ _ _)
  exact ((shown part mem).trans (prefix_append _ _).isInfix).trans (suffix_append _ _).isInfix

theorem shows_analyzeFolder (workspace : Workspace)
    (isFolder : Files.isDirectory workspace.files folder = true)
    (someSource : Files.findSources workspace.files folder ≠ []) (tool : Tool) (saving : Bool) :
    Shows (analyzeFolder tool folder saving) workspace
      (folderSummaryLines folder
        ((Files.findSources workspace.files folder).filter (accepts workspace.files)).length
        (shownTotals tool
          (((Files.findSources workspace.files folder).filter (accepts workspace.files)).map
            (countsAt workspace.files)))) := by
  have counted := totals_gather workspace.files folder
    (Files.findSources workspace.files folder)
  have sized := congrArg List.length counted
  rw [length_map, length_map] at sized
  rw [← counted, ← sized]
  exact shows_analyzeFolder_part isFolder someSource mem_cons_self saving

/--
In a folder with sources, the summary of each file that is taken gives the numbers of its classes,
functions, imports and calls. The analyser's summary of the folder gives the sums of all four over
these files. The suite's gives the sums of classes and functions, but always no imports and no
calls; it is right only if none of the files has any.
-/
theorem analyzeFolder_shows_totals (workspace : Workspace) {folder : String}
    (isFolder : Files.isDirectory workspace.files folder = true)
    (someSource : Files.findSources workspace.files folder ≠ []) :
    let accepted := (Files.findSources workspace.files folder).filter (accepts workspace.files)
    let totals := Totals.sum (accepted.map (countsAt workspace.files))
    (∀ path ∈ accepted, ∀ tool saving, Shows (analyzeFile tool path saving) workspace
      (fileSummaryLines path (countsAt workspace.files path))) ∧
    (∀ saving, Shows (analyzeFolder .analyzer folder saving) workspace
      (folderSummaryLines folder accepted.length totals)) ∧
    (∀ saving, Shows (analyzeFolder .suite folder saving) workspace
      (folderSummaryLines folder accepted.length { totals with imports := 0, calls := 0 })) ∧
    ({ totals with imports := 0, calls := 0 } = totals ↔
      ∀ path ∈ accepted, (countsAt workspace.files path).imports = 0 ∧
        (countsAt workspace.files path).calls = 0) := by
  intro accepted totals
  refine ⟨?_, ?_, ?_, ?_⟩
  · intro path mem tool saving
    exact shows_analyzeFile (List.mem_filter.mp mem).2 tool saving
  · exact fun saving => shows_analyzeFolder workspace isFolder someSource .analyzer saving
  · exact fun saving => shows_analyzeFolder workspace isFolder someSource .suite saving
  · rw [Totals.without_eq_iff]
    simp only [totals, Totals.sum, List.map_map, List.sum_eq_zero_iff, List.mem_map,
      Function.comp_apply, forall_exists_index, and_imp, forall_apply_eq_imp_iff₂]
    exact ⟨fun zero path mem => ⟨zero.1 path mem, zero.2 path mem⟩,
      fun zero => ⟨fun path mem => (zero path mem).1, fun path mem => (zero path mem).2⟩⟩

/-- A folder with a source that imports and calls, and one without a syntax tree. -/
def callingFiles : Files.Disk :=
  .of [("d", .directory
    [("a.py", .file (Text.encodeUtf8 "import os\ndef f():\n    g()\n")),
      ("b.py", .file (Text.encodeUtf8 "def\n"))])] (by decide +kernel)

theorem findSources_callingFiles :
    Files.findSources callingFiles "d" = ["d/a.py", "d/b.py"] := by
  have walked : Files.walkSources callingFiles "d" = ["d/a.py", "d/b.py"] := by decide +kernel
  rw [Files.findSources_eq, walked]
  exact mergeSort_of_pairwise (by decide)

theorem accepts_callingFiles :
    ["d/a.py", "d/b.py"].filter (accepts callingFiles) = ["d/a.py"] := by
  decide +kernel

theorem countsAt_callingFiles : countsAt callingFiles "d/a.py" = ⟨0, 1, 1, 1⟩ := by
  decide +kernel

/-- The file has one import and one call, but the suite's summary of its folder shows none. -/
theorem suite_shows_no_imports_and_calls :
    Totals.sum ((["d/a.py", "d/b.py"].filter (accepts callingFiles)).map (countsAt callingFiles)) =
        ⟨0, 1, 1, 1⟩ ∧
      ∀ saving, Shows (analyzeFolder .suite "d" saving)
        { files := callingFiles, service := { reply := .nothing } }
        (folderSummaryLines "d" 1 ⟨0, 1, 0, 0⟩) := by
  have isFolder : Files.isDirectory callingFiles "d" = true := by decide +kernel
  refine ⟨?_, fun saving => ?_⟩
  · rw [accepts_callingFiles, List.map_singleton, countsAt_callingFiles]
    rfl
  · have shown := shows_analyzeFolder
      { files := callingFiles, service := { reply := .nothing } } isFolder
      (by simp [findSources_callingFiles]) .suite saving
    simp only [findSources_callingFiles, accepts_callingFiles, List.map_singleton,
      countsAt_callingFiles] at shown
    exact shown

theorem analyzeFolder_shows_totals_of_calling_files :
    Files.isDirectory callingFiles "d" = true ∧ Files.findSources callingFiles "d" ≠ [] ∧
      (∀ tool saving, Shows (analyzeFile tool "d/a.py" saving)
        { files := callingFiles, service := { reply := .nothing } }
        (fileSummaryLines "d/a.py" ⟨0, 1, 1, 1⟩)) ∧
      ∀ saving, Shows (analyzeFolder .analyzer "d" saving)
        { files := callingFiles, service := { reply := .nothing } }
        (folderSummaryLines "d" 1 ⟨0, 1, 1, 1⟩) := by
  have isFolder : Files.isDirectory callingFiles "d" = true := by decide +kernel
  have someSource : Files.findSources callingFiles "d" ≠ [] := by
    simp [findSources_callingFiles]
  have shown := analyzeFolder_shows_totals
    { files := callingFiles, service := { reply := .nothing } } isFolder someSource
  simp only [findSources_callingFiles, accepts_callingFiles, List.map_singleton,
    countsAt_callingFiles] at shown
  refine ⟨isFolder, someSource, fun tool saving => ?_, shown.2.1⟩
  have fileShown := shown.1 "d/a.py" List.mem_cons_self tool saving
  rwa [countsAt_callingFiles] at fileShown

end Command

end ErpLens
