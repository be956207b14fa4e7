import ErpLens.Proofs.FolderSummaries
import ErpLens.Proofs.FileWrites

/-!
# The static part of an analysis

Both tools start the analysis of a file in the same way, up to the line that announces the language
model. What this part prints, finds and fails with depends on the files only.
-/

namespace ErpLens

namespace Command

variable {lines : List String} {workspace : Workspace}

open Program Report Analysis Source

/-! ## Where the static part stops -/

def openingLines (path : String) : List String :=
  [Color.cyan.paint s!"Analyzing: {path}\n",
    Color.yellow.paint "[1/3] Extracting code structure..."]

def callsLine : String := Color.yellow.paint "[2/3] Detecting call relationships..."

def issuesLine : String := Color.yellow.paint "[2.5/3] Detecting potential issues..."

/-- What stops the static part of the analysis of a file, and the lines that are printed until
then. -/
inductive StopsAt (disk : Files.Disk) (path : String) : Fault → List String → Prop
  | unreadable {fault : Fault} (read : Files.readSource disk path = .error fault) :
      StopsAt disk path fault
        (openingLines path ++ [s!"Error reading file {path}: " ++ fault.message, callsLine])
  | malformed {code : String} {fault : SyntaxFault} (read : Files.readSource disk path = .ok code)
      (outlined : outlineOf code = .error fault) :
      StopsAt disk path (syntaxFault fault)
        (openingLines path ++ [s!"Syntax error in {path}: " ++ (syntaxFault fault).message,
          callsLine, issuesLine])
  | unshown {code : String} {outline : Outline} {fault : PrintFault}
      (read : Files.readSource disk path = .ok code) (outlined : outlineOf code = .ok outline)
      (stopped : (entitiesOf outline).2 = some fault) :
      StopsAt disk path (printFault fault) (openingLines path)

variable {disk : Files.Disk} {path : String}

theorem exists_stopsAt (refused : accepts disk path = false) :
    ∃ fault lines, StopsAt disk path fault lines := by
  cases read : Files.readSource disk path with
  | error fault => exact ⟨_, _, .unreadable read⟩
  | ok code =>
    cases outlined : outlineOf code with
    | error fault => exact ⟨_, _, .malformed read outlined⟩
    | ok outline =>
      cases stopped : (entitiesOf outline).2 with
      | some fault => exact ⟨_, _, .unshown read outlined stopped⟩
      | none => simp [accepts, outlineAt?_eq_some read outlined, stopped] at refused

theorem StopsAt.runsFrom_inspect {fault : Fault} (stops : StopsAt disk path fault lines) :
    RunsFrom disk (inspect path) lines (.error fault) := by
  cases stops with
  | @unreadable fault read =>
    have extracted : RunsFrom disk (runExtraction (extractFile disk {} path))
        [s!"Error reading file {path}: " ++ fault.message] (.ok {}) := by
      simp only [extractFile, read]
      exact runsFrom_runExtraction_of_finished rfl
    refine .bind_say (.bind_say (.bind_silent .files (.bind_line extracted (.bind_say ?_))))
    exact .stop (.readSource read)
  | @malformed code fault read outlined =>
    have extracted : RunsFrom disk (runExtraction (extractFile disk {} path))
        [s!"Syntax error in {path}: " ++ (syntaxFault fault).message]
        (.ok (extractFile disk {} path).extractor) := by
      simp only [extractFile, read, extractSource, outlined]
      exact runsFrom_runExtraction_of_finished rfl
    have refused : Issues.analyze {} code = .error (syntaxFault fault) := by
      rw [Issues.analyze, outlined]
    refine .bind_say (.bind_say (.bind_silent .files (.bind_line extracted (.bind_say ?_))))
    exact .bind_silent (.readSource read) (.bind_say (.stop (.lift refused)))
  | @unshown code outline fault read outlined stopped =>
    have extracted : RunsFrom disk (runExtraction (extractFile disk {} path)) []
        (.error (printFault fault)) := by
      simp only [extractFile, read, extractSource, outlined, stopped]
      exact runsFrom_runExtraction_of_fault rfl
    exact .bind_say (.bind_say (.bind_silent .files (.stop extracted)))

theorem ne_of_start {line other start : String} (starts : start.toList <+: line.toList)
    (apart : ¬ start.toList <+: other.toList) : line ≠ other := by
  rintro rfl
  exact apart starts

theorem StopsAt.modelLine_not_mem {fault : Fault} (stops : StopsAt disk path fault lines) :
    modelLine ∉ lines := by
  have opening : Color.cyan.paint s!"Analyzing: {path}\n" ≠ modelLine := by
    refine @ne_of_start _ _ Color.cyan.code ?_ (by decide)
    rw [Color.paint, String.toList_append]
    exact List.prefix_append _ _
  have extracting : Color.yellow.paint "[1/3] Extracting code structure..." ≠ modelLine := by decide
  have calls : callsLine ≠ modelLine := by decide
  have issues : issuesLine ≠ modelLine := by decide
  cases stops with
  | @unreadable fault read =>
    have message : s!"Error reading file {path}: " ++ fault.message ≠ modelLine := by
      refine @ne_of_start _ _ "Error reading file " ?_ (by decide)
      simp only [String.toList_append, List.append_assoc]
      exact List.prefix_append _ _
    simp [openingLines, opening.symm, extracting.symm, calls.symm, message.symm]
  | @malformed code fault read outlined =>
    have message : s!"Syntax error in {path}: " ++ (syntaxFault fault).message ≠ modelLine := by
      refine @ne_of_start _ _ "Syntax error in " ?_ (by decide)
      simp only [String.toList_append, List.append_assoc]
      exact List.prefix_append _ _
    simp [openingLines, opening.symm, extracting.symm, calls.symm, issues.symm, message.symm]
  | unshown read outlined stopped => simp [openingLines, opening.symm, extracting.symm]

/-! ## What follows it -/

/-- The text of the model as it is shown. -/
def assessmentLines (text : String) : List String :=
  [bright ++ Color.yellow.paint (">>> " ++ "AI ANALYSIS (Gemini)") ++ plain,
    "\n" ++ Color.lightGreen.paint text ++ plain ++ "\n"]

theorem prints_assessment (text : String) :
    Prints (Report.assessment text) (assessmentLines text) () :=
  .bind_say (.say _)

variable {code prompt : String} {report : FileReport}

/-- The text that is shown for a reply. -/
def insightText : Reply → String
  | .text value => value
  | .nothing => "Analysis could not be generated."
  | .failure message => "Error getting Gemini analysis: " ++ message

theorem runIn_insights {found calls : Value}
    (asked : longPrompt code found calls = .ok prompt) (workspace : Workspace) :
    (Report.insights code found calls).runIn workspace =
      (.ok (insightText workspace.service.reply),
        workspace.extended [] [.generate "gemini-2.5-flash" prompt]) := by
  have ran : (do generate (← longPrompt code found calls) : Program _).runIn workspace =
      (workspace.service.reply.outcome,
        workspace.extended [] [.generate "gemini-2.5-flash" prompt]) := by
    rw [asked, runIn_bind_ok (runIn_lift _ workspace), runIn_generate]
  rw [Report.insights, runIn_bind_ok (runIn_attempt _ workspace), ran]
  cases workspace.service.reply <;> rfl

theorem runIn_save (results : Value) (path : String) (workspace : Workspace) :
    (Report.save results path).runIn workspace =
      match Files.writeBytes workspace.files path (Text.encodeUtf8 (Json.pretty results)) with
      | .ok changed => (.ok (), (workspace.holding changed).extended
          [Color.green.paint ("✓ Saved to " ++ path)] [])
      | .error fault => (.error fault, workspace) := by
  rw [Report.save, runIn_bind, runIn_writeFile]
  cases Files.writeBytes workspace.files path (Text.encodeUtf8 (Json.pretty results)) with
  | ok changed => exact runIn_say _ _
  | error fault => rfl

/-- How a run ends that may save results in a file: it fails if there is no place for them, and
changes no other file. -/
structure EndsSaving (after : Outcome Unit × Workspace) (disk : Files.Disk) (saving : Bool)
    (results : Value) (path : String) : Prop where
  completes : after.1 = .ok () ↔ (saving = true → Files.Writable disk path)
  saves : after.1 = .ok () → saving = true →
    Files.writeBytes disk path (Text.encodeUtf8 (Json.pretty results)) = .ok after.2.files
  keeps : saving = false → after.2.files = disk

variable {saving : Bool} {after : Outcome Unit × Workspace}

theorem EndsSaving.readBytes {results : Value} (ends : EndsSaving after disk saving results path)
    (completed : after.1 = .ok ()) (isSaving : saving = true) :
    Files.readBytes after.2.files path = .ok (Text.encodeUtf8 (Json.pretty results)) :=
  Files.readBytes_writeBytes (ends.saves completed isSaving)

theorem endsSaving_of_eq {results : Value}
    {saved : Files.Disk → Workspace} {kept failed : Workspace}
    (afterEq : after = if saving then
        match Files.writeBytes disk path (Text.encodeUtf8 (Json.pretty results)) with
        | .ok changed => (.ok (), saved changed)
        | .error fault => (.error fault, failed)
      else (.ok (), kept))
    (savedFiles : ∀ changed, (saved changed).files = changed) (keptFiles : kept.files = disk) :
    EndsSaving after disk saving results path := by
  have placed : (∃ after, Files.writeBytes disk path (Text.encodeUtf8 (Json.pretty results)) =
      .ok after) ↔ Files.Writable disk path := Files.exists_writeBytes_iff
  subst afterEq
  cases saving with
  | false => exact ⟨by simp, by simp, fun _ => keptFiles⟩
  | true =>
    cases written : Files.writeBytes disk path (Text.encodeUtf8 (Json.pretty results)) with
    | ok changed => exact ⟨by simp [← placed, written], by simp [savedFiles, written], by simp⟩
    | error fault => exact ⟨by simp [← placed, written], by simp, by simp⟩

/-- Saves the results if that is asked for, and prints the last line. -/
def close (saving : Bool) (results : Value) (path line : String) : Program Unit := do
  if saving then Report.save results path
  say line

theorem runIn_close (saving : Bool) (results : Value) (path line : String) (workspace : Workspace) :
    (close saving results path line).runIn workspace =
      if saving then
        match Files.writeBytes workspace.files path (Text.encodeUtf8 (Json.pretty results)) with
        | .ok changed => (.ok (), (workspace.holding changed).extended
            [Color.green.paint ("✓ Saved to " ++ path), line] [])
        | .error fault => (.error fault, workspace)
      else (.ok (), workspace.extended [line] []) := by
  cases saving with
  | false => exact runIn_say line workspace
  | true =>
    rw [if_pos rfl]
    -- Both branches end with the last line, so that it is part of each.
    change (Report.save results path >>= fun _ => say line).runIn workspace = _
    rw [runIn_bind, runIn_save]
    cases Files.writeBytes workspace.files path (Text.encodeUtf8 (Json.pretty results)) with
    | error fault => rfl
    | ok changed =>
      dsimp only
      rw [runIn_say, Workspace.extended_extended]
      rfl

theorem runIn_close_of_writable (writable : Files.Writable workspace.files path)
    (results : Value) (line : String) :
    (close true results path line).runIn workspace =
      (.ok (), (workspace.holding (workspace.files.place
          (Text.encodeUtf8 (Json.pretty results)) path)).extended
        [Color.green.paint ("✓ Saved to " ++ path), line] []) := by
  rw [runIn_close, if_pos rfl, Files.writeBytes_eq_ok writable]

/-- Closing saves the results that are asked for, or fails because they have no place. -/
theorem endsSaving_of_close {results : Value} {line : String}
    (ran : after = (close saving results path line).runIn workspace) :
    EndsSaving after workspace.files saving results path :=
  endsSaving_of_eq (ran.trans (runIn_close saving results path line workspace)) (fun _ => rfl) rfl

def completeLine : String := Color.green.paint "\n✓ Analysis complete!\n"

theorem runIn_finishFile_analyzer
    (asked : longPrompt report.code report.entities report.relationships = .ok prompt)
    (path : String) (saving : Bool) (workspace : Workspace) :
    (finishFile .analyzer path saving report).runIn workspace =
      (close saving (report.resultsOf path
          [("ai_analysis", .str (insightText workspace.service.reply))]) fileResults
          completeLine).runIn
        (workspace.extended (assessmentLines (insightText workspace.service.reply))
          [.generate "gemini-2.5-flash" prompt]) := by
  dsimp only [finishFile]
  rw [runIn_bind_ok (runIn_insights asked workspace), runIn_bind_ok (prints_assessment _ _),
    Workspace.extended_extended]
  rfl

theorem runIn_finishFile_suite
    (asked : shortPrompt report.code report.entities report.relationships = .ok prompt)
    (path : String) (saving : Bool) (workspace : Workspace) :
    (finishFile .suite path saving report).runIn workspace =
      match workspace.service.reply.outcome with
      | .ok reply => (close saving (report.resultsOf path []) fileResults completeLine).runIn
          (workspace.extended (assessmentLines (reply.getD "No analysis"))
            [.generate "gemini-2.5-flash" prompt])
      | .error fault =>
        (.error fault, workspace.extended [] [.generate "gemini-2.5-flash" prompt]) := by
  dsimp only [finishFile]
  rw [asked, runIn_bind_ok (runIn_lift _ workspace), runIn_bind, runIn_generate]
  cases workspace.service.reply.outcome with
  | error fault => rfl
  | ok reply =>
    dsimp only
    rw [runIn_bind_ok (prints_assessment _ _), Workspace.extended_extended]
    rfl

/-- What a tool does after the static part: it prints more, completes unless the service or the
place of the results stops it, and saves what the static part found. -/
structure Continues (tool : Tool) (path : String) (saving : Bool) (workspace : Workspace)
    (lines : List String) (report : FileReport) : Prop where
  prints : ∃ later, ((analyzeFile tool path saving).runIn workspace).2.printed =
    (workspace.extended lines []).printed ++ later
  completes : ((analyzeFile tool path saving).runIn workspace).1 = .ok () ↔
    (tool = .suite → ∃ reply, workspace.service.reply.outcome = .ok reply) ∧
      (saving = true → Files.Writable workspace.files fileResults)
  saves : saving = true → ((analyzeFile tool path saving).runIn workspace).1 = .ok () →
    ∃ results, Files.readBytes ((analyzeFile tool path saving).runIn workspace).2.files
        fileResults = .ok (Text.encodeUtf8 (Json.pretty results)) ∧
      results.key "entities" = .ok report.entities ∧
      results.key "relationships" = .ok report.relationships ∧
      results.key "issues" = .ok report.issues.toValue

theorem continues_of_leadsTo {totals : Totals} {tool : Tool}
    (gives : Gives report.entities report.relationships totals)
    (lists : ListsEntities report.entities)
    (leads : LeadsTo disk (analyzeFile tool path saving) lines
      (finishFile tool path saving report)) (filesEq : workspace.files = disk) :
    Continues tool path saving workspace lines report := by
  have ran := leads workspace filesEq
  have grown : ∃ later, ((analyzeFile tool path saving).runIn workspace).2.printed =
      (workspace.extended lines []).printed ++ later := by
    rw [ran]
    exact grows_finishFile tool path saving report _
  cases tool with
  | analyzer =>
    rcases gives.exists_longPrompt lists report.code with ⟨prompt, asked⟩
    rw [runIn_finishFile_analyzer asked] at ran
    have ends := endsSaving_of_close ran
    refine ⟨grown, ?_, ?_⟩
    · rw [ends.completes]
      simp
    · intro isSaving completed
      exact ⟨_, ends.readBytes completed isSaving, Value.key_ofFields rfl, Value.key_ofFields rfl,
        Value.key_ofFields rfl⟩
  | suite =>
    rcases gives.exists_shortPrompt report.code with ⟨prompt, asked⟩
    rw [runIn_finishFile_suite asked, Workspace.extended_service] at ran
    cases answered : workspace.service.reply.outcome with
    | error fault =>
      rw [answered] at ran
      exact ⟨grown, by simp [ran, answered], by simp [ran]⟩
    | ok reply =>
      rw [answered] at ran
      have ends := endsSaving_of_close ran
      refine ⟨grown, ?_, ?_⟩
      · rw [ends.completes, answered]
        simp
      · intro isSaving completed
        exact ⟨_, ends.readBytes completed isSaving, Value.key_ofFields rfl,
          Value.key_ofFields rfl, Value.key_ofFields rfl⟩

/--
The static part of the analysis of a file depends on the files alone, and is the same for both
tools. For a file that is not taken both print the same lines, which do not announce the language
model, and fail with the same fault. For a file that is taken both print the same lines up to the
one that announces the language model, and later save the same entities, calls and issues. After
that line a tool completes unless the results cannot be written or, for the suite, the language
model fails.
-/
theorem analyzeFile_tools_share_static_part (disk : Files.Disk) (path : String) :
    (accepts disk path = false → ∃ fault lines, StopsAt disk path fault lines ∧
      modelLine ∉ lines ∧
      ∀ tool saving, RunsFrom disk (analyzeFile tool path saving) lines (.error fault)) ∧
    (accepts disk path = true → ∃ code outline lines, Files.readSource disk path = .ok code ∧
      outlineOf code = .ok outline ∧
      ∀ workspace, workspace.files = disk → ∀ tool saving,
        Continues tool path saving workspace (lines ++ [modelLine])
          (reportOf path code outline)) := by
  constructor
  · intro refused
    rcases exists_stopsAt refused with ⟨fault, lines, stops⟩
    refine ⟨fault, lines, stops, stops.modelLine_not_mem, fun tool saving => ?_⟩
    rw [analyzeFile_eq]
    exact stops.runsFrom_inspect.stop
  · intro accepted
    rcases exists_leadsTo_finishFile accepted with
      ⟨code, outline, lines, read, outlined, gives, lists, -, leads⟩
    refine ⟨code, outline, lines, read, outlined, fun workspace filesEq tool saving => ?_⟩
    exact continues_of_leadsTo gives lists (leads tool saving) filesEq

theorem tools_share_static_part_of_calling_files :
    (∃ fault lines, StopsAt callingFiles "d/b.py" fault lines ∧
      ∀ tool saving,
        RunsFrom callingFiles (analyzeFile tool "d/b.py" saving) lines (.error fault)) ∧
      ∃ lines report, ∀ tool saving, Continues tool "d/a.py" saving
        { files := callingFiles, service := { reply := .failure "quota" } }
        (lines ++ [modelLine]) report := by
  rcases (analyzeFile_tools_share_static_part callingFiles "d/b.py").1 (by decide +kernel) with
    ⟨fault, stoppedLines, stops, -, stopped⟩
  rcases (analyzeFile_tools_share_static_part callingFiles "d/a.py").2 (by decide +kernel) with
    ⟨code, outline, lines, -, -, continues⟩
  exact ⟨⟨fault, stoppedLines, stops, stopped⟩, lines, _, continues _ rfl⟩

end Command

end ErpLens
