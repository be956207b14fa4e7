import ErpLens.Proofs.FileReports

/-!
# The results of a folder

What is found in the saved results of either tool is what the files give alone. Nothing stops a run
on a folder but a directory in the place of the results.
-/

open List

namespace ErpLens.Command

open Program Report Analysis Source

variable {disk : Files.Disk} {folder : String} {findings : Findings}

/-! ## What results hold -/

/-- Results with the classes, functions and issues of some findings, and with one entry for each
file that gave something, whose numbers add up. -/
structure ResultsHold (results : Value) (findings : Findings) : Prop where
  entities : ∃ entities, results.key "entities" = .ok entities ∧
    entities.key "classes" = .ok (.list (findings.flatMap FileFindings.classValues)) ∧
    entities.key "functions" = .ok (.list (findings.flatMap FileFindings.functionValues))
  issues : results.key "issues" = .ok (.list (findings.map FileFindings.issueValue))
  details : ∃ (entries : Fields) (classCounts functionCounts : List Nat),
    results.key "file_details" = .ok (.ofFields entries) ∧
    entries.map Prod.fst = findings.map (·.path) ∧
    entries.map (·.2.key "classes") = classCounts.map (.ok ∘ .nat) ∧
    entries.map (·.2.key "functions") = functionCounts.map (.ok ∘ .nat) ∧
    classCounts.sum = (findings.flatMap FileFindings.classValues).length ∧
    functionCounts.sum = (findings.flatMap FileFindings.functionValues).length

theorem resultsOf_hold (tool : Tool) (folder : String) (count : Nat) (findings : Findings)
    (insights : String) : ResultsHold (resultsOf tool folder count findings insights) findings where
  entities := by
    refine ⟨findings.entities tool, Value.key_ofFields rfl, Value.key_ofFields rfl,
      Value.key_ofFields rfl⟩
  issues := by
    cases tool <;> exact Value.key_ofFields rfl
  details := by
    refine ⟨findings.detailFields tool, findings.map (·.entities.classes.length),
      findings.map (·.entities.functions.length), Value.key_ofFields rfl, ?_, ?_, ?_, ?_, ?_⟩
    · simp [Findings.detailFields]
    · simp only [Findings.detailFields, map_map]
      exact map_congr_left fun found _ => Value.key_ofFields rfl
    · simp only [Findings.detailFields, map_map]
      exact map_congr_left fun found _ => Value.key_ofFields rfl
    · simp [length_flatMap, FileFindings.classValues]
    · simp [length_flatMap, FileFindings.functionValues]

/-! ## From the findings to the end -/

theorem runIn_ite_save (saving : Bool) (results : Value) (path : String) (workspace : Workspace) :
    (do if saving then Report.save results path : Program Unit).runIn workspace =
      if saving then
        match Files.writeBytes workspace.files path (Text.encodeUtf8 (Json.pretty results)) with
        | .ok changed => (.ok (), (workspace.holding changed).extended
            [Color.green.paint ("✓ Saved to " ++ path)] [])
        | .error fault => (.error fault, workspace)
      else (.ok (), workspace) := by
  cases saving with
  | false => rfl
  | true => exact runIn_save results path workspace

theorem endsSaving_save (saving : Bool) (results : Value) (path : String) (workspace : Workspace) :
    EndsSaving ((do if saving then Report.save results path : Program Unit).runIn workspace)
      workspace.files saving results path :=
  endsSaving_of_eq (runIn_ite_save saving results path workspace) (fun _ => rfl) rfl

theorem exists_runsFrom_sampleSources {paths : List String}
    (readable : ∀ path ∈ paths, ∃ code, Files.readSource disk path = .ok code) :
    ∃ code, RunsFrom disk (Analyzer.sampleSources paths) [] (.ok code) := by
  have starts : ∃ samples, RunsFrom disk ((paths.take 3).mapM fun path => do
      return Analyzer.sample path (← readSource path)) [] (.ok samples) := by
    generalize shownEq : paths.take 3 = shown
    have shownReadable : ∀ path ∈ shown, ∃ code, Files.readSource disk path = .ok code := by
      intro path mem
      rw [← shownEq] at mem
      exact readable path (mem_of_mem_take mem)
    clear shownEq
    induction shown with
    | nil => exact ⟨[], .pure []⟩
    | cons path rest ih =>
      rcases shownReadable path mem_cons_self with ⟨code, read⟩
      rcases ih fun other mem => shownReadable other (mem_cons_of_mem _ mem) with
        ⟨samples, sampled⟩
      refine ⟨Analyzer.sample path code :: samples, ?_⟩
      rw [mapM_cons]
      exact .bind_silent (.bind_silent (.readSource read) (.pure _))
        (.bind_silent sampled (.pure _))
  rcases starts with ⟨samples, sampled⟩
  exact ⟨Text.joinLines samples, .bind_silent sampled (.pure _)⟩

theorem runIn_finishFolder {paths : List String} {code prompt : String}
    (sampled : RunsFrom disk (Analyzer.sampleSources paths) [] (.ok code))
    (asked : longPrompt code (findings.entities .analyzer) (findings.relationships .analyzer) =
      .ok prompt) (folder : String) (saving : Bool) {workspace : Workspace}
    (filesEq : workspace.files = disk) :
    (finishFolder .analyzer folder saving paths findings).runIn workspace =
      (close saving (resultsOf .analyzer folder paths.length findings
          (insightText workspace.service.reply)) folderResults folderCompleteLine).runIn
        (workspace.extended (assessmentLines (insightText workspace.service.reply))
          [.generate "gemini-2.5-flash" prompt]) := by
  rw [finishFolder, runIn_bind_ok (sampled workspace filesEq), Workspace.extended_nil,
    runIn_bind_ok (runIn_insights asked workspace), runIn_bind_ok (prints_assessment _ _),
    Workspace.extended_extended]
  rfl

theorem exists_readSource_of_mem {path : String} (mem : path ∈ Files.findSources disk folder) :
    ∃ code, Files.readSource disk path = .ok code :=
  Files.exists_readSource ((Files.findSources_perm _ _).mem_iff.mp mem)

theorem exists_leadsTo_finishFolder (isFolder : Files.isDirectory disk folder = true)
    (someSource : Files.findSources disk folder ≠ []) (saving : Bool) :
    let findings := gather disk folder (Files.findSources disk folder)
    ∃ lines code prompt,
      LeadsTo disk (analyzeFolder .analyzer folder saving) (lines ++ [modelLine])
        (finishFolder .analyzer folder saving (Files.findSources disk folder) findings) ∧
      RunsFrom disk (Analyzer.sampleSources (Files.findSources disk folder)) [] (.ok code) ∧
      longPrompt code (findings.entities .analyzer) (findings.relationships .analyzer) =
        .ok prompt := by
  intro findings
  have leads := leadsTo_presentFolder isFolder someSource .analyzer saving
  rcases @reachesLine_presentFolder disk .analyzer folder saving (Files.findSources disk folder)
    findings with ⟨rest, -, reached⟩
  rcases exists_runsFrom_sampleSources (fun path mem => exists_readSource_of_mem mem) with
    ⟨code, sampled⟩
  rcases (gives_folder .analyzer findings).exists_longPrompt
    (listsEntities_folder .analyzer findings) code with ⟨prompt, asked⟩
  refine ⟨inspectionLines disk .analyzer folder ++ rest, code, prompt, ?_, sampled, asked⟩
  rw [append_assoc]
  exact leads.trans reached

/-- A run of either tool ends with saving what the files give alone. -/
theorem exists_endsSaving {workspace : Workspace}
    (isFolder : Files.isDirectory workspace.files folder = true)
    (someSource : Files.findSources workspace.files folder ≠ []) (tool : Tool) (saving : Bool) :
    ∃ insights, EndsSaving ((analyzeFolder tool folder saving).runIn workspace) workspace.files
      saving (resultsOf tool folder (Files.findSources workspace.files folder).length
        (gather workspace.files folder (Files.findSources workspace.files folder)) insights)
      folderResults := by
  cases tool with
  | suite =>
    rcases @reachesLine_presentFolder workspace.files .suite folder saving
      (Files.findSources workspace.files folder)
      (gather workspace.files folder (Files.findSources workspace.files folder)) with
      ⟨lines, -, leads⟩
    have ran := (leadsTo_presentFolder isFolder someSource .suite saving).trans leads
    rw [ran workspace rfl]
    exact ⟨"", endsSaving_save saving _ folderResults _⟩
  | analyzer =>
    rcases exists_leadsTo_finishFolder isFolder someSource saving with
      ⟨lines, code, prompt, leads, sampled, asked⟩
    have finished := @runIn_finishFolder _ _ _ _ _ sampled asked folder saving
      (workspace.extended (lines ++ [modelLine]) []) rfl
    have ends := endsSaving_of_close ((leads workspace rfl).trans finished)
    exact ⟨_, ends⟩

/-! ## What both tools make of a folder -/

theorem validName_folderResults : Files.ValidName folderResults :=
  ⟨by decide, by decide, by decide, by decide⟩

/--
A tool prints the lines of the files of a folder one after the other, and later a summary of what
they gave. It completes unless it is to save its results and a directory stands in their place. The
saved results hold what the files gave, and no other file is changed.
-/
structure Presents (tool : Tool) (folder : String) (saving : Bool) (workspace : Workspace)
    (findings : Findings) : Prop where
  prints : ∃ between later, ((analyzeFolder tool folder saving).runIn workspace).2.printed =
    (workspace.extended (inspectionLines workspace.files tool folder) []).printed ++ between ++
      String.join ((folderSummaryLines folder findings.length
        (shownTotals tool (findings.map FileFindings.totals))).map (· ++ "\n")) ++ later
  completes : ((analyzeFolder tool folder saving).runIn workspace).1 = .ok () ↔
    (saving = true → Files.isDirectory workspace.files folderResults = false)
  saves : ((analyzeFolder tool folder saving).runIn workspace).1 = .ok () → saving = true →
    ∃ results, ResultsHold results findings ∧
      Files.writeBytes workspace.files folderResults (Text.encodeUtf8 (Json.pretty results)) =
        .ok ((analyzeFolder tool folder saving).runIn workspace).2.files ∧
      Files.readBytes ((analyzeFolder tool folder saving).runIn workspace).2.files folderResults =
        .ok (Text.encodeUtf8 (Json.pretty results))
  keeps : saving = false →
    ((analyzeFolder tool folder saving).runIn workspace).2.files = workspace.files

/-- A run on a folder presents what its files give alone. -/
theorem presents_gather {workspace : Workspace}
    (isFolder : Files.isDirectory workspace.files folder = true)
    (someSource : Files.findSources workspace.files folder ≠ []) (tool : Tool) (saving : Bool) :
    Presents tool folder saving workspace
      (gather workspace.files folder (Files.findSources workspace.files folder)) := by
  have leads := leadsTo_presentFolder isFolder someSource tool saving
  rcases exists_endsSaving isFolder someSource tool saving with ⟨insights, ends⟩
  refine ⟨?_, ?_, fun completed isSaving => ?_, ends.keeps⟩
  · rw [leads workspace rfl]
    exact shows_presentFolder mem_cons_self saving _ _
  · rw [ends.completes, Files.writable_name_iff validName_folderResults]
  · exact ⟨_, resultsOf_hold tool folder _ _ insights, ends.saves completed isSaving,
      ends.readBytes completed isSaving⟩

/--
In a folder with sources, both tools show and save what the files give when each is analysed alone:
a source with a syntax tree whose bases and decorators can be shown gives its classes, functions and
issues under its name in the folder, and any other gives nothing but the lines that are printed for
it. The classes, functions and issues are the same for both tools; the counts by file have one entry
for each file that gave something, and add up.
-/
theorem analyzeFolder_isolates_files (workspace : Workspace) {folder : String}
    (isFolder : Files.isDirectory workspace.files folder = true)
    (someSource : Files.findSources workspace.files folder ≠ []) :
    ∃ findings : Findings,
      Gathered workspace.files folder (Files.findSources workspace.files folder) findings ∧
      (findings.map (·.path)).Nodup ∧
      ∀ tool saving, Presents tool folder saving workspace findings := by
  have readable : ∀ path ∈ Files.findSources workspace.files folder,
      ∃ code, Files.readSource workspace.files path = .ok code :=
    fun path mem => exists_readSource_of_mem mem
  have allGathered := gathered readable folder
  refine ⟨_, allGathered, ?_, fun tool saving => presents_gather isFolder someSource tool saving⟩
  exact (Files.nodup_nameIn workspace.files folder).sublist allGathered.paths_sublist

/-! ## A source that cannot be shown -/

/-- A source with a syntax tree whose decorator has no standard form: a replacement field holds a
control character, which could only be written with a backslash. -/
def unshownSource : String :=
  "@d(f\"\x7b'\x01'\x7d\")\ndef f(): pass\n"

/-- A folder with a source, one without a syntax tree, and one that cannot be shown. -/
def mixedFiles : Files.Disk :=
  .of [("d", .directory
    [("a.py", .file (Text.encodeUtf8 "def f(): pass\n")),
      ("b.py", .file (Text.encodeUtf8 "def\n")),
      ("c.py", .file (Text.encodeUtf8 unshownSource))])] (by decide +kernel)

theorem findSources_mixedFiles :
    Files.findSources mixedFiles "d" = ["d/a.py", "d/b.py", "d/c.py"] := by
  have walked : Files.walkSources mixedFiles "d" = ["d/a.py", "d/b.py", "d/c.py"] := by
    decide +kernel
  rw [Files.findSources_eq, walked]
  exact mergeSort_of_pairwise (by decide)

theorem analyzeFolder_isolates_mixed_files :
    ∃ findings, Gathered mixedFiles "d" ["d/a.py", "d/b.py", "d/c.py"] findings ∧
      (findings.map (·.path)).Nodup ∧
      ∀ tool saving, Presents tool "d" saving
        { files := mixedFiles, service := { reply := .nothing } } findings := by
  have isFolder : Files.isDirectory mixedFiles "d" = true := by decide +kernel
  rcases analyzeFolder_isolates_files { files := mixedFiles, service := { reply := .nothing } }
    isFolder (by simp [findSources_mixedFiles]) with ⟨findings, allGathered, distinct, presents⟩
  simp only [findSources_mixedFiles] at allGathered
  exact ⟨findings, allGathered, distinct, presents⟩

theorem paths_gather_mixedFiles :
    (gather mixedFiles "d" ["d/a.py", "d/b.py", "d/c.py"]).map (·.path) = ["a.py"] := by
  decide +kernel

/-- A source with a syntax tree can give nothing: the last file of `mixedFiles` has one, but the
results that either tool saves know of the first file only. -/
theorem unshown_source_gives_nothing :
    (∃ code tree, Files.readSource mixedFiles "d/c.py" = .ok code ∧ parse code = .ok tree) ∧
      "d/c.py" ∈ Files.findSources mixedFiles "d" ∧
      ∀ tool, ∃ results entries,
        Files.readBytes ((analyzeFolder tool "d" true).runIn
            { files := mixedFiles, service := { reply := .nothing } }).2.files folderResults =
          .ok (Text.encodeUtf8 (Json.pretty results)) ∧
        results.key "file_details" = .ok (.ofFields entries) ∧
        entries.map Prod.fst = ["a.py"] := by
  have accepted : ((Files.readSource mixedFiles "d/c.py").toOption.bind fun code =>
      (parse code).toOption).isSome = true := by
    decide +kernel
  have isFolder : Files.isDirectory mixedFiles "d" = true := by decide +kernel
  have free : Files.isDirectory mixedFiles folderResults = false := by decide +kernel
  refine ⟨?_, by simp [findSources_mixedFiles], fun tool => ?_⟩
  · cases read : Files.readSource mixedFiles "d/c.py" with
    | error fault => simp [read, Except.toOption] at accepted
    | ok code =>
      cases parsed : parse code with
      | error fault => simp [read, parsed, Except.toOption] at accepted
      | ok tree => exact ⟨code, tree, rfl, parsed⟩
  · have presents := @presents_gather "d" { files := mixedFiles, service := { reply := .nothing } }
      isFolder (by simp [findSources_mixedFiles]) tool true
    rcases presents.saves (presents.completes.mpr fun _ => free) rfl with
      ⟨results, holds, -, saved⟩
    rcases holds.details with ⟨entries, -, -, listed, named, -⟩
    simp only [findSources_mixedFiles, paths_gather_mixedFiles] at named
    exact ⟨results, entries, saved, listed, named⟩

end ErpLens.Command
