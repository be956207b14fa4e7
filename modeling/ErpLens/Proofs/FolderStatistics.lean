import ErpLens.Proofs.FolderResults

/-!
# Statistics of a folder

For a folder the analyser adds up the numbers of calls, but looks for the calls themselves under a
key that no report has. So no caller and no callee is ever counted.
-/

open List

namespace ErpLens

namespace Command

open Program Report Analysis Source

variable {disk : Files.Disk}

/-- The call records of a file. -/
def recordsAt (disk : Files.Disk) (path : String) : List CallRecord :=
  match outlineAt? disk path with
  | none => []
  | some outline => callRecords outline

theorem recordsAt_eq {path code : String} {outline : Outline}
    (read : Files.readSource disk path = .ok code) (outlined : outlineOf code = .ok outline) :
    recordsAt disk path = callRecords outline := by
  simp [recordsAt, outlineAt?_eq_some read outlined]

theorem calls_countsAt (disk : Files.Disk) (path : String) :
    (countsAt disk path).calls = (recordsAt disk path).length := by
  unfold countsAt recordsAt
  cases outlineAt? disk path with
  | none => rfl
  | some outline => rfl

/-! ## Calls that are not counted -/

/-- A report that holds call records and their number, and has nothing under `calls`. -/
structure HoldsRecords (report : Value) (records : List CallRecord) : Prop where
  listed : report.key "relationships" = .ok (.list (records.map CallRecord.toValue))
  total : totalCalls report = .ok (.nat records.length)
  noCalls : keyOr report "calls" (.list []) = .ok (.list [])

theorem holdsRecords_callReport (records : List CallRecord) :
    HoldsRecords (callReport (some records)) records where
  listed := Value.key_ofFields rfl
  total := by
    rw [callReport, callStatistics]
    split
    · exact totalCalls_ofFields rfl rfl
    · exact totalCalls_ofFields rfl rfl
  noCalls := Value.getD_ofFields_of_none rfl _

/-- Results with statistics that give a number of calls, but no callers and no callees. -/
structure CountsCallsOnly (results : Value) (total : Nat) : Prop where
  statistics : ∃ relationships statistics, results.key "relationships" = .ok relationships ∧
    relationships.key "stats" = .ok statistics ∧
    statistics.key "total_calls" = .ok (.nat total) ∧
    statistics.key "unique_callers" = .ok (.nat 0) ∧
    statistics.key "unique_callees" = .ok (.nat 0) ∧
    statistics.key "most_called" = .ok (.list [])

/-- The statistics of a folder have the number of calls and no names. -/
theorem countsCallsOnly_resultsOf (folder : String) (count : Nat) (findings : Findings)
    (insights : String) :
    CountsCallsOnly (resultsOf .analyzer folder count findings insights) findings.totalCalls where
  statistics :=
    ⟨findings.relationships .analyzer, Findings.namelessStatistics findings.totalCalls,
      Value.key_ofFields rfl, Value.key_ofFields rfl, Value.key_ofFields rfl,
      Value.key_ofFields rfl, Value.key_ofFields rfl, Value.key_ofFields rfl⟩

theorem increment_ne_nil (name : String) (table : List (String × Nat)) :
    increment name table ≠ [] := by
  cases table with
  | nil => simp [increment]
  | cons entry rest =>
    rw [increment]
    split <;> simp

theorem tally_eq_nil_iff (names : List String) : tally names = [] ↔ names = [] := by
  have grows (rest : List String) (table : List (String × Nat)) (notEmpty : table ≠ []) :
      rest.foldl (fun table name => increment name table) table ≠ [] := by
    induction rest generalizing table with
    | nil => exact notEmpty
    | cons name rest ih => exact ih _ (increment_ne_nil name table)
  cases names with
  | nil => simp [tally]
  | cons name rest => simpa [tally] using grows rest _ (increment_ne_nil name [])

theorem mostCalled_eq_nil_iff (records : List CallRecord) :
    mostCalled rankedNames records = [] ↔ records = [] := by
  have ranked : Analysis.ranking (records.map (·.callee)) = [] ↔ records = [] := by
    rw [Analysis.ranking, ← length_eq_zero_iff, length_mergeSort,
      length_eq_zero_iff, tally_eq_nil_iff, map_eq_nil_iff]
  have bounded (size : Nat) : Value.bound size rankedNames = min 5 size := rfl
  rw [mostCalled, mostFrequent, Value.takeTo, take_eq_nil_iff, ← ranked, bounded]
  constructor
  · rintro (none_ | none_)
    · rw [← length_eq_zero_iff]
      omega
    · exact none_
  · exact Or.inr

theorem totalCalls_gather (disk : Files.Disk) (folder : String) (paths : List String) :
    (gather disk folder paths).totalCalls =
      ((paths.filter (accepts disk)).flatMap (recordsAt disk)).length := by
  rw [totalCalls_eq, totals_gather, Totals.sum, length_flatMap]
  simp only [map_map, Function.comp_def, calls_countsAt]

theorem shows_analyzeFolder_statistics (workspace : Workspace) {folder : String}
    (isFolder : Files.isDirectory workspace.files folder = true)
    (someSource : Files.findSources workspace.files folder ≠ []) (saving : Bool) :
    Shows (analyzeFolder .analyzer folder saving) workspace
      (statisticsLines
        (((Files.findSources workspace.files folder).filter (accepts workspace.files)).flatMap
          (recordsAt workspace.files)).length 0 0 ++ [issuesTitle]) := by
  rw [← totalCalls_gather workspace.files folder]
  exact shows_analyzeFolder_part isFolder someSource (mem_cons_of_mem _ mem_cons_self) saving

/-- The results that the analyser saves count the calls and nothing else about them. -/
theorem exists_saved_statistics {workspace : Workspace} {folder : String}
    (isFolder : Files.isDirectory workspace.files folder = true)
    (someSource : Files.findSources workspace.files folder ≠ [])
    (free : Files.isDirectory workspace.files folderResults = false) :
    ((analyzeFolder .analyzer folder true).runIn workspace).1 = .ok () ∧
      ∃ results,
        Files.readBytes ((analyzeFolder .analyzer folder true).runIn workspace).2.files
            folderResults = .ok (Text.encodeUtf8 (Json.pretty results)) ∧
        CountsCallsOnly results (gather workspace.files folder
          (Files.findSources workspace.files folder)).totalCalls := by
  rcases exists_endsSaving isFolder someSource .analyzer true with ⟨insights, ends⟩
  have completed := ends.completes.mpr fun _ =>
    (Files.writable_name_iff validName_folderResults).mpr free
  exact ⟨completed, _, ends.readBytes completed rfl, countsCallsOnly_resultsOf _ _ _ _⟩

/--
In a folder with sources, the report on each file that is taken lists its call records and their
number under keys of their own, and lists nothing under `calls`, where the analysis of the folder
looks for them. So the number of calls that the analyser shows and saves for the folder is that of
all records, but it shows and saves no callers, no callees and no ranking. These are right only if
there are no calls at all.
-/
theorem analyzeFolder_counts_calls_only (workspace : Workspace) {folder : String}
    (isFolder : Files.isDirectory workspace.files folder = true)
    (someSource : Files.findSources workspace.files folder ≠ []) :
    let accepted := (Files.findSources workspace.files folder).filter (accepts workspace.files)
    let records := accepted.flatMap (recordsAt workspace.files)
    (∀ path ∈ accepted, ∃ code, Files.readSource workspace.files path = .ok code ∧
      HoldsRecords (CallDetector.detect {} code).2 (recordsAt workspace.files path)) ∧
    (∀ saving, Shows (analyzeFolder .analyzer folder saving) workspace
      (statisticsLines records.length 0 0 ++ [issuesTitle])) ∧
    (Files.isDirectory workspace.files folderResults = false →
      ((analyzeFolder .analyzer folder true).runIn workspace).1 = .ok () ∧
        ∃ results,
          Files.readBytes ((analyzeFolder .analyzer folder true).runIn workspace).2.files
              folderResults = .ok (Text.encodeUtf8 (Json.pretty results)) ∧
          CountsCallsOnly results records.length) ∧
    ((records.map (·.caller)).toFinset.card = 0 ↔ records = []) ∧
    ((records.map (·.callee)).toFinset.card = 0 ↔ records = []) ∧
    (mostCalled rankedNames records = [] ↔ records = []) := by
  intro accepted records
  refine ⟨?_, ?_, ?_, by simp, by simp, mostCalled_eq_nil_iff records⟩
  · intro path mem
    rcases exists_of_accepts (List.mem_filter.mp mem).2 with ⟨code, outline, read, outlined, -⟩
    refine ⟨code, read, ?_⟩
    rw [report_detect outlined, recordsAt_eq read outlined]
    exact holdsRecords_callReport (callRecords outline)
  · exact fun saving => shows_analyzeFolder_statistics workspace isFolder someSource saving
  · intro free
    have saved := exists_saved_statistics isFolder someSource free
    rwa [totalCalls_gather] at saved

/-- The one call is counted, but neither its caller nor its callee. -/
theorem statistics_leave_out_names :
    ["d/a.py", "d/b.py"].filter (accepts callingFiles) = ["d/a.py"] ∧
      recordsAt callingFiles "d/a.py" = [⟨"f", "g", 3, .function⟩] ∧
      ∀ saving, Shows (analyzeFolder .analyzer "d" saving)
        { files := callingFiles, service := { reply := .nothing } }
        (statisticsLines 1 0 0 ++ [issuesTitle]) := by
  have isFolder : Files.isDirectory callingFiles "d" = true := by decide +kernel
  have recorded : recordsAt callingFiles "d/a.py" = [⟨"f", "g", 3, .function⟩] := by decide +kernel
  refine ⟨accepts_callingFiles, recorded, fun saving => ?_⟩
  have shown := shows_analyzeFolder_statistics
    { files := callingFiles, service := { reply := .nothing } } isFolder
    (by simp [findSources_callingFiles]) saving
  simp only [findSources_callingFiles, accepts_callingFiles, List.flatMap_singleton, recorded]
    at shown
  exact shown

theorem analyzeFolder_counts_calls_only_of_calling_files :
    Files.isDirectory callingFiles "d" = true ∧ Files.findSources callingFiles "d" ≠ [] ∧
      ∃ results,
        Files.readBytes ((analyzeFolder .analyzer "d" true).runIn
            { files := callingFiles, service := { reply := .nothing } }).2.files folderResults =
          .ok (Text.encodeUtf8 (Json.pretty results)) ∧
        CountsCallsOnly results 1 := by
  have isFolder : Files.isDirectory callingFiles "d" = true := by decide +kernel
  have someSource : Files.findSources callingFiles "d" ≠ [] := by
    simp [findSources_callingFiles]
  have recorded : (recordsAt callingFiles "d/a.py").length = 1 := by decide +kernel
  rcases analyzeFolder_counts_calls_only
    { files := callingFiles, service := { reply := .nothing } } isFolder someSource with
    ⟨-, -, saves, -⟩
  rcases saves (by decide +kernel) with ⟨-, results, saved, counted⟩
  simp only [findSources_callingFiles, accepts_callingFiles, List.flatMap_singleton, recorded]
    at counted
  exact ⟨isFolder, someSource, results, saved, counted⟩

end Command

end ErpLens
