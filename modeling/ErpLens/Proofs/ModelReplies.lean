import ErpLens.Proofs.FolderResults

/-!
# Replies of the language model

The analyser asks the language model after all else is done. Two runs with different replies print
the same lines before the reply, ask the same and save results that differ in one field.
-/

namespace ErpLens

/-- A workspace with another reply. -/
def Workspace.replying (workspace : Workspace) (reply : Reply) : Workspace :=
  { workspace with service := { workspace.service with reply } }

namespace Command

open Program Report Analysis

/--
Whatever the language model replies, a program completes and asks it one and the same question. It
prints the same lines up to the one that announces the language model and after the reply, and saves
results that differ in the field of the reply only.
-/
def UnswayedBy (program : Program Unit) (workspace : Workspace) (file : String) : Prop :=
  ∃ (lines later : List String) (prompt : String) (before after : Fields),
    (before ++ after).lookup "ai_analysis" = none ∧
    ∀ reply, ∃ changed,
      program.runIn (workspace.replying reply) =
        (.ok (), ((workspace.replying reply).holding changed).extended
          (lines ++ [modelLine] ++ assessmentLines (insightText reply) ++ later)
          [.generate "gemini-2.5-flash" prompt]) ∧
      Files.readBytes changed file = .ok (Text.encodeUtf8 (Json.pretty (.ofFields
        (before ++ [("ai_analysis", .str (insightText reply))] ++ after))))

/-- In every workspace with some files, a program asks a question, shows the reply, saves it among
other fields and says a last line. -/
def SavesReply (disk : Files.Disk) (program : Program Unit) (prompt file last : String)
    (before after : Fields) : Prop :=
  ∀ workspace, workspace.files = disk → program.runIn workspace =
    (close true (.ofFields (before ++ [("ai_analysis",
        .str (insightText workspace.service.reply))] ++ after)) file last).runIn
      (workspace.extended (assessmentLines (insightText workspace.service.reply))
        [.generate "gemini-2.5-flash" prompt])

/-- A run that asks last is the same for every reply up to the question. -/
theorem unswayedBy_of_leadsTo {program target : Program Unit} {workspace : Workspace}
    {file prompt last : String} {lines : List String} {before after : Fields}
    (leads : LeadsTo workspace.files program (lines ++ [modelLine]) target)
    (finishes : SavesReply workspace.files target prompt file last before after)
    (free : (before ++ after).lookup "ai_analysis" = none)
    (writable : Files.Writable workspace.files file) : UnswayedBy program workspace file := by
  refine ⟨lines, [Color.green.paint ("✓ Saved to " ++ file), last], prompt, before, after, free,
    fun reply => ?_⟩
  let data := Value.ofFields (before ++ [("ai_analysis", .str (insightText reply))] ++ after)
  have written := Files.writeBytes_eq_ok writable (Text.encodeUtf8 (Json.pretty data))
  have finished := finishes ((workspace.replying reply).extended (lines ++ [modelLine]) []) rfl
  refine ⟨_, ?_, Files.readBytes_writeBytes written⟩
  -- The reply is not among the files, so that both parts run from the same ones.
  rw [leads (workspace.replying reply) rfl, finished, Workspace.extended_extended,
    runIn_close_of_writable, Workspace.holding_extended, Workspace.extended_extended]
  · rfl
  · exact writable

/-! ## Files -/

theorem validName_fileResults : Files.ValidName fileResults :=
  ⟨by decide, by decide, by decide, by decide⟩

theorem completes_file_iff (tool : Tool) (workspace : Workspace) (path : String) :
    ((analyzeFile tool path true).runIn workspace).1 = .ok () ↔
      accepts workspace.files path = true ∧
        (tool = .suite → ∃ text, workspace.service.reply.outcome = .ok text) ∧
        Files.isDirectory workspace.files fileResults = false := by
  cases accepted : accepts workspace.files path with
  | false =>
    rcases exists_stopsAt accepted with ⟨fault, lines, stops⟩
    rw [analyzeFile_eq, runIn_bind, stops.runsFrom_inspect workspace rfl]
    simp
  | true =>
    rcases exists_leadsTo_finishFile accepted with
      ⟨code, outline, lines, -, -, gives, lists, -, leads⟩
    have continues := continues_of_leadsTo gives lists (leads tool true) rfl
    rw [continues.completes, Files.writable_name_iff validName_fileResults]
    simp

theorem analyzer_completes_file_iff (workspace : Workspace) (path : String) :
    ((analyzeFile .analyzer path true).runIn workspace).1 = .ok () ↔
      accepts workspace.files path = true ∧
        Files.isDirectory workspace.files fileResults = false := by
  simpa using completes_file_iff .analyzer workspace path

theorem unswayedBy_analyzeFile {workspace : Workspace} {path : String}
    (accepted : accepts workspace.files path = true)
    (writable : Files.Writable workspace.files fileResults) :
    UnswayedBy (analyzeFile .analyzer path true) workspace fileResults := by
  rcases exists_leadsTo_finishFile accepted with
    ⟨code, outline, lines, -, -, gives, lists, -, leads⟩
  rcases gives.exists_longPrompt lists code with ⟨prompt, asked⟩
  let report := reportOf path code outline
  have finishes : SavesReply workspace.files (finishFile .analyzer path true report) prompt
      fileResults completeLine [("file", .str path), ("entities", report.entities),
        ("relationships", report.relationships)] [("issues", report.issues.toValue)] :=
    fun here _ => runIn_finishFile_analyzer asked path true here
  exact unswayedBy_of_leadsTo (leads .analyzer true) finishes rfl writable

/-! ## Folders -/

variable {disk : Files.Disk}

theorem unswayedBy_analyzeFolder {workspace : Workspace} {folder : String}
    (isFolder : Files.isDirectory workspace.files folder = true)
    (someSource : Files.findSources workspace.files folder ≠ [])
    (writable : Files.Writable workspace.files folderResults) :
    UnswayedBy (analyzeFolder .analyzer folder true) workspace folderResults := by
  let findings := gather workspace.files folder (Files.findSources workspace.files folder)
  rcases exists_leadsTo_finishFolder isFolder someSource true with
    ⟨lines, code, prompt, leads, sampled, asked⟩
  have finishes : SavesReply workspace.files
      (finishFolder .analyzer folder true (Files.findSources workspace.files folder) findings)
      prompt folderResults folderCompleteLine
      [("folder", .str folder),
        ("files_analyzed", .nat (Files.findSources workspace.files folder).length),
        ("file_details", findings.details .analyzer), ("entities", findings.entities .analyzer),
        ("relationships", findings.relationships .analyzer)]
      [("issues", findings.issues)] :=
    fun here filesEq => runIn_finishFolder sampled asked folder true filesEq
  exact unswayedBy_of_leadsTo leads finishes rfl writable

theorem exists_runsFrom_analyzeFolder_error {folder : String}
    (unfit : Files.isDirectory disk folder = true → Files.findSources disk folder = [])
    (saving : Bool) :
    ∃ lines, RunsFrom disk (analyzeFolder .analyzer folder saving) lines (.error (.exit 1)) := by
  have failed : RunsFrom disk (fail (.exit 1) : Program Unit) [] (.error (.exit 1)) := .lift rfl
  refine RunsFrom.exists_bind .files ?_
  cases isFolder : Files.isDirectory disk folder with
  | false => exact RunsFrom.exists_bind (.say _) ⟨[], failed.stop⟩
  | true =>
    refine RunsFrom.exists_bind (.say _) ?_
    simp only [unfit isFolder]
    exact RunsFrom.exists_bind (.say _) ⟨[], failed.stop⟩

theorem analyzer_completes_folder_iff (workspace : Workspace) (folder : String) :
    ((analyzeFolder .analyzer folder true).runIn workspace).1 = .ok () ↔
      (Files.isDirectory workspace.files folder = true ∧
        Files.findSources workspace.files folder ≠ []) ∧
      Files.isDirectory workspace.files folderResults = false := by
  by_cases fit : Files.isDirectory workspace.files folder = true ∧
    Files.findSources workspace.files folder ≠ []
  · rw [(presents_gather fit.1 fit.2 .analyzer true).completes]
    simp [fit]
  · have unfit : Files.isDirectory workspace.files folder = true →
        Files.findSources workspace.files folder = [] := by
      intro isFolder
      by_contra someSource
      exact fit ⟨isFolder, someSource⟩
    rcases exists_runsFrom_analyzeFolder_error unfit true with ⟨lines, stopped⟩
    rw [stopped workspace rfl]
    simp [fit]

/-! ## Any two replies -/

/--
What the analyser finds does not depend on the language model. It completes with a file exactly if
the file is taken and no directory stands in the place of the results, and with a folder exactly if
there is one, it has sources and no directory stands in the place of the results. Then, whatever the
reply, it asks the same question, prints the same lines before the reply, and saves the same results
but for the reply.
-/
theorem analyzer_results_do_not_depend_on_reply (workspace : Workspace) :
    (∀ path, accepts workspace.files path = true →
      Files.isDirectory workspace.files fileResults = false →
      UnswayedBy (analyzeFile .analyzer path true) workspace fileResults) ∧
    (∀ folder, Files.isDirectory workspace.files folder = true →
      Files.findSources workspace.files folder ≠ [] →
      Files.isDirectory workspace.files folderResults = false →
      UnswayedBy (analyzeFolder .analyzer folder true) workspace folderResults) ∧
    (∀ path reply,
      ((analyzeFile .analyzer path true).runIn (workspace.replying reply)).1 = .ok () →
      accepts workspace.files path = true ∧
        Files.isDirectory workspace.files fileResults = false) ∧
    (∀ folder reply,
      ((analyzeFolder .analyzer folder true).runIn (workspace.replying reply)).1 = .ok () →
      (Files.isDirectory workspace.files folder = true ∧
        Files.findSources workspace.files folder ≠ []) ∧
      Files.isDirectory workspace.files folderResults = false) := by
  refine ⟨?_, ?_, ?_, ?_⟩
  · intro path accepted free
    exact unswayedBy_analyzeFile accepted ((Files.writable_name_iff validName_fileResults).mpr free)
  · intro folder isFolder someSource free
    exact unswayedBy_analyzeFolder isFolder someSource
      ((Files.writable_name_iff validName_folderResults).mpr free)
  · intro path reply completed
    exact (analyzer_completes_file_iff (workspace.replying reply) path).mp completed
  · intro folder reply completed
    exact (analyzer_completes_folder_iff (workspace.replying reply) folder).mp completed

/-- A file with a syntax tree, and a directory where its results would be saved. -/
def blockedFiles : Files.Disk :=
  .of [("a.py", .file (Text.encodeUtf8 "x = 1\n")),
    ("analysis_output.json", .directory [("x.txt", .file [])])] (by decide +kernel)

/-- A source that is taken is not analysed to the end if its results have no place, whatever the
reply. -/
theorem analyzer_fails_where_results_have_no_place :
    (outlineOf "x = 1\n").toOption.isSome = true ∧ accepts blockedFiles "a.py" = true ∧
      ∀ reply, ((analyzeFile .analyzer "a.py" true).runIn
        { files := blockedFiles, service := { reply } }).1 ≠ .ok () := by
  have blocked : Files.isDirectory blockedFiles fileResults = true := by decide +kernel
  refine ⟨by decide +kernel, by decide +kernel, fun reply => ?_⟩
  rw [Ne, analyzer_completes_file_iff]
  simp [blocked]

theorem analyzer_results_of_calling_files_do_not_depend_on_reply :
    UnswayedBy (analyzeFile .analyzer "d/a.py" true)
        { files := callingFiles, service := { reply := .nothing } } fileResults ∧
      UnswayedBy (analyzeFolder .analyzer "d" true)
        { files := callingFiles, service := { reply := .nothing } } folderResults := by
  have unswayed := analyzer_results_do_not_depend_on_reply
    { files := callingFiles, service := { reply := .nothing } }
  refine ⟨unswayed.1 "d/a.py" (by decide +kernel) (by decide +kernel), ?_⟩
  exact unswayed.2.1 "d" (by decide +kernel) (by simp [findSources_callingFiles])
    (by decide +kernel)

end Command

end ErpLens
