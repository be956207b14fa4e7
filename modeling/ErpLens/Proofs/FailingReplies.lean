import ErpLens.Proofs.ModelReplies

/-!
# Failing replies

The suite asks the language model before it saves its results, and these have no part of the reply.
But a reply that fails stops the run before anything is written.
-/

namespace ErpLens

namespace Command

open Program Report Analysis

def savedLines : List String :=
  [Color.green.paint ("✓ Saved to " ++ fileResults), completeLine]

/--
Whatever the language model replies, the suite prints the same lines on a file and asks the same
question. A failure stops it there, with all files as they were. After any other reply it saves the
same results, if there is a place for them, shows the reply and completes.
-/
structure AsksBeforeSaving (workspace : Workspace) (path : String) (lines : List String)
    (prompt : String) (results : Value) : Prop where
  fails : ∀ message,
    (analyzeFile .suite path true).runIn (workspace.replying (.failure message)) =
      (.error (.failed message), (workspace.replying (.failure message)).extended lines
        [.generate "gemini-2.5-flash" prompt])
  saves : Files.isDirectory workspace.files fileResults = false → ∃ changed,
    Files.writeBytes workspace.files fileResults (Text.encodeUtf8 (Json.pretty results)) =
        .ok changed ∧
      Files.readBytes changed fileResults = .ok (Text.encodeUtf8 (Json.pretty results)) ∧
      ∀ reply text, reply.outcome = .ok text →
        (analyzeFile .suite path true).runIn (workspace.replying reply) =
          (.ok (), ((workspace.replying reply).holding changed).extended
            (lines ++ assessmentLines (text.getD "No analysis") ++ savedLines)
            [.generate "gemini-2.5-flash" prompt])

variable {workspace : Workspace} {path prompt : String} {lines : List String} {report : FileReport}

theorem asksBeforeSaving_of_leadsTo
    (leads : LeadsTo workspace.files (analyzeFile .suite path true) lines
      (finishFile .suite path true report))
    (asked : shortPrompt report.code report.entities report.relationships = .ok prompt) :
    AsksBeforeSaving workspace path lines prompt (report.resultsOf path []) := by
  have ran (reply : Reply) : (analyzeFile .suite path true).runIn (workspace.replying reply) =
      (finishFile .suite path true report).runIn ((workspace.replying reply).extended lines []) :=
    leads (workspace.replying reply) rfl
  constructor
  · intro message
    rw [ran, runIn_finishFile_suite asked, Workspace.extended_service]
    dsimp only [Workspace.replying, Reply.outcome]
    rw [Workspace.extended_extended, List.append_nil, List.nil_append]
  · intro free
    have writable := (Files.writable_name_iff validName_fileResults).mpr free
    have written := Files.writeBytes_eq_ok writable
      (Text.encodeUtf8 (Json.pretty (report.resultsOf path [])))
    refine ⟨_, written, Files.readBytes_writeBytes written, ?_⟩
    intro reply text answered
    have itsOutcome : (workspace.replying reply).service.reply.outcome = .ok text := answered
    rw [ran, runIn_finishFile_suite asked, Workspace.extended_service, itsOutcome]
    dsimp only
    rw [Workspace.extended_extended, runIn_close_of_writable, Workspace.holding_extended,
      Workspace.extended_extended]
    · rfl
    · exact writable

theorem exists_asksBeforeSaving (accepted : accepts workspace.files path = true) :
    ∃ code outline lines prompt, Files.readSource workspace.files path = .ok code ∧
      outlineOf code = .ok outline ∧
      AsksBeforeSaving workspace path (lines ++ [modelLine]) prompt
        ((reportOf path code outline).resultsOf path []) := by
  rcases exists_leadsTo_finishFile accepted with
    ⟨code, outline, lines, read, outlined, gives, -, -, leads⟩
  rcases gives.exists_shortPrompt code with ⟨prompt, asked⟩
  exact ⟨code, outline, lines, prompt, read, outlined,
    asksBeforeSaving_of_leadsTo (leads .suite true) asked⟩

/--
The suite completes with a file and saves its results exactly if the file is taken, the reply of the
language model does not fail, and no directory stands in the place of the results. For a file that
is taken, the saved results are its entities, calls and issues, and the same for all replies that do
not fail. With a failing reply the run fails too, and nothing is saved.
-/
theorem suite_saves_results_unless_reply_fails (workspace : Workspace) (path : String) :
    (((analyzeFile .suite path true).runIn workspace).1 = .ok () ↔
      accepts workspace.files path = true ∧
        (∃ text, workspace.service.reply.outcome = .ok text) ∧
        Files.isDirectory workspace.files fileResults = false) ∧
    (accepts workspace.files path = true →
      ∃ code outline lines prompt, Files.readSource workspace.files path = .ok code ∧
        outlineOf code = .ok outline ∧
        AsksBeforeSaving workspace path (lines ++ [modelLine]) prompt
          ((reportOf path code outline).resultsOf path [])) := by
  constructor
  · simpa using completes_file_iff .suite workspace path
  · intro accepted
    exact exists_asksBeforeSaving accepted

/-- A small file and a model that fails. -/
def failingWorkspace : Workspace where
  files := .of [("a.py", .file (Text.encodeUtf8 "x = 1\n"))] (by decide +kernel)
  service := { reply := .failure "quota" }

/-- With the same file and the same failing reply the analyser completes, and the suite fails and
saves nothing. -/
theorem suite_fails_where_analyzer_completes :
    accepts failingWorkspace.files "a.py" = true ∧
      ((analyzeFile .analyzer "a.py" true).runIn failingWorkspace).1 = .ok () ∧
      ((analyzeFile .suite "a.py" true).runIn failingWorkspace).1 = .error (.failed "quota") ∧
      ((analyzeFile .suite "a.py" true).runIn failingWorkspace).2.files =
        failingWorkspace.files := by
  have accepted : accepts failingWorkspace.files "a.py" = true := by decide +kernel
  have free : Files.isDirectory failingWorkspace.files fileResults = false := by decide +kernel
  have completed := (analyzer_completes_file_iff failingWorkspace "a.py").mpr ⟨accepted, free⟩
  rcases exists_asksBeforeSaving accepted with ⟨code, outline, lines, prompt, -, -, asks⟩
  have failed : (analyzeFile .suite "a.py" true).runIn failingWorkspace = _ := asks.fails "quota"
  refine ⟨accepted, completed, ?_, ?_⟩
  · rw [failed]
  · rw [failed]
    rfl

theorem suite_saves_results_of_calling_files_unless_reply_fails :
    ∃ code outline lines prompt, Files.readSource callingFiles "d/a.py" = .ok code ∧
      outlineOf code = .ok outline ∧
      AsksBeforeSaving { files := callingFiles, service := { reply := .nothing } } "d/a.py"
        (lines ++ [modelLine]) prompt ((reportOf "d/a.py" code outline).resultsOf "d/a.py" []) :=
  (suite_saves_results_unless_reply_fails
    { files := callingFiles, service := { reply := .nothing } } "d/a.py").2 (by decide +kernel)

end Command

end ErpLens
