import ErpLens.Program

/-!
# Runs of programs

A program that only reads files, prints and asks adds to what was printed and asked and leaves the
rest as it is. A procedure has variables besides.
-/

namespace ErpLens

/-- A workspace after more was printed and asked. -/
def Workspace.extended (workspace : Workspace) (lines : List String) (requests : List Request) :
    Workspace :=
  { workspace with
    printed := workspace.printed ++ String.join (lines.map (· ++ "\n"))
    requests := workspace.requests ++ requests }

namespace Workspace

@[simp]
theorem extended_files (workspace : Workspace) (lines : List String) (requests : List Request) :
    (workspace.extended lines requests).files = workspace.files :=
  rfl

@[simp]
theorem extended_service (workspace : Workspace) (lines : List String) (requests : List Request) :
    (workspace.extended lines requests).service = workspace.service :=
  rfl

@[simp]
theorem extended_nil (workspace : Workspace) : workspace.extended [] [] = workspace := by
  simp [extended]

@[simp]
theorem extended_extended (workspace : Workspace) (lines moreLines : List String)
    (requests moreRequests : List Request) :
    (workspace.extended lines requests).extended moreLines moreRequests =
      workspace.extended (lines ++ moreLines) (requests ++ moreRequests) := by
  simp [extended, String.append_assoc]

end Workspace

/-- A workspace with other files. -/
def Workspace.holding (workspace : Workspace) (files : Files.Disk) : Workspace :=
  { workspace with files }

@[simp]
theorem Workspace.holding_files (workspace : Workspace) (files : Files.Disk) :
    (workspace.holding files).files = files :=
  rfl

theorem Workspace.holding_extended (workspace : Workspace) (files : Files.Disk)
    (lines : List String) (requests : List Request) :
    (workspace.extended lines requests).holding files =
      (workspace.holding files).extended lines requests :=
  rfl

/-- What asking the language model gives. -/
def Reply.outcome : Reply → Outcome (Option String)
  | .text value => .ok (some value)
  | .nothing => .ok none
  | .failure message => .error (.failed message)

namespace Program

variable {α β : Type}

@[simp]
theorem runIn_pure (value : α) (workspace : Workspace) :
    (pure value : Program α).runIn workspace = (.ok value, workspace) :=
  rfl

theorem runIn_bind (program : Program α) (next : α → Program β) (workspace : Workspace) :
    (program >>= next).runIn workspace =
      match program.runIn workspace with
      | (.ok value, after) => (next value).runIn after
      | (.error fault, after) => (.error fault, after) := by
  unfold runIn
  simp only [bind, ExceptT.bind, ExceptT.run, ExceptT.mk, StateT.run, StateT.bind, ExceptT.bindCont]
  rcases program workspace with ⟨outcome, after⟩
  cases outcome <;> rfl

theorem runIn_bind_ok {program : Program α} {next : α → Program β} {workspace after : Workspace}
    {value : α} (ran : program.runIn workspace = (.ok value, after)) :
    (program >>= next).runIn workspace = (next value).runIn after := by
  rw [runIn_bind, ran]

@[simp]
theorem runIn_files (workspace : Workspace) :
    files.runIn workspace = (.ok workspace.files, workspace) :=
  rfl

@[simp]
theorem runIn_service (workspace : Workspace) :
    service.runIn workspace = (.ok workspace.service, workspace) :=
  rfl

@[simp]
theorem runIn_say (line : String) (workspace : Workspace) :
    (say line).runIn workspace = (.ok (), workspace.extended [line] []) := by
  have joined : String.join ([line].map (· ++ "\n")) = line ++ "\n" := by simp
  rw [Workspace.extended, joined, List.append_nil]
  rfl

@[simp]
theorem runIn_ask (request : Request) (workspace : Workspace) :
    (ask request).runIn workspace = (.ok (), workspace.extended [] [request]) := by
  have joined : String.join (([] : List String).map (· ++ "\n")) = "" := rfl
  rw [Workspace.extended, joined, String.append_empty]
  rfl

theorem runIn_lift (outcome : Outcome α) (workspace : Workspace) :
    (liftM outcome : Program α).runIn workspace = (outcome, workspace) :=
  rfl

theorem runIn_generate (prompt : String) (workspace : Workspace) :
    (generate prompt).runIn workspace =
      (workspace.service.reply.outcome,
        workspace.extended [] [.generate "gemini-2.5-flash" prompt]) := by
  rw [generate, runIn_bind_ok (runIn_ask _ workspace), runIn_bind_ok (runIn_service _),
    Workspace.extended_service]
  cases workspace.service.reply <;> rfl

theorem runIn_writeFile (workspace : Workspace) (path text : String) :
    (writeFile path text).runIn workspace =
      match Files.writeBytes workspace.files path (Text.encodeUtf8 text) with
      | .ok changed => (.ok (), { workspace with files := changed })
      | .error fault => (.error fault, workspace) := by
  rw [writeFile, runIn_bind_ok (runIn_files workspace), runIn_bind, runIn_lift]
  cases Files.writeBytes workspace.files path (Text.encodeUtf8 text) with
  | ok changed => rfl
  | error fault => rfl

theorem runIn_attempt (program : Program α) (workspace : Workspace) :
    (attempt program).runIn workspace =
      (.ok (program.runIn workspace).1, (program.runIn workspace).2) :=
  rfl

@[simp]
theorem runIn_forM_say (lines : List String) (workspace : Workspace) :
    (lines.forM say).runIn workspace = (.ok (), workspace.extended lines []) := by
  induction lines generalizing workspace with
  | nil => simp
  | cons line rest ih =>
    change (say line >>= fun _ => rest.forM say).runIn workspace = _
    rw [runIn_bind_ok (runIn_say line workspace), ih, Workspace.extended_extended]
    rfl

/-! ## Programs that depend on files only -/

/-- In every workspace with some files, a program prints some lines, changes nothing else and has
some outcome. -/
def RunsFrom (disk : Files.Disk) (program : Program α) (lines : List String)
    (outcome : Outcome α) : Prop :=
  ∀ workspace, workspace.files = disk →
    program.runIn workspace = (outcome, workspace.extended lines [])

/-- In every workspace with some files, a program prints some lines and goes on as another. -/
def LeadsTo (disk : Files.Disk) (program : Program α) (lines : List String)
    (target : Program α) : Prop :=
  ∀ workspace, workspace.files = disk →
    program.runIn workspace = target.runIn (workspace.extended lines [])

variable {disk : Files.Disk} {program : Program α} {next : α → Program β}
  {lines more : List String} {value : α}

namespace RunsFrom

variable {outcome : Outcome β}

theorem pure (value : α) : RunsFrom disk (Pure.pure value) [] (.ok value) := by
  intro workspace _
  rw [runIn_pure, Workspace.extended_nil]

theorem say (line : String) : RunsFrom disk (Program.say line) [line] (.ok ()) :=
  fun workspace _ => runIn_say line workspace

theorem files : RunsFrom disk Program.files [] (.ok disk) := by
  intro workspace filesEq
  rw [runIn_files, filesEq, Workspace.extended_nil]

theorem lift {result outcome : Outcome α} (known : result = outcome) :
    RunsFrom disk (liftM result) [] outcome := by
  intro workspace _
  rw [runIn_lift, known, Workspace.extended_nil]

theorem bind (first : RunsFrom disk program lines (.ok value))
    (later : RunsFrom disk (next value) more outcome) :
    RunsFrom disk (program >>= next) (lines ++ more) outcome := by
  intro workspace filesEq
  rw [runIn_bind_ok (first workspace filesEq), later (workspace.extended lines []) filesEq,
    Workspace.extended_extended, List.append_nil]

theorem bind_line {line : String} (first : RunsFrom disk program [line] (.ok value))
    (later : RunsFrom disk (next value) more outcome) :
    RunsFrom disk (program >>= next) (line :: more) outcome :=
  bind first later

theorem bind_say {line : String} {next : Unit → Program β}
    (later : RunsFrom disk (next ()) more outcome) :
    RunsFrom disk (Program.say line >>= next) (line :: more) outcome :=
  bind_line (say line) later

theorem bind_silent (first : RunsFrom disk program [] (.ok value))
    (later : RunsFrom disk (next value) more outcome) :
    RunsFrom disk (program >>= next) more outcome :=
  bind first later

theorem exists_bind (first : RunsFrom disk program lines (.ok value))
    (later : ∃ more, RunsFrom disk (next value) more outcome) :
    ∃ all, RunsFrom disk (program >>= next) all outcome := by
  rcases later with ⟨more, runs⟩
  exact ⟨lines ++ more, bind first runs⟩

theorem stop {fault : Fault} (first : RunsFrom disk program lines (.error fault)) :
    RunsFrom disk (program >>= next) lines (.error fault) := by
  intro workspace filesEq
  rw [runIn_bind, first workspace filesEq]

theorem readSource {path : String} {outcome : Outcome String}
    (read : Files.readSource disk path = outcome) :
    RunsFrom disk (Program.readSource path) [] outcome :=
  bind_silent files (lift read)

end RunsFrom

namespace LeadsTo

variable {target : Program β}

theorem past (first : RunsFrom disk program lines (.ok value)) :
    LeadsTo disk (program >>= next) lines (next value) :=
  fun workspace filesEq => runIn_bind_ok (first workspace filesEq)

theorem past_to (first : RunsFrom disk program lines (.ok value))
    (reaches : next value = target) : LeadsTo disk (program >>= next) lines target :=
  reaches ▸ past first

theorem trans {program between target : Program α} (first : LeadsTo disk program lines between)
    (later : LeadsTo disk between more target) : LeadsTo disk program (lines ++ more) target := by
  intro workspace filesEq
  rw [first workspace filesEq, later (workspace.extended lines []) filesEq,
    Workspace.extended_extended, List.append_nil]

theorem bind (first : RunsFrom disk program lines (.ok value))
    (later : LeadsTo disk (next value) more target) :
    LeadsTo disk (program >>= next) (lines ++ more) target :=
  (LeadsTo.past first).trans later

theorem bind_silent (first : RunsFrom disk program [] (.ok value))
    (later : LeadsTo disk (next value) more target) : LeadsTo disk (program >>= next) more target :=
  .bind first later

theorem bind_of_silent (first : RunsFrom disk program lines (.ok value))
    (later : LeadsTo disk (next value) [] target) : LeadsTo disk (program >>= next) lines target :=
  lines.append_nil ▸ LeadsTo.bind first later

theorem bind_say {line : String} {next : Unit → Program β}
    (later : LeadsTo disk (next ()) more target) :
    LeadsTo disk (Program.say line >>= next) (line :: more) target :=
  .bind (.say line) later

end LeadsTo

end Program

namespace Procedure

open Program

variable {σ α β : Type}

/-! ## Procedures -/

theorem runIn_bind (procedure : Procedure σ α) (next : α → Procedure σ β) (locals : σ)
    (workspace : Workspace) :
    (procedure >>= next).runIn locals workspace =
      match procedure.runIn locals workspace with
      | ((.ok value, changed), after) => (next value).runIn changed after
      | ((.error fault, changed), after) => ((.error fault, changed), after) := by
  unfold runIn
  simp only [bind, ExceptT.bind, ExceptT.run, ExceptT.mk, StateT.run, StateT.bind, ExceptT.bindCont]
  rcases procedure locals workspace with ⟨⟨outcome, changed⟩, after⟩
  cases outcome <;> rfl

theorem runIn_bind_ok {procedure : Procedure σ α} {next : α → Procedure σ β}
    {locals changed : σ} {workspace after : Workspace} {value : α}
    (ran : procedure.runIn locals workspace = ((.ok value, changed), after)) :
    (procedure >>= next).runIn locals workspace = (next value).runIn changed after := by
  rw [runIn_bind, ran]

@[simp]
theorem runIn_pure (value : α) (locals : σ) (workspace : Workspace) :
    (pure value : Procedure σ α).runIn locals workspace = ((.ok value, locals), workspace) :=
  rfl

@[simp]
theorem runIn_fetch (locals : σ) (workspace : Workspace) :
    (fetch : Procedure σ σ).runIn locals workspace = ((.ok locals, locals), workspace) :=
  rfl

@[simp]
theorem runIn_update (change : σ → σ) (locals : σ) (workspace : Workspace) :
    (update change).runIn locals workspace = ((.ok (), change locals), workspace) :=
  rfl

/-- A program in a procedure leaves the variables alone. -/
theorem runIn_lift {program : Program α} {outcome : Outcome α} {workspace after : Workspace}
    (ran : program.runIn workspace = (outcome, after)) (locals : σ) :
    (liftM program : Procedure σ α).runIn locals workspace = ((outcome, locals), after) := by
  have lifted : (liftM program : Procedure σ α).runIn locals workspace =
      (((program.runIn workspace).1, locals), (program.runIn workspace).2) := rfl
  rw [lifted, ran]

theorem runIn_perform {procedure : Procedure σ Unit} {start : σ} {outcome : Outcome Unit}
    {locals : σ} {workspace after : Workspace}
    (ran : procedure.runIn start workspace = ((outcome, locals), after)) :
    (perform procedure start).runIn workspace = (outcome.map fun _ => locals, after) := by
  have performed : (perform procedure start).runIn workspace =
      ((procedure.runIn start workspace).1.1.map fun _ => (procedure.runIn start workspace).1.2,
        (procedure.runIn start workspace).2) := rfl
  rw [performed, ran]

/-- What was assigned before a fault is still there when the fault is handled. -/
theorem runIn_tryCatch (procedure : Procedure σ α) (handler : Fault → Procedure σ α)
    (locals : σ) (workspace : Workspace) :
    (tryCatch procedure handler).runIn locals workspace =
      match procedure.runIn locals workspace with
      | ((.ok value, changed), after) => ((.ok value, changed), after)
      | ((.error fault, changed), after) => (handler fault).runIn changed after := by
  unfold runIn
  simp only [tryCatch, tryCatchThe, MonadExceptOf.tryCatch, ExceptT.tryCatch, ExceptT.run,
    ExceptT.mk]
  rw [StateT.run_bind, StateT.run_bind]
  rcases StateT.run (StateT.run procedure locals) workspace with ⟨⟨outcome, changed⟩, after⟩
  cases outcome <;> rfl

/-- In every workspace with some files, a procedure that starts with some variables prints some
lines, changes nothing else of the workspace, has some outcome and leaves some variables. -/
def Takes (disk : Files.Disk) (procedure : Procedure σ α) (before : σ) (lines : List String)
    (outcome : Outcome α) (after : σ) : Prop :=
  ∀ workspace, workspace.files = disk →
    procedure.runIn before workspace = ((outcome, after), workspace.extended lines [])

namespace Takes

variable {disk : Files.Disk} {procedure : Procedure σ α} {next : α → Procedure σ β}
  {before between after : σ} {lines more : List String} {value : α}

theorem pure (value : α) : Takes disk (Pure.pure value) before [] (.ok value) before := by
  intro workspace _
  rw [runIn_pure, Workspace.extended_nil]

theorem fetch : Takes disk fetch before [] (.ok before) before := by
  intro workspace _
  rw [runIn_fetch, Workspace.extended_nil]

theorem update (change : σ → σ) :
    Takes disk (update change) before [] (.ok ()) (change before) := by
  intro workspace _
  rw [runIn_update, Workspace.extended_nil]

theorem lift {program : Program α} {outcome : Outcome α}
    (runs : RunsFrom disk program lines outcome) :
    Takes disk (liftM program) before lines outcome before :=
  fun workspace filesEq => runIn_lift (runs workspace filesEq) before

theorem lift_except (outcome : Outcome α) :
    Takes disk (liftM outcome) before [] outcome before := by
  intro workspace _
  rw [Workspace.extended_nil]
  rfl

theorem bind {outcome : Outcome β} (first : Takes disk procedure before lines (.ok value) between)
    (later : Takes disk (next value) between more outcome after) :
    Takes disk (procedure >>= next) before (lines ++ more) outcome after := by
  intro workspace filesEq
  rw [runIn_bind_ok (first workspace filesEq), later (workspace.extended lines []) filesEq,
    Workspace.extended_extended, List.append_nil]

theorem bind_silent {outcome : Outcome β}
    (first : Takes disk procedure before [] (.ok value) between)
    (later : Takes disk (next value) between more outcome after) :
    Takes disk (procedure >>= next) before more outcome after :=
  bind first later

theorem stop {fault : Fault} (first : Takes disk procedure before lines (.error fault) after) :
    Takes disk (procedure >>= next) before lines (.error fault) after := by
  intro workspace filesEq
  rw [runIn_bind, first workspace filesEq]

theorem update_to {change : σ → σ} (reaches : change before = after) :
    Takes disk (Procedure.update change) before [] (.ok ()) after :=
  reaches ▸ update change

/-- A loop that adds something to a variable for each item. -/
theorem forM_collect {ι γ : Type} (collect : List γ → σ → σ)
    (none : ∀ locals, collect [] locals = locals)
    (more : ∀ first second locals,
      collect second (collect first locals) = collect (first ++ second) locals)
    (kind : ι → γ) (items : List ι) (before : σ) :
    Takes disk (items.forM fun item => Procedure.update (collect [kind item])) before [] (.ok ())
      (collect (items.map kind) before) := by
  induction items generalizing before with
  | nil =>
    rw [List.map_nil, none]
    exact pure ()
  | cons item rest ih =>
    have later := ih (collect [kind item] before)
    rw [more] at later
    exact bind_silent (update _) later

theorem tryCatch_of_ok {handler : Fault → Procedure σ α}
    (runs : Takes disk procedure before lines (.ok value) after) :
    Takes disk (tryCatch procedure handler) before lines (.ok value) after := by
  intro workspace filesEq
  rw [runIn_tryCatch, runs workspace filesEq]

theorem tryCatch_of_error {handler : Fault → Procedure σ α} {fault : Fault} {outcome : Outcome α}
    (fails : Takes disk procedure before lines (.error fault) between)
    (handled : Takes disk (handler fault) between more outcome after) :
    Takes disk (tryCatch procedure handler) before (lines ++ more) outcome after := by
  intro workspace filesEq
  rw [runIn_tryCatch, fails workspace filesEq]
  dsimp only
  rw [handled (workspace.extended lines []) filesEq, Workspace.extended_extended, List.append_nil]

theorem perform {procedure : Procedure σ Unit}
    (runs : Takes disk procedure before lines (.ok ()) after) :
    RunsFrom disk (perform procedure before) lines (.ok after) :=
  fun workspace filesEq => runIn_perform (runs workspace filesEq)

end Takes

end Procedure

end ErpLens
