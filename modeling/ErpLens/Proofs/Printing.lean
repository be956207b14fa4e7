import ErpLens.Proofs.ProgramRuns
import ErpLens.Report.Prompt

/-!
# What programs print

A program never takes back what it has printed. So the lines that a part of it prints are found in
the whole output, even if a later part fails.
-/

namespace ErpLens.Program

variable {α β : Type}

/-! ## Output only grows -/

/-- What was printed before a program runs is the start of what is printed after it. -/
def Grows (program : Program α) : Prop :=
  ∀ workspace, ∃ more, (program.runIn workspace).2.printed = workspace.printed ++ more

namespace Grows

variable {program : Program α}

theorem of_printed_eq
    (same : ∀ workspace, (program.runIn workspace).2.printed = workspace.printed) : Grows program :=
  fun workspace => ⟨"", by rw [same, String.append_empty]⟩

theorem pure (value : α) : Grows (Pure.pure value) :=
  of_printed_eq fun _ => rfl

theorem lift (outcome : Outcome α) : Grows (liftM outcome) :=
  of_printed_eq fun _ => rfl

theorem fail (fault : Fault) : Grows (Program.fail fault : Program α) :=
  of_printed_eq fun _ => rfl

theorem files : Grows Program.files :=
  of_printed_eq fun _ => rfl

theorem service : Grows Program.service :=
  of_printed_eq fun _ => rfl

theorem ask (request : Request) : Grows (Program.ask request) :=
  of_printed_eq fun _ => rfl

theorem say (line : String) : Grows (Program.say line) :=
  fun _ => ⟨line ++ "\n", rfl⟩

theorem bind {next : α → Program β} (first : Grows program) (later : ∀ value, Grows (next value)) :
    Grows (program >>= next) := by
  intro workspace
  rcases first workspace with ⟨more, printed⟩
  rw [runIn_bind]
  rcases ran : program.runIn workspace with ⟨outcome, after⟩
  rw [ran] at printed
  cases outcome with
  | error fault => exact ⟨more, printed⟩
  | ok value =>
    rcases later value after with ⟨rest, printedLater⟩
    exact ⟨more ++ rest, by rw [printedLater, printed, String.append_assoc]⟩

theorem ite {condition : Prop} [Decidable condition] {other : Program α} (first : Grows program)
    (second : Grows other) : Grows (if condition then program else other) := by
  split
  · exact first
  · exact second

theorem mapM {step : α → Program β} (each : ∀ item, Grows (step item)) (items : List α) :
    Grows (items.mapM step) := by
  induction items with
  | nil => exact pure []
  | cons item rest ih =>
    rw [List.mapM_cons]
    exact bind (each item) fun _ => bind ih fun _ => pure _

theorem attempt (grows : Grows program) : Grows (Program.attempt program) :=
  grows

theorem writeFile (path text : String) : Grows (Program.writeFile path text) :=
  bind files fun _ => bind (lift _) fun _ => of_printed_eq fun _ => rfl

theorem readSource (path : String) : Grows (Program.readSource path) :=
  bind files fun _ => lift _

theorem generate (prompt : String) : Grows (Program.generate prompt) := by
  refine bind (ask _) fun _ => bind service fun service => ?_
  split
  · exact pure _
  · exact pure _
  · exact fail _

end Grows

/-! ## Known lines -/

/-- In any workspace, a program prints some lines, changes nothing else and gives a value. -/
def Prints (program : Program α) (lines : List String) (value : α) : Prop :=
  ∀ workspace, program.runIn workspace = (.ok value, workspace.extended lines [])

namespace Prints

variable {value : α} {lines : List String}

theorem pure (value : α) : Prints (Pure.pure value) [] value := by
  intro workspace
  simp

theorem lift {outcome : Outcome α} (known : outcome = .ok value) :
    Prints (liftM outcome) [] value := by
  intro workspace
  rw [runIn_lift, known, Workspace.extended_nil]

theorem say (line : String) : Prints (Program.say line) [line] () :=
  runIn_say line

theorem bind {program : Program α} {next : α → Program β} {more : List String} {result : β}
    (first : Prints program lines value) (later : Prints (next value) more result) :
    Prints (program >>= next) (lines ++ more) result := by
  intro workspace
  rw [runIn_bind_ok (first workspace), later, Workspace.extended_extended, List.append_nil]

theorem bind_say {line : String} {next : Unit → Program β} {result : β}
    (later : Prints (next ()) lines result) :
    Prints (Program.say line >>= next) (line :: lines) result :=
  bind (say line) later

theorem bind_silent {program : Program α} {next : α → Program β} {result : β}
    (first : Prints program [] value) (later : Prints (next value) lines result) :
    Prints (program >>= next) lines result :=
  bind first later

theorem bind_lift {outcome : Outcome α} {next : α → Program β} {result : β}
    (known : outcome = .ok value) (later : Prints (next value) lines result) :
    Prints (liftM outcome >>= next) lines result :=
  bind_silent (lift known) later

end Prints

/-- In any workspace, a program prints lines that need not be known, and gives a value. -/
def PrintsSome (program : Program α) (value : α) : Prop :=
  ∃ lines, Prints program lines value

namespace PrintsSome

theorem pure (value : α) : PrintsSome (Pure.pure value) value :=
  ⟨[], .pure value⟩

theorem say (line : String) : PrintsSome (Program.say line) () :=
  ⟨[line], .say line⟩

theorem bind {program : Program α} {next : α → Program β} {value : α} {result : β}
    (first : PrintsSome program value) (later : PrintsSome (next value) result) :
    PrintsSome (program >>= next) result := by
  rcases first with ⟨lines, printed⟩
  rcases later with ⟨more, printedLater⟩
  exact ⟨lines ++ more, .bind printed printedLater⟩

theorem bind_lift {outcome : Outcome α} {next : α → Program β} {value : α} {result : β}
    (known : outcome = .ok value) (later : PrintsSome (next value) result) :
    PrintsSome (liftM outcome >>= next) result :=
  bind ⟨[], .lift known⟩ later

theorem ite {condition : Prop} [Decidable condition] {program other : Program α} {value : α}
    (first : condition → PrintsSome program value) (second : ¬condition → PrintsSome other value) :
    PrintsSome (if condition then program else other) value := by
  split
  · rename_i holds
    exact first holds
  · rename_i fails
    exact second fails

theorem forM {step : α → Program Unit} {items : List α}
    (each : ∀ item ∈ items, PrintsSome (step item) ()) : PrintsSome (items.forM step) () := by
  induction items with
  | nil => exact pure ()
  | cons item rest ih =>
    exact bind (each item List.mem_cons_self)
      (ih fun other mem => each other (List.mem_cons_of_mem _ mem))

end PrintsSome

/-! ## Lines within the output -/

theorem RunsFrom.of_prints {disk : Files.Disk} {program : Program α} {lines : List String}
    {value : α} (prints : Prints program lines value) : RunsFrom disk program lines (.ok value) :=
  fun workspace _ => prints workspace

/-- In every workspace with some files, a program prints lines with some known parts, of which the
last line is known too, and goes on as another. -/
def ReachesLine (disk : Files.Disk) (program : Program α) (parts : List (List String))
    (line : String) (target : Program α) : Prop :=
  ∃ lines, (∀ part ∈ parts, part <:+: lines) ∧ LeadsTo disk program (lines ++ [line]) target

namespace ReachesLine

variable {disk : Files.Disk} {program : Program α} {next : α → Program β}
  {lines part : List String} {parts : List (List String)} {line : String} {value : α}
  {target : Program β}

theorem showing (first : RunsFrom disk program (part ++ lines) (.ok value))
    (later : ReachesLine disk (next value) parts line target) :
    ReachesLine disk (program >>= next) (part :: parts) line target := by
  rcases later with ⟨more, shown, leads⟩
  refine ⟨part ++ lines ++ more, ?_, ?_⟩
  · intro other mem
    rcases List.mem_cons.mp mem with rfl | mem
    · exact ⟨[], lines ++ more, by simp⟩
    · exact (shown other mem).trans (List.suffix_append _ _).isInfix
  · rw [List.append_assoc]
    exact .bind first leads

theorem after (first : RunsFrom disk program lines (.ok value))
    (later : ReachesLine disk (next value) parts line target) :
    ReachesLine disk (program >>= next) parts line target := by
  rcases @showing _ _ _ _ _ lines [] _ _ _ _ first later with ⟨all, shown, leads⟩
  exact ⟨all, fun part mem => shown part (List.mem_cons_of_mem _ mem), leads⟩

theorem afterSome (first : PrintsSome program value)
    (later : ReachesLine disk (next value) parts line target) :
    ReachesLine disk (program >>= next) parts line target := by
  rcases first with ⟨lines, prints⟩
  exact after (.of_prints prints) later

theorem now {next : Unit → Program β} :
    ReachesLine disk (Program.say line >>= next) [] line (next ()) :=
  ⟨[], by simp, .past (.say line)⟩

end ReachesLine

/-- From a workspace, the output of a program has some lines one after the other. -/
def Shows (program : Program α) (workspace : Workspace) (lines : List String) : Prop :=
  ∃ before after, (program.runIn workspace).2.printed =
    workspace.printed ++ before ++ String.join (lines.map (· ++ "\n")) ++ after

/-- What is printed on the way to the rest of a program is in the output, whatever the rest does. -/
theorem Shows.of_leadsTo {disk : Files.Disk} {program target : Program α} {workspace : Workspace}
    {lines part : List String} (leads : LeadsTo disk program lines target)
    (filesEq : workspace.files = disk) (shown : part <:+: lines) (grows : Grows target) :
    Shows program workspace part := by
  rcases shown with ⟨before, after, rfl⟩
  rcases grows (workspace.extended (before ++ part ++ after) []) with ⟨later, printed⟩
  refine ⟨String.join (before.map (· ++ "\n")), String.join (after.map (· ++ "\n")) ++ later, ?_⟩
  rw [leads workspace filesEq, printed]
  simp [Workspace.extended, String.append_assoc]

end ErpLens.Program

namespace ErpLens.Report

open Program

/-! ## Reports -/

theorem grows_assessment (text : String) : Grows (assessment text) :=
  .bind (.say _) fun _ => .say _

theorem grows_save (data : Value) (path : String) : Grows (save data path) :=
  .bind (.writeFile _ _) fun _ => .say _

theorem grows_insights (code : String) (found calls : Value) :
    Grows (insights code found calls) := by
  refine .bind (.attempt (.bind (.lift _) fun _ => .generate _)) fun outcome => ?_
  split
  · exact .pure _
  · exact .pure _
  · exact .pure _

end ErpLens.Report
