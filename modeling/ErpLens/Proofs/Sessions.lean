import ErpLens.Analysis.Session
import ErpLens.Proofs.LevelOrder

/-!
# Sessions of analyses

One extractor, one call detector and one collection of issues are used again and again, in any order
and with faults in between.
-/

namespace ErpLens.Analysis

open Source

/-- One use of the analyses. The files may be others each time. -/
inductive Step where
  | extract (disk : Files.Disk) (path : String)
  | detect (code : String)
  | analyze (code : String)

/-- What a step answers: entities with the lines printed, a report of calls, or the issues so far.
-/
inductive Answer where
  | entities (printed : List String) (outcome : Outcome FileEntities)
  | calls (report : Value)
  | issues (outcome : Outcome Issues)

/-- The entities, or what stopped the extraction. -/
def Extraction.outcome (extraction : Extraction) : Outcome FileEntities :=
  match extraction.fault with
  | some fault => .error fault
  | none => .ok extraction.extractor.entities

namespace Session

/-- One step of a session and what it answers. -/
def step (session : Session) : Step → Session × Answer
  | .extract disk path =>
    let done := extractFile disk session.extractor path
    ({ session with extractor := done.extractor }, .entities done.printed done.outcome)
  | .detect code =>
    let (detector, report) := session.detector.detect code
    ({ session with detector }, .calls report)
  | .analyze code =>
    match session.issues.analyze code with
    | .ok issues => ({ session with issues }, .issues (.ok issues))
    | .error fault => (session, .issues (.error fault))

/-- A session after several steps. -/
def run (session : Session) (steps : List Step) : Session :=
  steps.foldl (fun session step => (session.step step).1) session

end Session

/-! ## What a history leaves -/

/-- What the last step that gives something gave. -/
def lastOf {α : Type} (given : Step → Option α) (steps : List Step) : Option α :=
  (steps.filterMap given).getLast?

theorem filterMap_concat_of_some {α : Type} {given : Step → Option α} {step : Step} {value : α}
    (gave : given step = some value) (steps : List Step) :
    (steps ++ [step]).filterMap given = steps.filterMap given ++ [value] := by
  simp [gave]

theorem filterMap_concat_of_none {α : Type} {given : Step → Option α} {step : Step}
    (nothing : given step = none) (steps : List Step) :
    (steps ++ [step]).filterMap given = steps.filterMap given := by
  simp [nothing]

theorem lastOf_concat {α : Type} (given : Step → Option α) (steps : List Step) (step : Step) :
    lastOf given (steps ++ [step]) = (given step).orElse fun _ => lastOf given steps := by
  cases gave : given step with
  | none => rw [lastOf, filterMap_concat_of_none gave, Option.orElse_none, lastOf]
  | some value =>
    rw [lastOf, filterMap_concat_of_some gave, List.getLast?_concat, Option.orElse_some]

namespace Step

/-- The extractor that a step leaves behind. -/
def extractor? : Step → Option Extractor
  | .extract disk path =>
    (Files.readSource disk path).toOption.map fun _ => (extractFile disk {} path).extractor
  | _ => none

/-- The name of the last function of the source in level order, if it has a syntax tree and a
function. -/
def function? : Step → Option String
  | .detect code =>
    (outlineOf code).toOption.bind fun outline => (outline.walk.filterMap functionName).getLast?
  | _ => none

/-- The table of calls that a step leaves behind. -/
def functionCalls? : Step → Option (List (String × List String))
  | .detect code => some (CallDetector.detect {} code).1.functionCalls
  | _ => none

/-- The issues that a step adds. -/
def issues? : Step → Option Issues
  | .analyze code => (Issues.analyze {} code).toOption
  | _ => none

end Step

def Issues.join (all : List Issues) : Issues :=
  { errors := all.flatMap (·.errors), warnings := all.flatMap (·.warnings) }

theorem Issues.join_concat (all : List Issues) (found : Issues) :
    Issues.join (all ++ [found]) =
      { errors := (Issues.join all).errors ++ found.errors
        warnings := (Issues.join all).warnings ++ found.warnings } := by
  simp [Issues.join]

/-- The state of a session is what its steps left behind. -/
structure Session.Follows (steps : List Step) (session : Session) : Prop where
  extractor : session.extractor = (lastOf Step.extractor? steps).getD {}
  currentFunction : session.detector.currentFunction = lastOf Step.function? steps
  functionCalls : session.detector.functionCalls = (lastOf Step.functionCalls? steps).getD []
  issues : session.issues = Issues.join (steps.filterMap Step.issues?)

/-! ## Steps -/

variable {code : String}

theorem outlineOf_of_parse {tree : Module} (parsed : parse code = .ok tree) :
    outlineOf code = .ok tree.outline := by
  rw [outlineOf, parsed]
  rfl

theorem analyze_of_outline {outline : Outline} (outlined : outlineOf code = .ok outline) :
    Issues.analyze {} code = .ok (issuesOf outline) := by
  simp [Issues.analyze, outlined]

theorem report_detect {outline : Outline} (outlined : outlineOf code = .ok outline)
    (detector : CallDetector) :
    (detector.detect code).2 = callReport (some (callRecords outline)) := by
  rw [CallDetector.detect, outlined]

theorem map_fst_definitions (outline : Outline) :
    (definitions outline).map Prod.fst = outline.walk.filterMap functionName := by
  rw [definitions, Tree.walk_eq_map, List.filterMap_map, List.map_filterMap]
  congr
  funext tree
  simp [Function.comp_def]

theorem extractFile_of_read {disk : Files.Disk} {path code : String}
    (read : Files.readSource disk path = .ok code) (extractor : Extractor) :
    extractFile disk extractor path = extractFile disk {} path := by
  simp only [extractFile, read]

theorem extractFile_of_error {disk : Files.Disk} {path : String} {fault : Fault}
    (unread : Files.readSource disk path = .error fault) (extractor : Extractor) :
    extractFile disk extractor path =
      { extractor, printed := [s!"Error reading file {path}: " ++ fault.message] } := by
  simp only [extractFile, unread]

theorem detect_eq (detector : CallDetector) (code : String) :
    detector.detect code =
      ({ (CallDetector.detect {} code).1 with
          currentFunction := (Step.function? (.detect code)).orElse fun _ =>
            detector.currentFunction },
        (CallDetector.detect {} code).2) := by
  cases outlined : outlineOf code with
  | error fault => simp [CallDetector.detect, Step.function?, outlined, Except.toOption]
  | ok outline =>
    simp [CallDetector.detect, Step.function?, outlined, map_fst_definitions, Except.toOption]

theorem analyze_eq (issues : Issues) (code : String) :
    issues.analyze code = (Issues.analyze {} code).map fun found =>
      { errors := issues.errors ++ found.errors
        warnings := issues.warnings ++ found.warnings } := by
  unfold Issues.analyze
  cases outlineOf code with
  | error fault => rfl
  | ok outline => simp [Except.map]

theorem Session.step_analyze_of_ok {found : Issues} (alone : Issues.analyze {} code = .ok found)
    (session : Session) {all : List Issues} (before : session.issues = Issues.join all) :
    session.step (.analyze code) =
      ({ session with issues := Issues.join (all ++ [found]) },
        .issues (.ok (Issues.join (all ++ [found])))) := by
  rw [Session.step, analyze_eq, alone, before, Issues.join_concat]
  rfl

theorem Session.step_analyze_of_error {fault : Fault}
    (refused : Issues.analyze {} code = .error fault) (session : Session) :
    session.step (.analyze code) = (session, .issues (.error fault)) := by
  rw [Session.step, analyze_eq, refused]
  rfl

theorem Session.step_analyze_others (session : Session) (code : String) :
    (session.step (.analyze code)).1.extractor = session.extractor ∧
      (session.step (.analyze code)).1.detector = session.detector := by
  rw [Session.step]
  cases session.issues.analyze code with
  | error fault => exact ⟨rfl, rfl⟩
  | ok issues => exact ⟨rfl, rfl⟩

namespace Session.Follows

theorem start : Follows [] {} where
  extractor := rfl
  currentFunction := rfl
  functionCalls := rfl
  issues := rfl

variable {steps : List Step} {session : Session} (follows : Follows steps session)

include follows

theorem step_extractor (next : Step) :
    (session.step next).1.extractor = (lastOf Step.extractor? (steps ++ [next])).getD {} := by
  rw [lastOf_concat]
  cases next with
  | extract disk path =>
    cases read : Files.readSource disk path with
    | error fault =>
      simpa [Session.step, extractFile_of_error read, Step.extractor?, read,
        Except.toOption] using follows.extractor
    | ok code =>
      simp [Session.step, extractFile_of_read read session.extractor, Step.extractor?, read,
        Except.toOption]
  | detect code => exact follows.extractor
  | analyze code =>
    rw [(session.step_analyze_others code).1]
    exact follows.extractor

theorem step_currentFunction (next : Step) :
    (session.step next).1.detector.currentFunction =
      lastOf Step.function? (steps ++ [next]) := by
  rw [lastOf_concat]
  cases next with
  | extract disk path => exact follows.currentFunction
  | detect code => rw [Session.step, detect_eq, follows.currentFunction]
  | analyze code =>
    rw [(session.step_analyze_others code).2]
    exact follows.currentFunction

theorem step_functionCalls (next : Step) :
    (session.step next).1.detector.functionCalls =
      (lastOf Step.functionCalls? (steps ++ [next])).getD [] := by
  rw [lastOf_concat]
  cases next with
  | extract disk path => exact follows.functionCalls
  | detect code =>
    rw [Session.step, detect_eq]
    rfl
  | analyze code =>
    rw [(session.step_analyze_others code).2]
    exact follows.functionCalls

theorem step_issues (next : Step) :
    (session.step next).1.issues = Issues.join ((steps ++ [next]).filterMap Step.issues?) := by
  cases next with
  | extract disk path =>
    rw [filterMap_concat_of_none rfl]
    exact follows.issues
  | detect code =>
    rw [filterMap_concat_of_none rfl]
    exact follows.issues
  | analyze code =>
    cases alone : Issues.analyze {} code with
    | error fault =>
      have nothing : Step.issues? (.analyze code) = none := by
        rw [Step.issues?, alone, Except.toOption]
      rw [session.step_analyze_of_error alone, filterMap_concat_of_none nothing]
      exact follows.issues
    | ok found =>
      have gave : Step.issues? (.analyze code) = some found := by
        rw [Step.issues?, alone, Except.toOption]
      rw [session.step_analyze_of_ok alone follows.issues, filterMap_concat_of_some gave]

theorem step (next : Step) :
    Follows (steps ++ [next]) (session.step next).1 where
  extractor := follows.step_extractor next
  currentFunction := follows.step_currentFunction next
  functionCalls := follows.step_functionCalls next
  issues := follows.step_issues next

theorem run (later : List Step) :
    Follows (steps ++ later) (session.run later) := by
  induction later generalizing steps session with
  | nil => simpa [Session.run] using follows
  | cons next rest ih =>
    have ran := ih (follows.step next)
    rw [List.append_assoc] at ran
    exact ran

end Session.Follows

/--
After any history of steps on analyses that had seen nothing before:
- the report on a source, and the calls of its functions that the detector then holds, are those of
  a detector that has seen nothing before; the function that the detector was last in is the last
  one, in level order, of the last source that has a syntax tree and a function;
- a file that can be read gives what an extractor that has seen nothing before gives, and leaves
  what that leaves; one that cannot be read gives the entities of the last file that could be read
  and leaves everything as it was;
- a source with a syntax tree gives all issues so far, each source's own ones in the order of the
  steps; one without is a fault and leaves everything as it was.
-/
theorem Session.step_run_follows_history (steps : List Step) :
    let session := Session.run {} steps
    (session.detector.currentFunction = lastOf Step.function? steps ∧
      session.detector.functionCalls = (lastOf Step.functionCalls? steps).getD [] ∧
      ∀ code, (session.step (.detect code)).2 = .calls (CallDetector.detect {} code).2 ∧
        (session.step (.detect code)).1.detector.functionCalls =
          (CallDetector.detect {} code).1.functionCalls) ∧
    (session.extractor = (lastOf Step.extractor? steps).getD {} ∧
      ∀ disk path, match Files.readSource disk path with
        | .ok _ =>
          (session.step (.extract disk path)).2 = (Session.step {} (.extract disk path)).2 ∧
          (session.step (.extract disk path)).1.extractor = (extractFile disk {} path).extractor
        | .error fault =>
          session.step (.extract disk path) =
            (session, .entities [s!"Error reading file {path}: " ++ fault.message]
              (.ok ((lastOf Step.extractor? steps).getD {}).entities))) ∧
    (session.issues = Issues.join (steps.filterMap Step.issues?) ∧
      ∀ code, match parse code with
        | .ok _ => ∃ found, Issues.analyze {} code = .ok found ∧
          (session.step (.analyze code)).2 =
            .issues (.ok (Issues.join (steps.filterMap Step.issues? ++ [found])))
        | .error fault =>
          session.step (.analyze code) = (session, .issues (.error (syntaxFault fault)))) := by
  intro session
  have follows : Session.Follows steps session := Session.Follows.start.run steps
  refine ⟨⟨follows.currentFunction, follows.functionCalls, ?_⟩, ⟨follows.extractor, ?_⟩,
    follows.issues, ?_⟩
  · intro code
    rw [Session.step, detect_eq]
    exact ⟨rfl, rfl⟩
  · intro disk path
    cases read : Files.readSource disk path with
    | ok code => simp [Session.step, extractFile_of_read read session.extractor]
    | error fault =>
      simp only [Session.step, extractFile_of_error read, Extraction.outcome, ← follows.extractor]
  · intro code
    cases parsed : parse code with
    | ok tree =>
      have alone := analyze_of_outline (outlineOf_of_parse parsed)
      exact ⟨_, alone, by rw [session.step_analyze_of_ok alone follows.issues]⟩
    | error fault =>
      refine session.step_analyze_of_error ?_
      simp [Issues.analyze, outlineOf, parsed, Except.map]

end ErpLens.Analysis
