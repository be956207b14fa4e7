import ErpLens.Proofs.Fields
import ErpLens.Proofs.Outcomes
import ErpLens.Proofs.ProgramRuns
import ErpLens.Retrieval.Query
import Mathlib.Data.List.Forall2

/-!
# Answers depend on the hits in scope only

A question with a folder is answered from the hits whose folder passes. Two lists of hits may differ
in all that does not pass, and still the same is asked and answered.
-/

namespace ErpLens

variable (workspace : Workspace)

/-- A workspace in which a search gives certain hits. -/
def Workspace.finding (hits : List Hit) : Workspace :=
  { workspace with service := { workspace.service with hits } }

theorem Workspace.hits_finding (hits : List Hit) :
    (workspace.finding hits).service.hits = hits :=
  rfl

theorem Workspace.reply_finding (hits : List Hit) :
    (workspace.finding hits).service.reply = workspace.service.reply :=
  rfl

namespace Retrieval

open Program

/-! ## Hits that pass -/

variable (folder : Option String)

/-- Whether a hit passes; without a folder all do. -/
def inScope (hit : Hit) : Outcome Bool :=
  match given folder with
  | none => .ok true
  | some folder => passes folder hit

/-- The sub-list of the hits that pass the folder test, which has an answer for each hit. -/
inductive Passing (folder : Option String) : List Hit → List Hit → Prop
  | nil : Passing folder [] []
  | kept {hit : Hit} {hits passing : List Hit} (passes : inScope folder hit = .ok true)
      (rest : Passing folder hits passing) : Passing folder (hit :: hits) (hit :: passing)
  | dropped {hit : Hit} {hits passing : List Hit} (fails : inScope folder hit = .ok false)
      (rest : Passing folder hits passing) : Passing folder (hit :: hits) passing

/-- What stands side by side in the three lists of some hits are these hits. -/
theorem Retrieved.hits_ofHits (hits : List Hit) : (Retrieved.ofHits hits).hits = hits := by
  simp [Retrieved.hits, Retrieved.ofHits, List.zip_map', Function.comp_def]

/-- The hits that are kept for a folder, before they are taken apart into lists. -/
def hitsInScope (hits : List Hit) : Outcome (List Hit) :=
  match given folder with
  | none => .ok hits
  | some folder => keepPassing folder hits

theorem scopeHits_ofHits (hits : List Hit) :
    scopeHits folder (.ofHits hits) = (hitsInScope folder hits).map .ofHits := by
  unfold scopeHits hitsInScope
  cases given folder with
  | none => rfl
  | some name =>
    dsimp only
    rw [Retrieved.hits_ofHits]
    cases keepPassing name hits <;> rfl

theorem hitsInScope_nil : hitsInScope folder [] = .ok [] := by
  rw [hitsInScope]
  cases given folder <;> rfl

theorem hitsInScope_cons (hit : Hit) (rest : List Hit) :
    hitsInScope folder (hit :: rest) = (do
      let passing ← inScope folder hit
      let kept ← hitsInScope folder rest
      return if passing then hit :: kept else kept) := by
  unfold hitsInScope inScope
  cases given folder <;> rfl

theorem hitsInScope_eq_ok_iff {folder : Option String} {hits passing : List Hit} :
    hitsInScope folder hits = .ok passing ↔ Passing folder hits passing := by
  constructor
  · intro found
    induction hits generalizing passing with
    | nil =>
      rw [hitsInScope_nil, Except.ok.injEq] at found
      exact found ▸ .nil
    | cons hit rest ih =>
      rw [hitsInScope_cons] at found
      rcases bind_eq_ok.mp found with ⟨answer, tested, later⟩
      rcases bind_eq_ok.mp later with ⟨kept, keptRest, whole⟩
      have passingEq : (if answer then hit :: kept else kept) = passing := Except.ok.inj whole
      cases answer with
      | true => exact passingEq ▸ .kept tested (ih keptRest)
      | false => exact passingEq ▸ .dropped tested (ih keptRest)
  · intro inFolder
    induction inFolder with
    | nil => exact hitsInScope_nil folder
    | kept passes _ ih =>
      rw [hitsInScope_cons, passes, ok_bind, ih]
      rfl
    | dropped fails _ ih =>
      rw [hitsInScope_cons, fails, ok_bind, ih]
      rfl

/-! ## The prompt -/

/-- The question to the model up to the hits. -/
def promptOpening : String :=
  Text.joinLines [
    "",
    "    You are an ERPNext backend expert.",
    "",
    "    Use ONLY the context below to answer.",
    "",
    "    === RELEVANT CODE CONTEXT ===\n\n"]

variable (question : String)

/-- The question to the model after the hits. -/
def promptClosing : String :=
  "\n" ++ Text.joinLines [
    "",
    "    Question:",
    "    " ++ question,
    "",
    "    Give a concise, developer-focused answer.",
    "    "]

theorem joinLines_around (before : List String) (line text : String) {after : List String}
    (more : after ≠ []) :
    Text.joinLines (before ++ (line ++ text) :: after) =
      Text.joinLines (before ++ [line]) ++ text ++ ("\n" ++ Text.joinLines after) := by
  have last (end_ : String) : Text.joinLines (before ++ [end_]) =
      (if before = [] then "" else Text.joinLines before ++ "\n") ++ end_ := by
    by_cases first : before = []
    · simp [first, Text.joinLines]
    · simp [first, Text.joinLines, String.intercalate_append_of_ne_nil]
  have whole : Text.joinLines ((before ++ [line ++ text]) ++ after) =
      Text.joinLines (before ++ [line ++ text]) ++ "\n" ++ Text.joinLines after :=
    String.intercalate_append_of_ne_nil (by simp) more
  rw [List.append_assoc, List.singleton_append] at whole
  rw [whole, last, last]
  simp only [String.append_assoc]

/-- The text by which a hit is shown to the model. -/
inductive ShownAs (hit : Hit) : String → Prop
  | intro {file start stop : Value} {text : String} (file_eq : hit.metadata.key "file" = .ok file)
      (start_eq : hit.metadata.key "start_line" = .ok start)
      (stop_eq : hit.metadata.key "end_line" = .ok stop) (text_eq : hit.document = .str text) :
      ShownAs hit s!"[File: {file.text} | Lines {start.text}–{stop.text}]\n{text}\n\n"

theorem ShownAs.contextPart {hit : Hit} {part : String} (shown : ShownAs hit part) :
    contextPart hit.document hit.metadata = .ok part := by
  rcases shown with ⟨file_eq, start_eq, stop_eq, text_eq⟩
  rw [Retrieval.contextPart, file_eq, ok_bind, start_eq, ok_bind, stop_eq, ok_bind, text_eq]
  rfl

theorem answerPrompt_eq_ok {hits : List Hit} {parts : List String}
    (shown : List.Forall₂ ShownAs hits parts) (question : String) :
    answerPrompt question (.ofHits hits) =
      .ok (promptOpening ++ String.join parts ++ promptClosing question) := by
  have read : hits.mapM ((fun row : Value × Value => contextPart row.1 row.2) ∘
      fun hit => (hit.document, hit.metadata)) = .ok parts := by
    induction shown with
    | nil => rfl
    | cons first _ ih =>
      rw [List.mapM_cons, Function.comp_apply, first.contextPart, ok_bind, ih]
      rfl
  have rows : (Retrieved.ofHits hits).documents.zip (Retrieved.ofHits hits).metadatas =
      hits.map fun hit => (hit.document, hit.metadata) :=
    List.zip_map' ..
  rw [answerPrompt, rows, List.mapM_map, read, ok_bind]
  rw [promptOpening, promptClosing]
  exact congrArg Except.ok (joinLines_around ["", _, "", _, ""] _ _ (by simp))

/-- The metadata of a hit say where it is from, and its document is a text. -/
structure Complete (hit : Hit) : Prop where
  file : ∃ file, hit.metadata.key "file" = .ok file
  start : ∃ start, hit.metadata.key "start_line" = .ok start
  stop : ∃ stop, hit.metadata.key "end_line" = .ok stop
  text : ∃ text, hit.document = .str text

theorem exists_shownAs {hits : List Hit} (complete : ∀ hit ∈ hits, Complete hit) :
    ∃ parts, List.Forall₂ ShownAs hits parts := by
  induction hits with
  | nil => exact ⟨[], .nil⟩
  | cons hit rest ih =>
    rcases complete hit List.mem_cons_self with ⟨⟨_, file⟩, ⟨_, start⟩, ⟨_, stop⟩, ⟨_, text⟩⟩
    rcases ih fun other mem => complete other (List.mem_cons_of_mem _ mem) with ⟨parts, shown⟩
    exact ⟨_ :: parts, .cons ⟨file, start, stop, text⟩ shown⟩

/-! ## One run -/

variable {store : Store} {collection : String} {scope : Scope}

/-- The search that a question makes. -/
def lookupFor (scope : Scope) : Request :=
  .nearest question (.int defaultCount) ((given scope.file).map storedFile)

def nothingFound : String := "No relevant code found for the given scope."

/-- The answer that a reply gives. -/
def answerText (reply : Reply) : Outcome String :=
  reply.outcome.map (·.getD "No response generated")

/-- What is answered from the hits that pass, and what is asked of the language model for it. -/
def answerFrom (reply : Reply) (passing : List Hit) : Outcome String × List Request :=
  if passing.isEmpty then (.ok nothingFound, [])
  else
    match answerPrompt question (.ofHits passing) with
    | .ok prompt => (answerText reply, [.generate "gemini-2.5-flash" prompt])
    | .error fault => (.error fault, [])

theorem runIn_query (opened : store.collection = some collection) (question : String)
    (count : Value) (workspace : Workspace) (hits : List Hit) :
    (query store question count scope).runIn (workspace.finding hits) =
      ((hitsInScope scope.folder hits).map fun kept => some (.ofHits kept),
        (workspace.finding hits).extended []
          [.nearest question count ((given scope.file).map storedFile)]) := by
  rw [query, opened]
  refine (runIn_bind_ok (runIn_ask _ _)).trans ?_
  rw [runIn_bind_ok (runIn_service _), Workspace.extended_service, Workspace.hits_finding,
    runIn_bind, runIn_lift, scopeHits_ofHits]
  cases hitsInScope scope.folder hits <;> rfl

theorem runIn_answer (opened : store.collection = some collection) (question : String)
    (workspace : Workspace) {hits passing : List Hit}
    (inFolder : Passing scope.folder hits passing) :
    (answer store question scope).runIn (workspace.finding hits) =
      ((answerFrom question workspace.service.reply passing).1,
        (workspace.finding hits).extended [] (lookupFor question scope ::
          (answerFrom question workspace.service.reply passing).2)) := by
  have found : (query store question (.int defaultCount) scope).runIn (workspace.finding hits) =
      (.ok (some (.ofHits passing)),
        (workspace.finding hits).extended [] [lookupFor question scope]) := by
    rw [runIn_query opened, hitsInScope_eq_ok_iff.mpr inFolder]
    rfl
  rw [answer, runIn_bind_ok found]
  cases passing with
  | nil => rfl
  | cons first rest =>
    have some_ : (Retrieved.ofHits (first :: rest)).documents.isEmpty = false := rfl
    simp only [answerFrom, some_, List.isEmpty_cons, Bool.false_eq_true, if_false]
    cases answerPrompt question (.ofHits (first :: rest)) with
    | error fault => rfl
    | ok prompt =>
      rw [runIn_bind_ok (runIn_lift _ _), runIn_bind, runIn_generate,
        Workspace.extended_extended, Workspace.extended_service, Workspace.reply_finding]
      cases workspace.service.reply <;> rfl

theorem answerFrom_of_shown {passing : List Hit} {parts : List String} (some_ : passing ≠ [])
    (shown : List.Forall₂ ShownAs passing parts) (question : String) (reply : Reply) :
    answerFrom question reply passing = (answerText reply, [.generate "gemini-2.5-flash"
      (promptOpening ++ String.join parts ++ promptClosing question)]) := by
  have notEmpty : passing.isEmpty = false := by simpa using some_
  simp [answerFrom, notEmpty, answerPrompt_eq_ok shown]

theorem runIn_answer_of_error (opened : store.collection = some collection) (question : String)
    (workspace : Workspace) {hits : List Hit} {fault : Fault}
    (untested : hitsInScope scope.folder hits = .error fault) :
    (answer store question scope).runIn (workspace.finding hits) =
      (.error fault, (workspace.finding hits).extended [] [lookupFor question scope]) := by
  rw [answer, runIn_bind, runIn_query opened, untested]
  rfl

/-! ## Two runs -/

/--
Two lists of hits with the same sub-list of passing hits give the same run: the same answer or the
same fault, the same requests, and nothing else that would tell them apart. The one question that is
put to the language model shows exactly the passing hits in order, between texts that no hit has a
part in. If no hit passes, or the folder test has no answer for some hit, no question is put.
-/
theorem answer_depends_on_passing_hits (workspace : Workspace) (store : Store) (question : String)
    (scope : Scope) :
    (∀ hits others passing, Passing scope.folder hits passing →
      Passing scope.folder others passing → ∃ outcome after,
        (answer store question scope).runIn (workspace.finding hits) =
          (outcome, Workspace.finding after hits) ∧
        (answer store question scope).runIn (workspace.finding others) =
          (outcome, Workspace.finding after others)) ∧
    (∀ collection, store.collection = some collection →
      (∀ hits passing, Passing scope.folder hits passing → passing ≠ [] →
        (∀ hit ∈ passing, Complete hit) → ∃ parts, List.Forall₂ ShownAs passing parts ∧
          (answer store question scope).runIn (workspace.finding hits) =
            (answerText workspace.service.reply,
              (workspace.finding hits).extended [] [lookupFor question scope,
                .generate "gemini-2.5-flash"
                  (promptOpening ++ String.join parts ++ promptClosing question)])) ∧
      (∀ hits, Passing scope.folder hits [] →
        (answer store question scope).runIn (workspace.finding hits) =
          (.ok nothingFound, (workspace.finding hits).extended [] [lookupFor question scope])) ∧
      ∀ hits, (¬ ∃ passing, Passing scope.folder hits passing) → ∃ fault,
        (answer store question scope).runIn (workspace.finding hits) =
          (.error fault, (workspace.finding hits).extended [] [lookupFor question scope])) := by
  refine ⟨?_, fun collection opened => ⟨?_, ?_, ?_⟩⟩
  · intro hits others passing inFolder alsoInFolder
    cases opened : store.collection with
    | none =>
      have closed (found : List Hit) : (answer store question scope).runIn
          (workspace.finding found) = (.ok notOpen, workspace.finding found) := by
        rw [answer, query, opened]
        rfl
      exact ⟨_, _, closed hits, closed others⟩
    | some collection =>
      exact ⟨_, workspace.extended [] _, runIn_answer opened question workspace inFolder,
        runIn_answer opened question workspace alsoInFolder⟩
  · intro hits passing inFolder some_ complete
    rcases exists_shownAs complete with ⟨parts, shown⟩
    refine ⟨parts, shown, ?_⟩
    rw [runIn_answer opened question workspace inFolder, answerFrom_of_shown some_ shown]
  · intro hits inFolder
    exact runIn_answer opened question workspace inFolder
  · intro hits noSublist
    cases tested : hitsInScope scope.folder hits with
    | ok passing => exact absurd ⟨passing, hitsInScope_eq_ok_iff.mp tested⟩ noSublist
    | error fault => exact ⟨fault, runIn_answer_of_error opened question workspace tested⟩

def hitIn (folder text : String) : Hit where
  document := .str text
  metadata := .ofFields [("file", .str (folder ++ "/a.py")), ("folder", .str folder),
    ("start_line", .int 1), ("end_line", .int 2)]
  distance := .int 0

theorem complete_hitIn (folder text : String) : Complete (hitIn folder text) where
  file := ⟨_, Value.key_ofFields rfl⟩
  start := ⟨_, Value.key_ofFields rfl⟩
  stop := ⟨_, Value.key_ofFields rfl⟩
  text := ⟨text, rfl⟩

theorem inScope_hitIn {folder found text : String} {answer : Bool}
    (named : given (some folder) = some folder)
    (tested : Text.startsWith (storedFile found) (storedFile folder) = answer) :
    inScope (some folder) (hitIn found text) = .ok answer := by
  have stored : Report.keyOr (hitIn found text).metadata "folder" (.str "") = .ok (.str found) :=
    Value.getD_ofFields rfl _
  rw [inScope, named]
  dsimp only
  rw [passes, stored, ← tested]
  rfl

def folderHits : List Hit :=
  [hitIn "src" "x = 1", hitIn "src/sub" "y = 2"]

def mixedHits : List Hit :=
  [hitIn "lib" "a", hitIn "src" "x = 1", hitIn "." "b", hitIn "src/sub" "y = 2", hitIn "../src" "c"]

theorem answer_depends_on_passing_hits_of_folder :
    let workspace : Workspace :=
      { files := .of [] .nil, service := { reply := .text "both" } }
    let answered := answer { collection := some "code" } "why?" { folder := some "./src/" }
    Passing (some "./src/") folderHits folderHits ∧ Passing (some "./src/") mixedHits folderHits ∧
      ∃ after : Workspace,
        answered.runIn (workspace.finding folderHits) = (.ok "both", after.finding folderHits) ∧
        answered.runIn (workspace.finding mixedHits) = (.ok "both", after.finding mixedHits) := by
  intro workspace answered
  have named : given (some "./src/") = some "./src/" := by decide +kernel
  have inside : Passing (some "./src/") folderHits folderHits :=
    .kept (inScope_hitIn named (by decide +kernel))
      (.kept (inScope_hitIn named (by decide +kernel)) .nil)
  have mixed : Passing (some "./src/") mixedHits folderHits :=
    .dropped (inScope_hitIn named (by decide +kernel))
      (.kept (inScope_hitIn named (by decide +kernel))
        (.dropped (inScope_hitIn named (by decide +kernel))
          (.kept (inScope_hitIn named (by decide +kernel))
            (.dropped (inScope_hitIn named (by decide +kernel)) .nil))))
  have complete : ∀ hit ∈ folderHits, Complete hit := by
    simp [folderHits, complete_hitIn]
  rcases answer_depends_on_passing_hits workspace { collection := some "code" } "why?"
    { folder := some "./src/" } with ⟨sameRun, opened⟩
  rcases sameRun folderHits mixedHits folderHits inside mixed with ⟨outcome, after, ran, ranMixed⟩
  rcases (opened "code" rfl).1 folderHits folderHits inside (by simp [folderHits]) complete with
    ⟨parts, -, answeredSo⟩
  have outcomeEq : outcome = .ok "both" := congrArg Prod.fst (ran.symm.trans answeredSo)
  rw [outcomeEq] at ran ranMixed
  exact ⟨inside, mixed, after, ran, ranMixed⟩

end Retrieval

end ErpLens
