import ErpLens.Proofs.FileWrites
import ErpLens.Proofs.JsonReading
import ErpLens.Proofs.ProgramRuns
import ErpLens.Proofs.TextFiles
import ErpLens.Retrieval.Query

/-!
# The log of questions and answers

Each question that is logged reads the whole log and writes it anew. All the same the log only
grows, and a file that holds something else stays as it is.
-/

open List

namespace ErpLens.Retrieval

variable {path : String} {records : List Value} {workspace : Workspace}

open Program Files

/-- A question with its answer. -/
structure Exchange where
  question : Value
  answer : Value

namespace Exchange

def record (exchange : Exchange) : Value :=
  logRecord exchange.question exchange.answer

/-- Question and answer can be read back from a file. -/
def Storable (exchange : Exchange) : Prop :=
  Json.Storable exchange.question ∧ Json.Storable exchange.answer

theorem Storable.record {exchange : Exchange} (storable : exchange.Storable) :
    Json.Storable exchange.record := by
  refine Json.Storable.dict (by simp) ?_
  intro field mem
  simp only [mem_cons, not_mem_nil, or_false] at mem
  rcases mem with rfl | rfl
  · exact storable.1
  · exact storable.2

end Exchange

/-- Logs one exchange after the other and goes on after a fault. -/
def logAll (path : String) (exchanges : List Exchange) : Program (List (Outcome Unit)) :=
  exchanges.mapM fun exchange => attempt (logAnswer exchange.question exchange.answer path)

/-! ## One exchange -/

theorem loggedValue?_of_pretty {disk : Disk} {value : Value} (storable : Json.Storable value)
    (held : readBytes disk path = .ok (Text.encodeUtf8 (Json.pretty value))) :
    loggedValue? disk path = some value := by
  have noReturn : '\r' ∉ (Json.pretty value).toList := by
    intro mem
    exact absurd (storable.laid 0 '\r' mem) (by decide)
  rw [loggedValue?, held]
  simp only [Text.decodeUtf8?_encodeUtf8, Option.bind_some, Text.unifyNewlines_eq noReturn,
    String.ofList_toList]
  exact storable.read_pretty

theorem writable_of_loggedValue? {disk : Disk} {value : Value}
    (log : loggedValue? disk path = some value) : Writable disk path := by
  unfold loggedValue? at log
  split at log
  · simp at log
  · rename_i bytes held
    exact writable_of_readBytes held

theorem storable_of_logged {disk : Disk} (log : loggedValue? disk path = some (.list records))
    (floatFree : Json.isFloatFree (.list records) = true) :
    ∀ record ∈ records, Json.Storable record := by
  unfold loggedValue? at log
  split at log
  · simp at log
  · rcases Option.bind_eq_some_iff.mp log with ⟨text, -, found⟩
    cases Json.storable_of_read found floatFree with
    | list all => exact all

theorem runIn_logAnswer_of_list (log : readLog workspace.files path = .list records)
    (exchange : Exchange) :
    (logAnswer exchange.question exchange.answer path).runIn workspace =
      (writeFile path (Json.pretty (.list (records ++ [exchange.record])))).runIn workspace := by
  rw [logAnswer, runIn_bind_ok (runIn_files workspace), log, extendLog]
  exact runIn_bind_ok (runIn_lift (.ok _) workspace)

theorem runIn_logAnswer_of_other {value : Value}
    (log : loggedValue? workspace.files path = some value)
    (other : ∀ records, value ≠ .list records) (exchange : Exchange) :
    (logAnswer exchange.question exchange.answer path).runIn workspace =
      (.error (value.noField "append"), workspace) := by
  have fault : extendLog value (logRecord exchange.question exchange.answer) =
      .error (value.noField "append") := by
    unfold extendLog
    split
    · exact absurd rfl (other _)
    · rfl
  rw [logAnswer, runIn_bind_ok (runIn_files workspace), readLog, log, Option.getD_some, fault,
    runIn_bind, runIn_lift]

theorem exists_runIn_logAnswer_error (log : loggedValue? workspace.files path = none)
    (closed : ¬ Writable workspace.files path) (exchange : Exchange) :
    ∃ fault, (logAnswer exchange.question exchange.answer path).runIn workspace =
      (.error fault, workspace) := by
  have empty : readLog workspace.files path = .list [] := by
    rw [readLog, log, Option.getD_none]
  rw [runIn_logAnswer_of_list empty, runIn_writeFile]
  cases written : writeBytes workspace.files path
      (Text.encodeUtf8 (Json.pretty (.list ([] ++ [exchange.record])))) with
  | ok changed => exact absurd (exists_writeBytes_iff.mp ⟨changed, written⟩) closed
  | error fault => exact ⟨fault, rfl⟩

variable {exchange : Exchange}

theorem storable_concat (records_storable : ∀ record ∈ records, Json.Storable record)
    (storable : exchange.Storable) :
    ∀ record ∈ records ++ [exchange.record], Json.Storable record := by
  intro record mem
  rcases mem_append.mp mem with old | new
  · exact records_storable record old
  · rw [mem_singleton.mp new]
    exact storable.record

/-- One exchange adds one record to the end of the list that the log holds. -/
theorem exists_runIn_logAnswer (log : readLog workspace.files path = .list records)
    (records_storable : ∀ record ∈ records, Json.Storable record) (storable : exchange.Storable)
    (writable : Writable workspace.files path) :
    ∃ files, (logAnswer exchange.question exchange.answer path).runIn workspace =
        (.ok (), { workspace with files := files }) ∧
      loggedValue? files path = some (.list (records ++ [exchange.record])) := by
  have whole := Json.Storable.list (storable_concat records_storable storable)
  rcases exists_writeBytes_iff.mpr writable with ⟨files, written⟩
  refine ⟨files, ?_, loggedValue?_of_pretty whole (readBytes_writeBytes written)⟩
  rw [runIn_logAnswer_of_list log, runIn_writeFile, written]

/-! ## Several exchanges -/

theorem runIn_logAll_cons (path : String) (exchange : Exchange) (others : List Exchange)
    {after last : Workspace} {outcome : Outcome Unit} {outcomes : List (Outcome Unit)}
    (first : (logAnswer exchange.question exchange.answer path).runIn workspace = (outcome, after))
    (later : (logAll path others).runIn after = (.ok outcomes, last)) :
    (logAll path (exchange :: others)).runIn workspace = (.ok (outcome :: outcomes), last) := by
  have tried : (attempt (logAnswer exchange.question exchange.answer path)).runIn workspace =
      (.ok outcome, after) := by
    rw [runIn_attempt, first]
  rw [logAll, mapM_cons, runIn_bind_ok tried]
  exact runIn_bind_ok later

theorem exists_runIn_logAll {others : List Exchange}
    (log : readLog workspace.files path = .list records)
    (records_storable : ∀ record ∈ records, Json.Storable record)
    (storable : ∀ each ∈ exchange :: others, each.Storable)
    (writable : Writable workspace.files path) :
    ∃ files, (logAll path (exchange :: others)).runIn workspace =
        (.ok ((exchange :: others).map fun _ => .ok ()), { workspace with files := files }) ∧
      loggedValue? files path =
        some (.list (records ++ (exchange :: others).map Exchange.record)) := by
  induction others generalizing exchange workspace records with
  | nil =>
    rcases exists_runIn_logAnswer log records_storable (storable exchange mem_cons_self)
      writable with ⟨files, first, logged⟩
    exact ⟨files, runIn_logAll_cons path exchange [] first rfl, logged⟩
  | cons next rest ih =>
    have exchangeStorable := storable exchange mem_cons_self
    rcases exists_runIn_logAnswer log records_storable exchangeStorable writable with
      ⟨files, first, logged⟩
    -- After the first exchange the file holds a list, so that it can be written again.
    let between : Workspace := { workspace with files := files }
    have current : readLog between.files path = .list (records ++ [exchange.record]) := by
      rw [readLog, logged, Option.getD_some]
    rcases ih current (storable_concat records_storable exchangeStorable)
      (fun each mem => storable each (mem_cons_of_mem _ mem))
      (writable_of_loggedValue? logged) with ⟨last, later, loggedAll⟩
    refine ⟨last, runIn_logAll_cons path exchange (next :: rest) first later, ?_⟩
    rw [append_assoc] at loggedAll
    exact loggedAll

theorem runIn_logAll_of_error {fault : Exchange → Fault}
    (fails : ∀ exchange : Exchange,
      (logAnswer exchange.question exchange.answer path).runIn workspace =
        (.error (fault exchange), workspace))
    (exchanges : List Exchange) :
    (logAll path exchanges).runIn workspace =
      (.ok (exchanges.map fun exchange => .error (fault exchange)), workspace) := by
  induction exchanges with
  | nil => rfl
  | cons exchange others ih => exact runIn_logAll_cons path exchange others (fails exchange) ih

/-- The log only grows. Whatever a file holds, logging a sequence of exchanges to it
- starts a list of their records in it, if it holds no value that can be read;
- adds their records to the end of the list that it holds, which stays as it is before them;
- fails each time and changes nothing, if it holds another value;
- fails each time and changes nothing, if no file can be put at the path. -/
theorem logAll_appends_records (workspace : Workspace) (path : String)
    {exchanges : List Exchange} (storable : ∀ exchange ∈ exchanges, exchange.Storable) :
    (loggedValue? workspace.files path = none → Writable workspace.files path → exchanges ≠ [] →
      ∃ files, (logAll path exchanges).runIn workspace =
          (.ok (exchanges.map fun _ => .ok ()), { workspace with files := files }) ∧
        loggedValue? files path = some (.list (exchanges.map Exchange.record))) ∧
    (∀ records, loggedValue? workspace.files path = some (.list records) →
      Json.isFloatFree (.list records) = true →
      ∃ files, (logAll path exchanges).runIn workspace =
          (.ok (exchanges.map fun _ => .ok ()), { workspace with files := files }) ∧
        loggedValue? files path = some (.list (records ++ exchanges.map Exchange.record))) ∧
    (∀ value, loggedValue? workspace.files path = some value → (∀ records, value ≠ .list records) →
      (logAll path exchanges).runIn workspace =
        (.ok (exchanges.map fun _ => .error (value.noField "append")), workspace)) ∧
    (loggedValue? workspace.files path = none → ¬ Writable workspace.files path →
      ∃ fault : Exchange → Fault, (logAll path exchanges).runIn workspace =
        (.ok (exchanges.map fun exchange => .error (fault exchange)), workspace)) := by
  refine ⟨?_, ?_, ?_, ?_⟩
  · intro log writable notEmpty
    cases exchanges with
    | nil => exact absurd rfl notEmpty
    | cons exchange others =>
      have empty : readLog workspace.files path = .list [] := by
        rw [readLog, log, Option.getD_none]
      exact exists_runIn_logAll empty (by simp) storable writable
  · intro records log floatFree
    cases exchanges with
    | nil => exact ⟨workspace.files, rfl, by simpa using log⟩
    | cons exchange others =>
      have current : readLog workspace.files path = .list records := by
        rw [readLog, log, Option.getD_some]
      exact exists_runIn_logAll current (storable_of_logged log floatFree) storable
        (writable_of_loggedValue? log)
  · intro value log other
    exact runIn_logAll_of_error (runIn_logAnswer_of_other log other) exchanges
  · intro log closed
    rcases Classical.skolem.mp (exists_runIn_logAnswer_error log closed) with ⟨fault, fails⟩
    exact ⟨fault, runIn_logAll_of_error fails exchanges⟩

def logFiles : Disk :=
  .of [("list.json", .file (Text.encodeUtf8 (Json.pretty (.list [.int (-7)])))),
    ("other.json", .file (Text.encodeUtf8 (Json.pretty (.ofFields []))))] (by decide +kernel)

def mixedExchanges : List Exchange :=
  [⟨.str "where is \"total\" set?", .str "in C:\\ledger\n\x01"⟩, ⟨.str "größe 😀", .str ""⟩]

theorem logAll_appends_mixed_exchanges :
    (∀ exchange ∈ mixedExchanges, exchange.Storable) ∧
      (∃ files, (logAll "new.json" mixedExchanges).runIn
            { files := logFiles, service := { reply := .nothing } } =
          (.ok [.ok (), .ok ()], { files := files, service := { reply := .nothing } }) ∧
        loggedValue? files "new.json" = some (.list (mixedExchanges.map Exchange.record))) ∧
      (∃ files, (logAll "list.json" mixedExchanges).runIn
            { files := logFiles, service := { reply := .nothing } } =
          (.ok [.ok (), .ok ()], { files := files, service := { reply := .nothing } }) ∧
        loggedValue? files "list.json" =
          some (.list ([.int (-7)] ++ mixedExchanges.map Exchange.record))) ∧
      (logAll "other.json" mixedExchanges).runIn
          { files := logFiles, service := { reply := .nothing } } =
        (.ok (mixedExchanges.map fun _ => .error ((Value.ofFields []).noField "append")),
          { files := logFiles, service := { reply := .nothing } }) := by
  have storable : ∀ exchange ∈ mixedExchanges, exchange.Storable := by
    intro exchange mem
    simp only [mixedExchanges, List.mem_cons, List.not_mem_nil, or_false] at mem
    rcases mem with rfl | rfl
    · exact ⟨.str _, .str _⟩
    · exact ⟨.str _, .str _⟩
  have noLog : loggedValue? logFiles "new.json" = none := rfl
  have writable : Writable logFiles "new.json" :=
    (writable_name_iff (by decide)).mpr (by decide +kernel)
  have list : loggedValue? logFiles "list.json" = some (.list [.int (-7)]) := by
    refine loggedValue?_of_pretty (.list fun item mem => ?_) rfl
    rw [List.mem_singleton.mp mem]
    exact .int (by decide)
  have other : loggedValue? logFiles "other.json" = some (.ofFields []) :=
    loggedValue?_of_pretty (.dict (by simp) (by simp)) rfl
  refine ⟨storable, ?_, ?_, ?_⟩
  · exact (logAll_appends_records { files := logFiles, service := { reply := .nothing } }
      "new.json" storable).1 noLog writable (by simp [mixedExchanges])
  · exact (logAll_appends_records { files := logFiles, service := { reply := .nothing } }
      "list.json" storable).2.1 _ list rfl
  · exact (logAll_appends_records { files := logFiles, service := { reply := .nothing } }
      "other.json" storable).2.2.1 _ other (by simp [Value.ofFields])

end ErpLens.Retrieval
