import ErpLens.Proofs.FolderAnalysis
import ErpLens.Proofs.Printing

/-!
# Showing entities and calls

Reports are made from values, and a value of the wrong kind stops them. What the analysis finds is
never of the wrong kind: it can be summed up, printed and put into a question.
-/

open List

namespace ErpLens

namespace Value

theorem text_nat (value : Nat) : (Value.nat value).text = toString value :=
  rfl

/-! ## Sorting -/

theorem exists_insertSorted {α : Type} {below : α → α → Outcome Bool} {item : α} {items : List α}
    (total : ∀ other ∈ items, ∃ answer, below item other = .ok answer) :
    ∃ sorted, insertSorted below item items = .ok sorted ∧ sorted.Perm (item :: items) := by
  induction items with
  | nil => exact ⟨[item], rfl, .refl _⟩
  | cons first rest ih =>
    rcases total first mem_cons_self with ⟨answer, compared⟩
    rw [insertSorted, compared, ok_bind]
    cases answer with
    | true => exact ⟨item :: first :: rest, rfl, .refl _⟩
    | false =>
      rcases ih fun other mem => total other (mem_cons_of_mem _ mem) with
        ⟨sorted, inserted, perm⟩
      refine ⟨first :: sorted, ?_, ?_⟩
      · simp only [Bool.false_eq_true, if_false, inserted, ok_bind]
        rfl
      · exact (perm.cons first).trans (.swap item first rest)

theorem exists_sortWith {α : Type} {below : α → α → Outcome Bool} {items : List α}
    (total : ∀ one ∈ items, ∀ other ∈ items, ∃ answer, below one other = .ok answer) :
    ∃ sorted, sortWith below items = .ok sorted ∧ sorted.Perm items := by
  have run (rest : List α) (sorted : List α) (inItems : ∀ item ∈ sorted ++ rest, item ∈ items) :
      ∃ last, rest.foldlM (fun sorted item => insertSorted below item sorted) sorted = .ok last ∧
        last.Perm (sorted ++ rest) := by
    induction rest generalizing sorted with
    | nil => exact ⟨sorted, rfl, by simp⟩
    | cons item rest ih =>
      have totalHere : ∀ other ∈ sorted, ∃ answer, below item other = .ok answer :=
        fun other mem => total item (inItems item (by simp)) other (inItems other (by simp [mem]))
      rcases exists_insertSorted totalHere with ⟨next, inserted, perm⟩
      have nextPerm : (next ++ rest).Perm (sorted ++ item :: rest) :=
        (perm.append_right rest).trans perm_middle.symm
      rcases ih next fun other mem => inItems other (nextPerm.mem_iff.mp mem) with
        ⟨last, ran, lastPerm⟩
      refine ⟨last, ?_, lastPerm.trans nextPerm⟩
      rw [foldlM_cons, inserted, ok_bind, ran]
  rcases run items [] (by simp) with ⟨sorted, ran, perm⟩
  exact ⟨sorted, ran, by simpa using perm⟩

theorem exists_lessThan_nat (left right : Nat) :
    ∃ answer, lessThan (.nat left) (.nat right) = .ok answer :=
  ⟨_, rfl⟩

/-! ## Texts -/

theorem joinTexts_strs (separator : String) (texts : List String) :
    joinTexts separator (.strs texts) = .ok (separator.intercalate texts) := by
  have parts : ((List.range (texts.map str).length).zip (texts.map str)).map Prod.snd =
      texts.map str := by
    rw [map_snd_zip (by simp)]
  have same : ((List.range (texts.map str).length).zip (texts.map str)).map
      (text ∘ Prod.snd) = texts := by
    rw [← map_map, parts, map_map]
    exact map_id texts
  rw [strs, joinTexts]
  simp only [items]
  rw [ok_bind, mapM_eq_ok, ok_bind, same]
  · rfl
  · rintro ⟨index, part⟩ mem
    rcases mem_map.mp (of_mem_zip mem).2 with ⟨text, -, rfl⟩
    rfl

theorem slice_strs (limit : Int) (texts : List String) :
    (Value.strs texts).slice limit = .ok (.strs (takeTo limit texts)) := by
  simp [strs, slice, takeTo, map_take]

theorem contains_ofFields (fields : Fields) (name : String) :
    (ofFields fields).contains (.str name) = .ok (fields.any (·.1 == name)) := by
  simp [ofFields, contains, occursIn, Function.comp_def, same_str]

end Value

namespace Report

open Program Analysis Command

/-! ## Lines of summaries -/

/-- The numbers in a summary. -/
structure Totals where
  classes : Nat
  functions : Nat
  imports : Nat
  calls : Nat
deriving DecidableEq

/-- The numbers of several files added up. -/
def Totals.sum (all : List Totals) : Totals :=
  { classes := (all.map (·.classes)).sum
    functions := (all.map (·.functions)).sum
    imports := (all.map (·.imports)).sum
    calls := (all.map (·.calls)).sum }

theorem Totals.without_eq_iff (totals : Totals) :
    { totals with imports := 0, calls := 0 } = totals ↔ totals.imports = 0 ∧ totals.calls = 0 := by
  cases totals
  simp [eq_comm]

variable (title : String)

def headerLines : List String :=
  ["\n" ++ bright ++ Color.cyan.paint rule, center 60 title, rule ++ plain ++ "\n"]

def labelled (label text : String) : String :=
  Color.blue.paint (label ++ ": " ++ text)

def fileSummaryLines (path : String) (totals : Totals) : List String :=
  headerLines "CODE ANALYSIS SUMMARY" ++
    [labelled "File" path, labelled "Classes" (toString totals.classes),
      labelled "Functions" (toString totals.functions),
      labelled "Imports" (toString totals.imports),
      labelled "Call Relationships" (toString totals.calls)]

/-- The summary of a folder as the analyser shows it. -/
def folderSummaryLines (folder : String) (files : Nat) (totals : Totals) : List String :=
  headerLines "FOLDER ANALYSIS SUMMARY" ++
    [labelled "Folder" folder, labelled "Files analyzed" (toString files),
      labelled "Total Classes" (toString totals.classes),
      labelled "Total Functions" (toString totals.functions),
      labelled "Total Imports" (toString totals.imports),
      labelled "Cross-file Call Relationships" (toString totals.calls)]

theorem prints_header : Prints (header (.str title)) (headerLines title) () :=
  .bind_say (.bind_say (.say _))

theorem prints_summaryLine {label text : String} {next : Unit → Program Unit} {lines : List String}
    (later : Prints (next ()) lines ()) :
    Prints (summaryLine label text >>= next) (labelled label text :: lines) () :=
  .bind_say later

/-- Results have lists of these lengths and this number of calls. -/
structure Gives (found calls : Value) (totals : Totals) : Prop where
  classes : countAt found "classes" = .ok (toString totals.classes)
  functions : countAt found "functions" = .ok (toString totals.functions)
  imports : countAt found "imports" = .ok (toString totals.imports)
  calls : totalCalls calls = .ok (.nat totals.calls)

variable {totals : Totals} {found calls : Value}

theorem Gives.prints_summary (gives : Gives found calls totals) (path : String) :
    Prints (summary path found calls) (fileSummaryLines path totals) () := by
  refine .bind (prints_header _) (prints_summaryLine ?_)
  refine .bind_lift gives.classes (prints_summaryLine ?_)
  refine .bind_lift gives.functions (prints_summaryLine ?_)
  refine .bind_lift gives.imports (prints_summaryLine ?_)
  refine .bind_lift gives.calls ?_
  rw [Value.text_nat]
  exact .say _

theorem Gives.exists_prints_folderSummary {details found calls : Value} {files : Nat}
    {entries : Entries} (gives : Gives found calls totals) (sized : details.size = .ok files)
    (ranked : rankFiles details = .ok entries)
    (shown : ∀ entry ∈ entries, PrintsSome (fileLine entry) ()) (folder : String) :
    ∃ more, Prints (folderSummary folder details found calls)
      (folderSummaryLines folder files totals ++ more) () := by
  have sizedText : sizeText details = .ok (toString files) := by
    rw [sizeText, sized]
    rfl
  rcases PrintsSome.forM fun entry mem => shown entry (mem_of_mem_take mem) with
    ⟨fileLines, eachPrints⟩
  refine ⟨("\n" ++ Color.cyan.paint "Top files by function count:") :: fileLines, ?_⟩
  rw [folderSummaryLines, append_assoc]
  simp only [cons_append, nil_append]
  refine .bind (prints_header _) (prints_summaryLine ?_)
  refine .bind_lift sizedText (prints_summaryLine ?_)
  refine .bind_lift gives.classes (prints_summaryLine ?_)
  refine .bind_lift gives.functions (prints_summaryLine ?_)
  refine .bind_lift gives.imports (prints_summaryLine ?_)
  refine .bind_lift gives.calls ?_
  rw [Value.text_nat]
  refine prints_summaryLine (.bind_say ?_)
  exact .bind_lift ranked eachPrints

variable {fields : Fields}

theorem countAt_ofFields {name : String} {items : List Value}
    (found : fields.lookup name = some (.list items)) :
    countAt (.ofFields fields) name = .ok (toString items.length) := by
  rw [countAt, keyOr, Value.getD_ofFields found, ok_bind]
  rfl

theorem totalCalls_ofFields {fields statistics : Fields} {calls : Value}
    (found : fields.lookup "stats" = some (.ofFields statistics))
    (counted : statistics.lookup "total_calls" = some calls) :
    totalCalls (.ofFields fields) = .ok calls := by
  rw [totalCalls, keyOr, Value.getD_ofFields found, ok_bind, keyOr, Value.getD_ofFields counted]

/-! ## Entities -/

/-- A value has the fields of an entity, and maybe more after them. -/
def IsEntity {α : Type} (fields : α → Fields) (value : Value) : Prop :=
  ∃ entity more, value = .ofFields (fields entity ++ more)

theorem printsSome_classLines {value : Value} (isClass : IsEntity ClassEntity.fields value) :
    PrintsSome (classLines value) () := by
  rcases isClass with ⟨entity, more, rfl⟩
  refine .bind_lift (Value.key_ofFields rfl) (.bind_lift (Value.key_ofFields rfl) ?_)
  refine .bind (.say _) (.bind_lift (Value.get_ofFields rfl) ?_)
  extract_lets methods
  have printsMethods : PrintsSome (methods ()) () := by
    refine .bind_lift (Value.get_ofFields rfl) (.ite (fun _ => ?_) fun _ => .pure ())
    refine .bind_lift (Value.key_ofFields rfl) (.bind_lift rfl ?_)
    refine .bind_lift (Value.slice_strs _ _) ?_
    exact .bind_lift (Value.joinTexts_strs _ _) (.say _)
  refine .ite (fun _ => ?_) fun _ => printsMethods
  refine .bind_lift (Value.key_ofFields rfl) (.bind_lift (Value.joinTexts_strs _ _) ?_)
  exact .bind (.say _) printsMethods

theorem printsSome_functionLine {value : Value}
    (isFunction : IsEntity FunctionEntity.fields value) : PrintsSome (functionLine value) () := by
  rcases isFunction with ⟨entity, more, rfl⟩
  refine .bind_lift (Value.key_ofFields rfl) (.bind_lift (Value.joinTexts_strs _ _) ?_)
  exact .bind_lift (Value.key_ofFields rfl) (.bind_lift (Value.key_ofFields rfl) (.say _))

theorem printsSome_importLine {value : Value} (isImport : IsEntity ImportEntity.fields value) :
    PrintsSome (importLine value) () := by
  rcases isImport with ⟨entity, more, rfl⟩
  cases entity with
  | whole module asName line =>
    have whole : (Value.str "import" == Value.str "import") = true := Value.same_str _ _
    refine .bind_lift (Value.key_ofFields rfl) (.bind_lift (Value.key_ofFields rfl) ?_)
    exact .ite (fun _ => .say _) fun other => absurd whole other
  | part module name asName line =>
    refine .bind_lift (Value.key_ofFields rfl) (.bind_lift (Value.key_ofFields rfl) ?_)
    refine .ite (fun _ => .say _) fun _ => ?_
    exact .bind_lift (Value.key_ofFields rfl) (.say _)

theorem printsSome_moreLine (items : List Value) (shown : Int) (noun : String) :
    PrintsSome (moreLine (.list items) shown noun) () :=
  .bind_lift rfl (.ite (fun _ => .say _) fun _ => .pure ())

theorem mem_of_mem_takeTo {α : Type} {limit : Int} {items : List α} {item : α}
    (mem : item ∈ Value.takeTo limit items) : item ∈ items :=
  mem_of_mem_take mem

/-- Results that list entities under the three keys. -/
inductive ListsEntities : Value → Prop
  | intro {fields : Fields} {classes functions imports : List Value}
      (classesAt : fields.lookup "classes" = some (.list classes))
      (functionsAt : fields.lookup "functions" = some (.list functions))
      (importsAt : fields.lookup "imports" = some (.list imports))
      (eachClass : ∀ item ∈ classes, IsEntity ClassEntity.fields item)
      (eachFunction : ∀ item ∈ functions, IsEntity FunctionEntity.fields item)
      (eachImport : ∀ item ∈ imports, IsEntity ImportEntity.fields item) :
      ListsEntities (.ofFields fields)

theorem ListsEntities.printsSome_entities {found : Value} (lists : ListsEntities found) :
    PrintsSome (entities found) () := by
  rcases lists with ⟨classesAt, functionsAt, importsAt, eachClass, eachFunction, eachImport⟩
  refine .bind (.say _) (.bind_lift (Value.get_ofFields classesAt) ?_)
  extract_lets importsPart functionsPart
  have printsImports : PrintsSome (importsPart ()) () := by
    refine .bind_lift (Value.get_ofFields importsAt) (.ite (fun _ => ?_) fun _ => .pure ())
    refine .bind_lift (Value.key_ofFields importsAt) (.bind_lift rfl (.bind (.say _) ?_))
    refine .bind_lift rfl (.bind_lift rfl (.bind (.forM fun item mem => ?_) ?_))
    · exact printsSome_importLine (eachImport item (mem_of_mem_takeTo mem))
    · exact printsSome_moreLine _ _ _
  have printsFunctions : PrintsSome (functionsPart ()) () := by
    refine .bind_lift (Value.get_ofFields functionsAt) (.ite (fun _ => ?_) fun _ => printsImports)
    refine .bind_lift (Value.key_ofFields functionsAt) (.bind_lift rfl (.bind (.say _) ?_))
    refine .bind_lift rfl (.bind_lift rfl (.bind (.forM fun item mem => ?_) ?_))
    · exact printsSome_functionLine (eachFunction item (mem_of_mem_takeTo mem))
    · exact .bind (printsSome_moreLine _ _ _) printsImports
  refine .ite (fun _ => ?_) fun _ => printsFunctions
  refine .bind_lift (Value.key_ofFields classesAt) (.bind_lift rfl (.bind (.say _) ?_))
  refine .bind_lift rfl (.bind (.forM fun item mem => ?_) printsFunctions)
  exact printsSome_classLines (eachClass item mem)

theorem listsEntities_file (entities : FileEntities) : ListsEntities entities.toValue := by
  have plain {α : Type} (fields : α → Fields) (items : List α) :
      ∀ item ∈ items.map (fun entity => Value.ofFields (fields entity)), IsEntity fields item := by
    intro item mem
    rcases mem_map.mp mem with ⟨entity, -, rfl⟩
    exact ⟨entity, [], by rw [append_nil]⟩
  exact .intro rfl rfl rfl (plain _ _) (plain _ _) (plain _ _)

theorem listsEntities_folder (tool : Tool) (findings : Findings) :
    ListsEntities (findings.entities tool) := by
  have fromFiles {α : Type} (kind : FileEntities → List α)
      (fields : α → Fields) :
      ∀ item ∈ findings.flatMap (fun found =>
        (kind found.entities).map fun entity => tagged found.path (fields entity)),
        IsEntity fields item := by
    intro item mem
    rcases mem_flatMap.mp mem with ⟨found, -, mem⟩
    rcases mem_map.mp mem with ⟨entity, -, rfl⟩
    exact ⟨entity, _, rfl⟩
  refine .intro rfl rfl rfl (fromFiles FileEntities.classes _)
    (fromFiles FileEntities.functions _) ?_
  cases tool with
  | analyzer => exact fromFiles FileEntities.imports _
  | suite => simp

/-! ## Questions -/

theorem exists_promptLine {name line : Value}
    (named : fields.lookup "name" = some name) (placed : fields.lookup "line" = some line)
    (shaped : fields.any (·.1 == "methods") = true ∨
      ∃ args, fields.lookup "args" = some (.strs args)) :
    ∃ text, promptLine (.ofFields fields) = .ok text := by
  rw [promptLine, Value.contains_ofFields, ok_bind, Value.key_ofFields named,
    Value.key_ofFields placed]
  split
  · exact ⟨_, rfl⟩
  · rename_i noMethods
    rcases shaped with methods | ⟨args, found⟩
    · exact absurd methods noMethods
    · rw [keyOr, Value.getD_ofFields found, ok_bind, ok_bind, Value.joinTexts_strs]
      exact ⟨_, rfl⟩

theorem exists_listEntities {items : List Value} (limit : Int)
    (each : ∀ item ∈ items, ∃ text, promptLine item = .ok text) :
    ∃ text, listEntities (.list items) limit = .ok text := by
  have shown : ∃ lines, (Value.takeTo limit items).mapM promptLine = .ok lines :=
    exists_mapM_eq_ok_iff.mpr fun item mem => each item (mem_of_mem_takeTo mem)
  rcases shown with ⟨lines, shown⟩
  rw [listEntities]
  split
  · exact ⟨_, rfl⟩
  · simp only [Value.slice, Value.items, ok_bind, shown, Value.size]
    exact ⟨_, rfl⟩

theorem Gives.exists_shortPrompt (gives : Gives found calls totals) (code : String) :
    ∃ prompt, shortPrompt code found calls = .ok prompt := by
  rw [shortPrompt, gives.classes, gives.functions, gives.calls]
  exact ⟨_, rfl⟩

theorem Gives.exists_longPrompt (gives : Gives found calls totals) (lists : ListsEntities found)
    (code : String) :
    ∃ prompt, longPrompt code found calls = .ok prompt := by
  rw [longPrompt, gives.classes, gives.functions, gives.imports, gives.calls]
  rcases lists with ⟨classesAt, functionsAt, -, eachClass, eachFunction, -⟩
  rcases exists_listEntities promptLimit fun item mem => by
    rcases eachClass item mem with ⟨entity, more, rfl⟩
    exact exists_promptLine rfl rfl (.inl rfl) with ⟨classes, classesListed⟩
  rcases exists_listEntities promptLimit fun item mem => by
    rcases eachFunction item mem with ⟨entity, more, rfl⟩
    exact exists_promptLine rfl rfl (.inr ⟨_, rfl⟩) with ⟨functions, functionsListed⟩
  simp only [keyOr, Value.getD_ofFields classesAt, Value.getD_ofFields functionsAt, ok_bind,
    classesListed, functionsListed]
  exact ⟨_, rfl⟩

/-! ## Calls -/

theorem printsSome_rankingLine (name : String) (count : Nat) :
    PrintsSome (rankingLine (.tuple [.str name, .nat count])) () :=
  .bind_lift rfl (.bind_lift rfl (.bind_lift rfl (.bind_lift rfl (.say _))))

theorem printsSome_ranking {name : String} {counts : List (String × Nat)}
    (found : fields.lookup name = some (rankingValue counts)) :
    PrintsSome (ranking (.ofFields fields) name title) () := by
  refine .bind_lift (Value.get_ofFields found) (.ite (fun _ => ?_) fun _ => .pure ())
  refine .bind (.say _) (.bind_lift (Value.key_ofFields found) (.bind_lift rfl ?_))
  refine .forM fun item mem => ?_
  rcases mem_map.mp mem with ⟨⟨name, count⟩, -, rfl⟩
  exact printsSome_rankingLine name count

theorem prints_ranking_of_false {statistics value : Value} {name : String}
    (found : statistics.get name = .ok value) (empty : value.truth = false) :
    Prints (ranking statistics name title) [] () := by
  refine .bind_lift found ?_
  rw [empty]
  exact .pure ()

theorem printsSome_relationships (records : List CallRecord) :
    PrintsSome (relationships (callReport (some records))) () := by
  refine .bind (.say _) (.bind_lift (Value.getD_ofFields rfl _) ?_)
  refine .bind_lift (Value.getD_ofFields rfl _) ?_
  rw [callStatistics]
  split
  · refine .bind_lift (Value.getD_ofFields rfl _) (.bind (.say _) ?_)
    refine .bind_lift (Value.getD_ofFields rfl _) (.bind (.say _) ?_)
    refine .bind_lift (Value.getD_ofFields rfl _) (.bind (.say _) ?_)
    exact .bind ⟨[], prints_ranking_of_false _ (Value.getD_ofFields_of_none rfl _) rfl⟩
      ⟨[], prints_ranking_of_false _ (Value.getD_ofFields_of_none rfl _) rfl⟩
  · refine .bind_lift (Value.getD_ofFields rfl _) (.bind (.say _) ?_)
    refine .bind_lift (Value.getD_ofFields rfl _) (.bind (.say _) ?_)
    refine .bind_lift (Value.getD_ofFields rfl _) (.bind (.say _) ?_)
    exact .bind (printsSome_ranking _ rfl) (printsSome_ranking _ rfl)

/-- The first lines about calls. -/
def statisticsLines (total callers callees : Nat) : List String :=
  [bright ++ Color.yellow.paint (">>> " ++ "CALL RELATIONSHIPS") ++ plain,
    "\n" ++ Color.cyan.paint ("Total function calls detected: " ++ toString total),
    Color.cyan.paint ("Unique callers: " ++ toString callers),
    Color.cyan.paint ("Unique callees: " ++ toString callees)]

/-- Of the calls in a folder only their number is shown. -/
theorem prints_relationships (findings : Findings) :
    Prints (relationships (findings.relationships .analyzer))
      (statisticsLines findings.totalCalls 0 0) () := by
  have mostCalled : (Findings.namelessStatistics findings.totalCalls).get "most_called" =
      .ok (.list []) := Value.get_ofFields rfl
  have mostCallsFrom : (Findings.namelessStatistics findings.totalCalls).get "most_calls_from" =
      .ok .null := Value.getD_ofFields_of_none rfl _
  refine .bind_say (.bind_lift (Value.getD_ofFields_of_none rfl _) ?_)
  refine .bind_lift (Value.getD_ofFields rfl _) ?_
  refine .bind_lift (Value.getD_ofFields rfl _) ?_
  rw [Value.text_nat]
  refine .bind_say (.bind_lift (Value.getD_ofFields rfl _) ?_)
  rw [Value.text_nat]
  refine .bind_say (.bind_lift (Value.getD_ofFields rfl _) ?_)
  rw [Value.text_nat]
  refine .bind_say ?_
  exact .bind_silent (prints_ranking_of_false _ mostCalled rfl)
    (prints_ranking_of_false _ mostCallsFrom rfl)

end Report

end ErpLens
