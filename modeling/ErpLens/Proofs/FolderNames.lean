import ErpLens.Proofs.PathSpellings
import ErpLens.Proofs.ScopedAnswers

/-!
# Which folders pass the test for a folder

The test for a folder compares texts, so it asks for all names but the last, and then for a name
that starts like the last one. A folder also gets what lies in its siblings with longer names.
-/

open List

namespace ErpLens.Text

variable {separator : Char}

theorem exists_splitAt_of_prefix {start text : List Char} (free : separator ∉ start)
    (isPrefix : start <+: text) :
    ∃ first others, splitAt separator text = first :: others ∧ start <+: first := by
  induction start generalizing text with
  | nil =>
    rcases exists_cons_of_ne_nil (splitAt_ne_nil separator text) with ⟨first, others, split⟩
    exact ⟨first, others, split, nil_prefix⟩
  | cons c rest ih =>
    rcases text with _ | ⟨d, after⟩
    · simp at isPrefix
    · obtain ⟨rfl, restPrefix⟩ := cons_prefix_cons.mp isPrefix
      simp only [mem_cons, not_or] at free
      rcases ih free.2 restPrefix with ⟨first, others, split, inFirst⟩
      refine ⟨c :: first, others, ?_, cons_prefix_cons.mpr ⟨rfl, inFirst⟩⟩
      rw [splitAt, if_neg (Ne.symm free.1), split]

theorem splitAt_append_cons (before after : List Char) :
    splitAt separator (before ++ separator :: after) =
      splitAt separator before ++ splitAt separator after := by
  simp only [splitAt_eq_splitOn, splitOn_append_cons_self]

theorem splitAt_of_not_mem {chars : List Char} (free : separator ∉ chars) :
    splitAt separator chars = [chars] := by
  rw [splitAt_eq_splitOn, splitOn_eq_singleton free]

theorem intercalate_splitAt (separator : Char) (chars : List Char) :
    [separator].intercalate (splitAt separator chars) = chars := by
  rw [splitAt_eq_splitOn, intercalate_splitOn]

theorem exists_last_separator {chars : List Char} (mem : separator ∈ chars) :
    ∃ before after, chars = before ++ separator :: after ∧ separator ∉ after := by
  rcases eq_append_cons_of_mem (mem_reverse.mpr mem) with ⟨after, before, split, free⟩
  refine ⟨before.reverse, after.reverse, ?_, by simpa using free⟩
  rw [← reverse_reverse chars, split]
  simp

theorem prefix_intercalate {before : List (List Char)} {last name : List Char}
    {after : List (List Char)} (inName : last <+: name) :
    [separator].intercalate (before ++ [last]) <+:
      [separator].intercalate (before ++ name :: after) := by
  induction before with
  | nil =>
    cases after with
    | nil => simpa using inName
    | cons next others =>
      simpa using inName.trans (prefix_append name _)
  | cons first rest ih =>
    rw [cons_append, cons_append, intercalate_cons_of_ne_nil (by simp),
      intercalate_cons_of_ne_nil (by simp)]
    exact (prefix_append_right_inj _).mpr ih

/-- A text starts with another exactly if the pieces of the other are pieces of it, but for the last
of them, which only has to be the start of a piece. -/
theorem prefix_iff_splitAt {start text : List Char} :
    start <+: text ↔ ∃ before last name after,
      splitAt separator start = before ++ [last] ∧
      splitAt separator text = before ++ name :: after ∧ last <+: name := by
  constructor
  · rintro ⟨rest, rfl⟩
    by_cases mem : separator ∈ start
    · rcases exists_last_separator mem with ⟨before, last, rfl, free⟩
      rcases exists_splitAt_of_prefix free (prefix_append last rest) with
        ⟨name, after, split, inName⟩
      refine ⟨splitAt separator before, last, name, after, ?_, ?_, inName⟩
      · rw [splitAt_append_cons, splitAt_of_not_mem free]
      · rw [append_assoc, cons_append, splitAt_append_cons, split]
    · rcases exists_splitAt_of_prefix mem (prefix_append start rest) with
        ⟨name, after, split, inName⟩
      exact ⟨[], start, name, after, splitAt_of_not_mem mem, split, inName⟩
  · rintro ⟨before, last, name, after, startSplit, textSplit, inName⟩
    rw [← intercalate_splitAt separator start, ← intercalate_splitAt separator text, startSplit,
      textSplit]
    exact prefix_intercalate inName

theorem splitAt_map_replace {other : Char} (different : other ≠ separator) (chars : List Char) :
    splitAt separator (chars.map fun c => if c = other then separator else c) =
      (splitAt separator chars).flatMap (splitAt other) := by
  induction chars with
  | nil => simp [splitAt]
  | cons c rest ih =>
    rcases exists_cons_of_ne_nil (splitAt_ne_nil separator rest) with
      ⟨piece, pieces, split⟩
    rw [split, flatMap_cons] at ih
    by_cases isOther : c = other
    · simp [splitAt, isOther, different, split, ih]
    · by_cases isSeparator : c = separator
      · simp [splitAt, isSeparator, split, ih, Ne.symm different]
      · rcases exists_cons_of_ne_nil (splitAt_ne_nil other piece) with
          ⟨part, parts, pieceSplit⟩
        simp [splitAt, isOther, isSeparator, split, ih, pieceSplit]

end ErpLens.Text

namespace ErpLens.Files.Path

theorem startsWith_iff_components {text start : String} :
    Text.startsWith text start = true ↔ ∃ before last name after,
      components start = before ++ [last] ∧ components text = before ++ name :: after ∧
      Text.startsWith name last = true := by
  simp only [Text.startsWith, isPrefixOf_iff_prefix, components]
  rw [@Text.prefix_iff_splitAt '/']
  constructor
  · rintro ⟨before, last, name, after, startSplit, textSplit, inName⟩
    refine ⟨before.map String.ofList, String.ofList last, String.ofList name,
      after.map String.ofList, ?_, ?_, by simpa using inName⟩
    · simp [startSplit]
    · simp [textSplit]
  · rintro ⟨before, last, name, after, startSplit, textSplit, inName⟩
    have chars (parts : List (List Char)) :
        (parts.map String.ofList).map String.toList = parts := by
      simp [Function.comp_def]
    refine ⟨before.map String.toList, last.toList, name.toList, after.map String.toList, ?_, ?_,
      inName⟩
    · rw [← chars (Text.splitAt '/' start.toList), startSplit]
      simp
    · rw [← chars (Text.splitAt '/' text.toList), textSplit]
      simp

/-- Backslashes divide components like slashes once they are written as such. -/
theorem components_forwardSlashes (path : String) :
    components (forwardSlashes path) = (components path).flatMap fun part =>
      (Text.splitAt '\\' part.toList).map String.ofList := by
  have split := @Text.splitAt_map_replace '/' '\\' (by decide) path.toList
  simp only [components, forwardSlashes, String.toList_ofList, beq_iff_eq, split,
    map_flatMap, flatMap_map]

end ErpLens.Files.Path

namespace ErpLens.Retrieval

variable {folder : String} {found before : List String}

open Files Program

/-! ## Names of folders -/

/-- The names in a component of a path. Backslashes stand between them. -/
def namesIn (part : String) : List String :=
  (Text.splitAt '\\' part.toList).map String.ofList

/-- The names on the way to a folder from the current directory. -/
def folderNames (folder : String) : List String :=
  (Path.resolved folder).flatMap namesIn

theorem namesIn_ne_nil (part : String) : namesIn part ≠ [] := by
  simpa [namesIn] using Text.splitAt_ne_nil '\\' part.toList

theorem flatMap_namesIn_eq_nil_iff {parts : List String} :
    parts.flatMap namesIn = [] ↔ parts = [] := by
  rw [flatMap_eq_nil_iff, eq_nil_iff_forall_not_mem]
  exact forall_congr' fun part => imp_congr_right fun _ => iff_false_intro (namesIn_ne_nil part)

theorem eq_of_namesIn_eq_singleton {part name : String} (single : namesIn part = [name]) :
    part = name := by
  rcases map_eq_singleton_iff.mp single with ⟨chars, split, rfl⟩
  have joined := Text.intercalate_splitAt '\\' part.toList
  rw [split, intercalate_singleton] at joined
  rw [joined, String.ofList_toList]

theorem components_storedFile (relative : Path.isAbsolute folder = false) :
    Path.components (storedFile folder) =
      if folderNames folder = [] then ["."] else folderNames folder := by
  by_cases unnamed : Path.resolved folder = []
  · have dot : storedFile folder = "." := by
      simp [storedFile, Path.normalize, Path.rootOf_of_relative relative, unnamed]
      decide +kernel
    rw [folderNames, if_pos (flatMap_namesIn_eq_nil_iff.mpr unnamed), dot]
    decide +kernel
  · rw [folderNames, if_neg (mt flatMap_namesIn_eq_nil_iff.mp unnamed), storedFile,
      Path.components_forwardSlashes, Path.components_normalize relative unnamed]
    rfl

theorem ne_dot_of_folderNames {name : String} (single : folderNames folder = [name]) :
    name ≠ "" ∧ name ≠ "." := by
  have component : Path.resolved folder = [name] := by
    rw [folderNames] at single
    cases parts : Path.resolved folder with
    | nil => simp [parts] at single
    | cons part rest =>
      rw [parts, flatMap_cons, append_eq_singleton_iff] at single
      rcases single with ⟨none, _⟩ | ⟨one, others⟩
      · exact absurd none (namesIn_ne_nil part)
      · rw [eq_of_namesIn_eq_singleton one, flatMap_namesIn_eq_nil_iff.mp others]
  have mem : name ∈ Path.resolved folder := by simp [component]
  refine ⟨(Path.of_mem_resolved mem).1, ?_⟩
  rintro rfl
  exact Path.dot_not_mem_resolved folder mem

/-! ## Folders that pass -/

/-- Whether a folder, given by its names, holds another or is the same. The current folder holds all
folders that are not reached by going up. -/
def Holds (outer inner : List String) : Prop :=
  if outer = [] then inner.head? ≠ some ".." else outer <+: inner

/-- The folders that pass the test for a folder, by their names. -/
inductive PassesFor : List String → List String → Prop
  | current : PassesFor [] []
  | dotted {name : String} (after : List String) (dot : Text.startsWith name "." = true) :
      PassesFor [] (name :: after)
  | alike (before : List String) {last name : String} (after : List String)
      (starts : Text.startsWith name last = true) :
      PassesFor (before ++ [last]) (before ++ name :: after)

theorem passesFor_nil_iff :
    PassesFor [] found ↔
      found = [] ∨ ∃ name after, found = name :: after ∧ Text.startsWith name "." = true := by
  constructor
  · intro passes
    generalize noNames : ([] : List String) = names at passes
    cases passes with
    | current => exact .inl rfl
    | dotted after dot => exact .inr ⟨_, after, rfl, dot⟩
    | alike before after starts => simp at noNames
  · rintro (rfl | ⟨name, after, rfl, dot⟩)
    · exact .current
    · exact .dotted after dot

theorem passesFor_concat_iff {last : String} :
    PassesFor (before ++ [last]) found ↔
      ∃ name after, found = before ++ name :: after ∧ Text.startsWith name last = true := by
  constructor
  · intro passes
    generalize namesEq : before ++ [last] = names at passes
    cases passes with
    | current => simp at namesEq
    | dotted after dot => simp at namesEq
    | alike others after starts =>
      obtain ⟨rfl, lastEq⟩ := append_inj' namesEq rfl
      obtain rfl := singleton_inj.mp lastEq
      exact ⟨_, after, rfl, starts⟩
  · rintro ⟨name, after, rfl, starts⟩
    exact .alike before after starts

theorem startsWith_current_iff {found : String} (relative : Path.isAbsolute folder = false)
    (foundRelative : Path.isAbsolute found = false) (isCurrent : folderNames folder = []) :
    Text.startsWith (storedFile found) (storedFile folder) = true ↔
      PassesFor [] (folderNames found) := by
  rw [Path.startsWith_iff_components, components_storedFile relative, if_pos isCurrent,
    components_storedFile foundRelative, passesFor_nil_iff]
  constructor
  · rintro ⟨before, last, name, after, dot, parts, starts⟩
    obtain ⟨rfl, rfl⟩ : before = [] ∧ last = "." := by
      rcases before with _ | ⟨first, rest⟩
      · simpa [eq_comm] using dot
      · simp at dot
    by_cases alsoCurrent : folderNames found = []
    · exact .inl alsoCurrent
    · rw [if_neg alsoCurrent, nil_append] at parts
      exact .inr ⟨name, after, parts, starts⟩
  · rintro (alsoCurrent | ⟨name, after, parts, starts⟩)
    · rw [if_pos alsoCurrent]
      exact ⟨[], ".", ".", [], rfl, rfl, by decide⟩
    · rw [if_neg (by simp [parts])]
      exact ⟨[], ".", name, after, rfl, parts, starts⟩

theorem startsWith_concat_iff {found last : String} (relative : Path.isAbsolute folder = false)
    (foundRelative : Path.isAbsolute found = false)
    (names : folderNames folder = before ++ [last]) :
    Text.startsWith (storedFile found) (storedFile folder) = true ↔
      PassesFor (before ++ [last]) (folderNames found) := by
  rw [Path.startsWith_iff_components, components_storedFile relative, if_neg (by simp [names]),
    names, components_storedFile foundRelative, passesFor_concat_iff]
  constructor
  · rintro ⟨others, end_, name, after, same, parts, starts⟩
    obtain ⟨rfl, lastEq⟩ := append_inj' same rfl
    obtain rfl := singleton_inj.mp lastEq
    refine ⟨name, after, ?_, starts⟩
    by_cases isCurrent : folderNames found = []
    · -- The dot of the current folder starts with no single name.
      rw [if_pos isCurrent] at parts
      obtain ⟨rfl, rfl⟩ : before = [] ∧ name = "." := by
        rcases before with _ | ⟨first, rest⟩
        · simpa [eq_comm] using And.left (List.cons.inj parts)
        · simp at parts
      have ⟨notBlank, notDot⟩ := ne_dot_of_folderNames names
      have inDot : last.toList <+: ['.'] := isPrefixOf_iff_prefix.mp starts
      rcases prefix_cons_iff.mp inDot with none | ⟨rest, chars, none⟩
      · exact absurd (String.toList_eq_nil_iff.mp none) notBlank
      · rw [prefix_nil.mp none] at chars
        exact absurd (String.toList_injective chars) notDot
    · rwa [if_neg isCurrent] at parts
  · rintro ⟨name, after, parts, starts⟩
    rw [if_neg (by simp [parts])]
    exact ⟨before, last, name, after, rfl, parts, starts⟩

theorem startsWith_storedFile_iff {found : String} (relative : Path.isAbsolute folder = false)
    (foundRelative : Path.isAbsolute found = false) :
    Text.startsWith (storedFile found) (storedFile folder) = true ↔
      PassesFor (folderNames folder) (folderNames found) := by
  rcases eq_nil_or_concat (folderNames folder) with isCurrent | ⟨before, last, names⟩
  · rw [isCurrent]
    exact startsWith_current_iff relative foundRelative isCurrent
  · rw [concat_eq_append] at names
    rw [names]
    exact startsWith_concat_iff relative foundRelative names

theorem holds_concat_iff {last : String} :
    Holds (before ++ [last]) found ↔ ∃ after, found = before ++ last :: after := by
  rw [Holds, if_neg (by simp)]
  constructor
  · rintro ⟨rest, rfl⟩
    exact ⟨rest, by simp⟩
  · rintro ⟨after, rfl⟩
    exact ⟨after, by simp⟩

/-- A folder with a name gets what it holds, and what its siblings with longer names hold. -/
theorem passesFor_and_not_holds_iff {last : String} :
    (Holds (before ++ [last]) found → PassesFor (before ++ [last]) found) ∧
      (PassesFor (before ++ [last]) found ∧ ¬ Holds (before ++ [last]) found ↔ ∃ name after,
        found = before ++ name :: after ∧ Text.startsWith name last = true ∧ name ≠ last) := by
  rw [holds_concat_iff, passesFor_concat_iff]
  refine ⟨?_, ?_, ?_⟩
  · rintro ⟨after, rfl⟩
    exact ⟨last, after, rfl, by simp [Text.startsWith]⟩
  · rintro ⟨⟨name, after, rfl, starts⟩, notHeld⟩
    refine ⟨name, after, rfl, starts, ?_⟩
    rintro rfl
    exact notHeld ⟨after, rfl⟩
  · rintro ⟨name, after, rfl, starts, different⟩
    refine ⟨⟨name, after, rfl, starts⟩, ?_⟩
    rintro ⟨others, same⟩
    exact different (List.cons.inj (append_cancel_left same)).1

/-- The current folder loses what it holds in folders whose name does not start with a dot. -/
theorem holds_and_not_passesFor_iff :
    Holds [] found ∧ ¬ PassesFor [] found ↔
      ∃ name after, found = name :: after ∧ Text.startsWith name "." = false := by
  rw [Holds, if_pos rfl, passesFor_nil_iff]
  cases found with
  | nil => simp
  | cons name after =>
    have notUp : Text.startsWith name "." = false → name ≠ ".." := by
      rintro plain rfl
      exact absurd plain (by decide)
    simpa using notUp

/-! ## Hits of a question -/

/-- The folder of a hit. -/
def folderOf (hit : Hit) : String :=
  match hit.metadata.getD (.str "folder") (.str "") with
  | .ok (.str folder) => folder
  | _ => ""

/-- A hit has a folder, seen from the current directory. -/
structure Located (hit : Hit) : Prop where
  named : hit.metadata.getD (.str "folder") (.str "") = .ok (.str (folderOf hit))
  relative : Path.isAbsolute (folderOf hit) = false

/-- The hits in scope are those whose folder passes. -/
theorem hitsInScope_eq_filter (named : folder ≠ "") {hits : List Hit}
    (located : ∀ hit ∈ hits, Located hit) :
    hitsInScope (some folder) hits = .ok (hits.filter fun hit =>
      Text.startsWith (storedFile (folderOf hit)) (storedFile folder)) := by
  induction hits with
  | nil => exact hitsInScope_nil (some folder)
  | cons hit rest ih =>
    rw [forall_mem_cons] at located
    have tested : inScope (some folder) hit =
        .ok (Text.startsWith (storedFile (folderOf hit)) (storedFile folder)) := by
      have isGiven : given (some folder) = some folder := by simp [given, named]
      have read : Report.keyOr hit.metadata "folder" (.str "") = .ok (.str (folderOf hit)) :=
        located.1.named
      simp only [inScope, isGiven, passes, read]
      rfl
    rw [hitsInScope_cons, tested, ok_bind, ih located.2, ok_bind]
    cases passing : Text.startsWith (storedFile (folderOf hit)) (storedFile folder) <;>
      simp [passing, pure, Except.pure]

/--
A question about a relative folder gives, in their order, the hits whose folder starts with the text
of the folder. In terms of names, these are the hits in folders with the same names but for the
last, in place of which there may be any name that starts with it. All hits in the folder and below
it are among them, but for the current folder, which only gives its own hits and those in folders
whose name starts with a dot.
-/
theorem query_keeps_folders_that_start_alike (workspace : Workspace)
    (collection question folder : String) (count : Value) (file : Option String)
    (hits : List Hit) (named : folder ≠ "") (relative : Path.isAbsolute folder = false)
    (located : ∀ hit ∈ hits, Located hit) :
    ∃ kept : List Hit,
      (query { collection := some collection } question count { file, folder := some folder }).runIn
          (workspace.finding hits) =
        (.ok (some (.ofHits kept)), (workspace.finding hits).extended []
          [.nearest question count ((given file).map storedFile)]) ∧
      kept = hits.filter (fun hit =>
        Text.startsWith (storedFile (folderOf hit)) (storedFile folder)) ∧
      (∀ hit ∈ hits, hit ∈ kept ↔ PassesFor (folderNames folder) (folderNames (folderOf hit))) ∧
      (∀ before last, folderNames folder = before ++ [last] → ∀ hit ∈ hits,
        (Holds (folderNames folder) (folderNames (folderOf hit)) → hit ∈ kept) ∧
        (hit ∈ kept ∧ ¬ Holds (folderNames folder) (folderNames (folderOf hit)) ↔ ∃ name after,
          folderNames (folderOf hit) = before ++ name :: after ∧
          Text.startsWith name last = true ∧ name ≠ last)) ∧
      (folderNames folder = [] → ∀ hit ∈ hits,
        (Holds [] (folderNames (folderOf hit)) ∧ hit ∉ kept ↔ ∃ name after,
          folderNames (folderOf hit) = name :: after ∧ Text.startsWith name "." = false)) ∧
      queryValue question (some (.ofHits kept)) = .ofFields [("query", .str question),
        ("chunks", .list (kept.map Hit.document)), ("metadata", .list (kept.map Hit.metadata)),
        ("distances", .list (kept.map Hit.distance))] := by
  have kept : ∀ hit ∈ hits, hit ∈ hits.filter (fun hit =>
      Text.startsWith (storedFile (folderOf hit)) (storedFile folder)) ↔
        PassesFor (folderNames folder) (folderNames (folderOf hit)) := by
    intro hit hitMem
    rw [List.mem_filter, and_iff_right hitMem]
    exact startsWith_storedFile_iff relative (located hit hitMem).relative
  refine ⟨_, ?_, rfl, kept, ?_, ?_, rfl⟩
  · rw [runIn_query rfl, hitsInScope_eq_filter named located]
    rfl
  · intro before last names hit hitMem
    rw [kept hit hitMem, names]
    exact passesFor_and_not_holds_iff
  · intro isCurrent hit hitMem
    rw [kept hit hitMem, isCurrent]
    exact holds_and_not_passesFor_iff

theorem folderOf_hitIn (folder text : String) : folderOf (hitIn folder text) = folder := by
  have read : (hitIn folder text).metadata.getD (.str "folder") (.str "") = .ok (.str folder) :=
    Value.getD_ofFields rfl _
  rw [folderOf, read]

theorem located_hitIn (relative : Path.isAbsolute folder = false) (text : String) :
    Located (hitIn folder text) := by
  constructor
  · rw [folderOf_hitIn]
    exact Value.getD_ofFields rfl _
  · rw [folderOf_hitIn]
    exact relative

/-- Hits in a folder, below it, in a sibling with a longer name, and elsewhere. -/
def siblingHits : List Hit :=
  [hitIn "src" "x", hitIn "src2" "y", hitIn "src/sub" "z", hitIn "lib" "v", hitIn "../src" "w"]

theorem located_siblingHits : ∀ hit ∈ siblingHits, Located hit := by
  simp only [siblingHits, forall_mem_cons]
  refine ⟨?_, ?_, ?_, ?_, ?_, by simp⟩
  all_goals exact located_hitIn (by decide +kernel) _

theorem map_folderOf_siblingHits :
    siblingHits.map folderOf = ["src", "src2", "src/sub", "lib", "../src"] := by
  simp [siblingHits, folderOf_hitIn]

theorem map_folderOf_filter (folder : String) (hits : List Hit) :
    (hits.filter fun hit =>
      Text.startsWith (storedFile (folderOf hit)) (storedFile folder)).map folderOf =
      (hits.map folderOf).filter fun found =>
        Text.startsWith (storedFile found) (storedFile folder) := by
  simp only [filter_map, Function.comp_def]

theorem query_keeps_folders_that_start_alike_of_siblingHits :
    let workspace : Workspace := { files := .of [] .nil, service := { reply := .nothing } }
    Path.isAbsolute "./src/" = false ∧ (∀ hit ∈ siblingHits, Located hit) ∧
      ∃ (kept : List Hit) (after : Workspace),
        (query { collection := some "code" } "why?" (.int 3) { folder := some "./src/" }).runIn
          (workspace.finding siblingHits) = (.ok (some (.ofHits kept)), after) ∧
        kept.map folderOf = ["src", "src2", "src/sub"] := by
  intro workspace
  have relative : Path.isAbsolute "./src/" = false := by decide +kernel
  rcases query_keeps_folders_that_start_alike workspace "code" "why?" "./src/" (.int 3) none
    siblingHits (by decide) relative located_siblingHits with ⟨kept, ran, keptEq, -⟩
  refine ⟨relative, located_siblingHits, kept, _, ran, ?_⟩
  rw [keptEq, map_folderOf_filter, map_folderOf_siblingHits]
  decide +kernel

/-- The folders of the hits that a query for a folder keeps. -/
def keptFolders (folder : String) (hits : List Hit) : List String :=
  let workspace : Workspace := { files := .of [] .nil, service := { reply := .nothing } }
  match ((query { collection := some "code" } "why?" (.int 3) { folder := some folder }).runIn
    (workspace.finding hits)).1 with
  | .ok (some kept) => kept.hits.map folderOf
  | _ => []

theorem keptFolders_eq (named : folder ≠ "") {hits : List Hit}
    (located : ∀ hit ∈ hits, Located hit) :
    keptFolders folder hits = (hits.map folderOf).filter fun found =>
      Text.startsWith (storedFile found) (storedFile folder) := by
  rw [keptFolders, runIn_query rfl, hitsInScope_eq_filter named located]
  simp only [Except.map, Retrieved.hits_ofHits, map_folderOf_filter]

/-- A folder gets the hits of its sibling, and the current folder loses those below it. -/
theorem folders_get_siblings_and_current_folder_loses_hits :
    ¬ Holds (folderNames "src") (folderNames "src2") ∧
      keptFolders "src" siblingHits = ["src", "src2", "src/sub"] ∧
      Holds (folderNames ".") (folderNames "lib") ∧ keptFolders "." siblingHits = ["../src"] := by
  rw [keptFolders_eq (by decide) located_siblingHits,
    keptFolders_eq (by decide) located_siblingHits, map_folderOf_siblingHits]
  unfold Holds
  decide +kernel

end ErpLens.Retrieval
