import ErpLens.Proofs.EntityListing
import ErpLens.Proofs.FileTrees
import Mathlib

/-!
# Entities of a folder

The entities of a folder are taken from everything below it that has the name of a source,
directories too. What cannot be read leaves the entities of the file before it, which are then
listed again.
-/

open List

namespace ErpLens

theorem Text.occursIn_iff (part chars : List Char) :
    occursIn part chars = true ↔ part <:+: chars := by
  induction chars with
  | nil => simp [occursIn]
  | cons c rest ih =>
    rw [occursIn, Bool.or_eq_true, ih, isPrefixOf_iff_prefix, infix_cons_iff]

namespace Files

variable {node : Node} {names : List String}

/-! ## Tidy paths -/

namespace Path

theorem tidy_ne_empty (path : String) : tidy path ≠ "" := by
  simp only [tidy]
  split
  · decide
  · rename_i nonempty
    simpa using nonempty

theorem tidyJoin_ne_empty {path name : String} (nonempty : path ≠ "") (valid : ValidName name) :
    tidyJoin path name ≠ "" := by
  rw [tidyJoin]
  split
  · exact valid.ne_empty
  · exact join_ne_empty nonempty

variable (current : List String)

theorem located_dot_name {name : String} (valid : ValidName name) :
    located current name = located current "." ++ [name] := by
  have start : startOf current name = startOf current "." := by
    rw [startOf, not_isAbsolute valid.no_slash]
    rfl
  have dot : components "." = ["."] := by decide
  have stays (found : List String) : resolveStep true found "." = found := rfl
  rw [located, located, start, components_name valid.no_slash, dot, foldl_concat, foldl_concat,
    stays, resolveStep_name _ _ valid, reverse_cons]

theorem located_tidyJoin {path name : String} (nonempty : path ≠ "") (valid : ValidName name) :
    located current (tidyJoin path name) = located current path ++ [name] := by
  rw [tidyJoin]
  split
  · rename_i isDot
    rw [beq_iff_eq.mp isDot]
    exact located_dot_name current valid
  · exact located_join current nonempty valid

/-- A path continued by several names. -/
def tidyJoinAll (path : String) (names : List String) : String :=
  names.foldl tidyJoin path

theorem located_tidyJoinAll {path : String} {names : List String} (nonempty : path ≠ "")
    (valid : ∀ name ∈ names, ValidName name) :
    located current (tidyJoinAll path names) = located current path ++ names := by
  induction names generalizing path with
  | nil => rw [append_nil]; rfl
  | cons name rest ih =>
    rw [forall_mem_cons] at valid
    have later := ih (tidyJoin_ne_empty nonempty valid.1) valid.2
    rw [located_tidyJoin current nonempty valid.1, append_assoc] at later
    exact later

end Path

theorem lookup_tidyJoin {disk : Disk} {path name : String} {entries : Directory}
    (reached : lookup disk path = .found (.directory entries)) (valid : ValidName name)
    (found : entries.find? name = some node) :
    lookup disk (Path.tidyJoin path name) = .found node := by
  rw [Path.tidyJoin]
  split
  · rename_i isDot
    have dot : Path.components "." = ["."] := by decide
    have start : Path.startOf disk.current name = Path.startOf disk.current "." := by
      rw [Path.startOf, Path.not_isAbsolute valid.no_slash]
      rfl
    rw [beq_iff_eq.mp isDot, lookup, if_neg (by decide), dot] at reached
    rw [lookup, if_neg (by simpa using valid.ne_empty), start,
      Path.components_name valid.no_slash]
    exact follow_append_name (follow_of_append_stays (.inr rfl) reached) valid found
  · exact lookup_join reached valid found

/-! ## What names lead to -/

/-- What a node holds at the end of some names. -/
def Node.at? : Node → List String → Option Node
  | node, [] => some node
  | .file _, _ :: _ => none
  | .directory entries, name :: rest => (Directory.find? name entries).bind (·.at? rest)

theorem Node.WellFormed.valid_of_at? {found : Node} (wellFormed : node.WellFormed)
    (led : node.at? names = some found) : ∀ name ∈ names, ValidName name := by
  induction names generalizing node with
  | nil => simp
  | cons name rest ih =>
    cases wellFormed with
    | file bytes => cases led
    | directory distinct valid below =>
      rcases Option.bind_eq_some_iff.mp led with ⟨inner, innerFound, innerLed⟩
      have entryMem := Directory.mem_of_find? innerFound
      exact forall_mem_cons.mpr ⟨valid _ entryMem, ih (below _ entryMem) innerLed⟩

theorem Node.WellFormed.lookup_at? {disk : Disk} {path : String} {found : Node}
    (wellFormed : node.WellFormed) (reached : lookup disk path = .found node)
    (led : node.at? names = some found) :
    lookup disk (Path.tidyJoinAll path names) = .found found := by
  induction names generalizing node path with
  | nil =>
    cases led
    exact reached
  | cons name rest ih =>
    cases wellFormed with
    | file bytes => cases led
    | directory distinct valid below =>
      rcases Option.bind_eq_some_iff.mp led with ⟨inner, innerFound, innerLed⟩
      have entryMem := Directory.mem_of_find? innerFound
      exact ih (below _ entryMem) (lookup_tidyJoin reached (valid _ entryMem) innerFound)
        innerLed

/-! ## The names of what is matched -/

mutual

/-- For each match below a node, in the order of the walk, the names that lead to it. -/
def matchNamesOf : Node → List (List String)
  | .file _ => []
  | .directory entries =>
    ((entries.map Prod.fst).filter (Path.hasSuffix ".py")).map (fun name => [name]) ++
      matchNamesBelow entries

def matchNamesBelow : List (String × Node) → List (List String)
  | [] => []
  | (name, node) :: rest => (matchNamesOf node).map (name :: ·) ++ matchNamesBelow rest

end

mutual

theorem matchesOf_eq_map (path : String) : ∀ node : Node,
    matchesOf path node = (matchNamesOf node).map (Path.tidyJoinAll path)
  | .file _ => rfl
  | .directory entries => by
      rw [matchesOf, matchNamesOf, map_append, matchesBelow_eq_map path entries, map_map]
      rfl

theorem matchesBelow_eq_map (path : String) : ∀ entries : List (String × Node),
    matchesBelow path entries = (matchNamesBelow entries).map (Path.tidyJoinAll path)
  | [] => rfl
  | (name, node) :: rest => by
      rw [matchesBelow, matchNamesBelow, map_append, matchesBelow_eq_map path rest,
        matchesOf_eq_map (Path.tidyJoin path name) node, map_map]
      rfl

end

theorem matchNamesBelow_eq (entries : List (String × Node)) :
    matchNamesBelow entries =
      entries.flatMap fun entry => (matchNamesOf entry.2).map (entry.1 :: ·) := by
  induction entries with
  | nil => rfl
  | cons entry rest ih => rw [matchNamesBelow, ih, flatMap_cons]

theorem ne_nil_of_mem_matchNamesOf (listed : names ∈ matchNamesOf node) : names ≠ [] := by
  rintro rfl
  cases node with
  | file bytes => simp [matchNamesOf] at listed
  | directory entries => simp [matchNamesOf, matchNamesBelow_eq] at listed

section Entries

variable {entries : Directory} (distinct : (entries.map Prod.fst).Nodup)

include distinct

theorem cons_mem_matchNamesBelow {name : String} {more : List String} :
    name :: more ∈ matchNamesBelow entries ↔
      ∃ inner, Directory.find? name entries = some inner ∧ more ∈ matchNamesOf inner := by
  rw [matchNamesBelow_eq, mem_flatMap]
  constructor
  · rintro ⟨entry, entryMem, listed⟩
    rcases mem_map.mp listed with ⟨others, othersMem, namesEq⟩
    cases namesEq
    exact ⟨entry.2, Directory.find?_of_mem distinct entryMem, othersMem⟩
  · rintro ⟨inner, innerFound, listed⟩
    exact ⟨(name, inner), Directory.mem_of_find? innerFound, mem_map_of_mem listed⟩

theorem singleton_mem_matchNamesOf {name : String} :
    [name] ∈ matchNamesOf (.directory entries) ↔
      Path.hasSuffix ".py" name = true ∧ ∃ inner, Directory.find? name entries = some inner := by
  have nothingBelow : [name] ∉ matchNamesBelow entries := by
    rw [cons_mem_matchNamesBelow distinct]
    rintro ⟨inner, _, listed⟩
    exact ne_nil_of_mem_matchNamesOf listed rfl
  rw [matchNamesOf, mem_append, or_iff_left nothingBelow]
  simp only [mem_map, mem_filter, singleton_inj, exists_eq_right]
  constructor
  · rintro ⟨⟨entry, entryMem, rfl⟩, isSource⟩
    exact ⟨isSource, entry.2, Directory.find?_of_mem distinct entryMem⟩
  · rintro ⟨isSource, inner, innerFound⟩
    exact ⟨⟨(name, inner), Directory.mem_of_find? innerFound, rfl⟩, isSource⟩

theorem cons_cons_mem_matchNamesOf {first second : String} {more : List String} :
    first :: second :: more ∈ matchNamesOf (.directory entries) ↔
      ∃ inner, Directory.find? first entries = some inner ∧
        second :: more ∈ matchNamesOf inner := by
  have notOwn : first :: second :: more ∉
      ((entries.map Prod.fst).filter (Path.hasSuffix ".py")).map fun name => [name] := by
    simp
  rw [matchNamesOf, mem_append, or_iff_right notOwn, cons_mem_matchNamesBelow distinct]

end Entries

theorem Node.WellFormed.mem_matchNamesOf (wellFormed : node.WellFormed) :
    names ∈ matchNamesOf node ↔
      (∃ name ∈ names.getLast?, Path.hasSuffix ".py" name = true) ∧
        ∃ found, node.at? names = some found := by
  induction names generalizing node with
  | nil => simpa using fun listed => ne_nil_of_mem_matchNamesOf listed rfl
  | cons first others ih =>
    cases wellFormed with
    | file bytes => simp [matchNamesOf, Node.at?]
    | @directory entries distinct valid below =>
      cases others with
      | nil => simp [singleton_mem_matchNamesOf distinct, Node.at?]
      | cons second more =>
        have inside {inner : Node}
            (innerFound : Directory.find? first entries = some inner) :=
          ih (below _ (Directory.mem_of_find? innerFound))
        rw [cons_cons_mem_matchNamesOf distinct, getLast?_cons_cons]
        constructor
        · rintro ⟨inner, innerFound, listed⟩
          rcases (inside innerFound).mp listed with ⟨isSource, found, led⟩
          exact ⟨isSource, found, Option.bind_eq_some_iff.mpr ⟨inner, innerFound, led⟩⟩
        · rintro ⟨isSource, found, led⟩
          rcases Option.bind_eq_some_iff.mp led with ⟨inner, innerFound, innerLed⟩
          exact ⟨inner, innerFound, (inside innerFound).mpr ⟨isSource, found, innerLed⟩⟩

theorem Node.WellFormed.nodup_matchNamesOf (wellFormed : node.WellFormed) :
    (matchNamesOf node).Nodup := by
  induction wellFormed with
  | file bytes => exact nodup_nil
  | @directory entries distinct valid below ih =>
    have own :
        (((entries.map Prod.fst).filter (Path.hasSuffix ".py")).map fun name => [name]).Nodup :=
      (distinct.filter _).map fun _ _ => singleton_inj.mp
    have further : (matchNamesBelow entries).Nodup := by
      rw [matchNamesBelow_eq, nodup_flatMap]
      refine ⟨fun entry entryMem => (ih entry entryMem).map cons_injective, ?_⟩
      refine (pairwise_map.mp distinct).imp fun differ names leftMem rightMem => ?_
      rcases mem_map.mp leftMem with ⟨more, _, rfl⟩
      rcases mem_map.mp rightMem with ⟨others, _, namesEq⟩
      exact differ (List.cons.inj namesEq).1.symm
    rw [matchNamesOf]
    refine own.append further fun names ownMem furtherMem => ?_
    rcases mem_map.mp ownMem with ⟨name, _, rfl⟩
    rcases (cons_mem_matchNamesBelow distinct).mp furtherMem with ⟨inner, _, listed⟩
    exact ne_nil_of_mem_matchNamesOf listed rfl

variable {disk : Disk} {path : String}

/-- The listing has exactly the entries with the name of a source. -/
theorem mem_matchSources {found : String} :
    found ∈ matchSources disk path ↔ ∃ top names name node,
      lookup disk (Path.tidy path) = .found top ∧ top.at? (names ++ [name]) = some node ∧
        Path.hasSuffix ".py" name = true ∧
        found = Path.tidyJoinAll (Path.tidy path) (names ++ [name]) ∧
        lookup disk found = .found node := by
  rw [matchSources]
  cases reached : lookup disk (Path.tidy path) with
  | found top =>
    have topWellFormed := wellFormed_of_lookup reached
    simp only [matchesOf_eq_map, mem_map, topWellFormed.mem_matchNamesOf, Lookup.found.injEq]
    constructor
    · rintro ⟨names, ⟨⟨name, isLast, isSource⟩, node, led⟩, rfl⟩
      rcases getLast?_eq_some_iff.mp isLast with ⟨before, rfl⟩
      exact ⟨top, before, name, node, rfl, led, isSource, rfl,
        topWellFormed.lookup_at? reached led⟩
    · rintro ⟨_, names, name, node, rfl, led, isSource, rfl, _⟩
      exact ⟨names ++ [name], ⟨⟨name, by simp, isSource⟩, node, led⟩, rfl⟩
  | missing => simp
  | blocked => simp

theorem nodup_matchSources : (matchSources disk path).Nodup := by
  rw [matchSources]
  split
  · rename_i top reached
    have topWellFormed := wellFormed_of_lookup reached
    rw [matchesOf_eq_map]
    refine Nodup.map_on ?_ topWellFormed.nodup_matchNamesOf
    intro left leftMem right rightMem sameJoined
    rcases (topWellFormed.mem_matchNamesOf.mp leftMem).2 with ⟨_, leftLed⟩
    rcases (topWellFormed.mem_matchNamesOf.mp rightMem).2 with ⟨_, rightLed⟩
    have places := congrArg (Path.located disk.current) sameJoined
    have nonempty := Path.tidy_ne_empty path
    rw [Path.located_tidyJoinAll _ nonempty (topWellFormed.valid_of_at? leftLed),
      Path.located_tidyJoinAll _ nonempty (topWellFormed.valid_of_at? rightLed)] at places
    exact append_cancel_left places
  · exact nodup_nil

end Files

namespace Analysis

open Source

/-! ## Files one after the other -/

/-- The entities of the file at a path as an extractor that has seen nothing before gives them, if
a file stands there. -/
def entitiesAt? (disk : Files.Disk) (path : String) : Option FileEntities :=
  (Files.readSource disk path).toOption.map fun _ => (extractFile disk {} path).extractor.entities

theorem isSome_entitiesAt?_iff {disk : Files.Disk} {path : String} :
    (entitiesAt? disk path).isSome = true ↔
      ∃ bytes, Files.lookup disk path = .found (.file bytes) := by
  simp only [entitiesAt?, Option.isSome_map, Files.readSource, Files.readBytes]
  cases Files.lookup disk path with
  | found node => cases node <;> simp [Except.map, Except.toOption]
  | missing => simp [Except.map, Except.toOption]
  | blocked => simp [Except.map, Except.toOption]

/-- An entry for each place; where there is none, the one before it is repeated. -/
def carried (last : FileEntities) : List (Option FileEntities) → List FileEntities
  | [] => []
  | read? :: rest => read?.getD last :: carried (read?.getD last) rest

variable (disk : Files.Disk) (extractor : Extractor)

theorem extractFile_step (path : String) :
    (extractFile disk extractor path).extractor.entities =
        (entitiesAt? disk path).getD extractor.entities ∧
      (extractFile disk extractor path).fault = (extractFile disk {} path).fault := by
  rw [entitiesAt?]
  cases read : Files.readSource disk path with
  | ok code =>
    rw [extractFile_of_read read]
    exact ⟨rfl, rfl⟩
  | error fault =>
    rw [extractFile_of_error read, extractFile_of_error read]
    exact ⟨rfl, rfl⟩

/-- A run over paths ends early exactly if one of the files does, and else has an entry for each
path. -/
theorem extractFiles_run (paths : List String) :
    ((extractFiles disk extractor paths).2.fault = none ↔
      ∀ path ∈ paths, (extractFile disk {} path).fault = none) ∧
    ((extractFiles disk extractor paths).2.fault = none →
      (extractFiles disk extractor paths).1 =
        carried extractor.entities (paths.map (entitiesAt? disk))) := by
  induction paths generalizing extractor with
  | nil => simp [extractFiles, carried]
  | cons path rest ih =>
    rcases extractFile_step disk extractor path with ⟨entitiesEq, faultEq⟩
    rw [forall_mem_cons, extractFiles]
    cases faulty : (extractFile disk extractor path).fault with
    | some fault => simp [← faultEq, faulty]
    | none =>
      rcases ih (extractFile disk extractor path).extractor with ⟨ends, listed⟩
      simp only [← faultEq, faulty, true_and]
      refine ⟨ends, fun finished => ?_⟩
      rw [listed finished, map_cons, carried, entitiesEq]

theorem length_carried (last : FileEntities) (entries : List (Option FileEntities)) :
    (carried last entries).length = entries.length := by
  induction entries generalizing last with
  | nil => rfl
  | cons read? rest ih => rw [carried, length_cons, length_cons, ih]

/-- Nothing is repeated exactly if every place has an entry of its own. -/
theorem carried_eq_iff (last : FileEntities) (entries : List (Option FileEntities)) :
    carried last entries = entries.filterMap id ↔ ∀ read? ∈ entries, read?.isSome = true := by
  constructor
  · intro same
    have lengths := congrArg List.length same
    rw [length_carried, length_filterMap_eq_countP] at lengths
    exact countP_eq_length.mp lengths.symm
  · intro all
    induction entries generalizing last with
    | nil => rfl
    | cons read? rest ih =>
      rw [forall_mem_cons] at all
      rcases Option.isSome_iff_exists.mp all.1 with ⟨entry, rfl⟩
      rw [carried, ih _ all.2]
      rfl

theorem fault_extractFile_eq_none_iff (path : String) :
    (extractFile disk {} path).fault = none ↔ ∀ code, Files.readSource disk path = .ok code →
      ∀ tree, parse code = .ok tree → tree.Shown := by
  cases read : Files.readSource disk path with
  | error fault => simp [extractFile_of_error read]
  | ok code =>
    have taken : extractFile disk {} path = extractSource path code := by simp [extractFile, read]
    rw [taken]
    cases parsed : parse code with
    | error fault => simp [extractSource, outlineOf, parsed, Except.map]
    | ok tree => simp [fault_extractSource_eq_none_iff path parsed, parsed]

variable {disk}

theorem extractDirectory_eq (path : String) :
    extractDirectory disk extractor path =
      ({ files := (extractFiles disk extractor (extractablePaths disk path)).1 },
        (extractFiles disk extractor (extractablePaths disk path)).2) :=
  rfl

theorem mem_extractablePaths {path found : String} :
    found ∈ extractablePaths disk path ↔ ∃ top names name node,
      Files.lookup disk (Files.Path.tidy path) = .found top ∧
      top.at? (names ++ [name]) = some node ∧ ".py".toList <:+ name.toList ∧
      found = Files.Path.tidyJoinAll (Files.Path.tidy path) (names ++ [name]) ∧
      Files.lookup disk found = .found node ∧ ¬ "__pycache__".toList <:+: found.toList := by
  have cached : (!inCache found) = true ↔ ¬ "__pycache__".toList <:+: found.toList := by
    rw [← Text.occursIn_iff, Bool.not_eq_true', Bool.not_eq_true]
    rfl
  rw [extractablePaths, mem_filter, Files.mem_matchSources, cached]
  simp only [Files.Path.hasSuffix, isSuffixOf_iff_suffix]
  constructor
  · rintro ⟨⟨top, names, name, node, reached, led, isSource, foundEq, held⟩, kept⟩
    exact ⟨top, names, name, node, reached, led, isSource, foundEq, held, kept⟩
  · rintro ⟨top, names, name, node, reached, led, isSource, foundEq, held, kept⟩
    exact ⟨⟨top, names, name, node, reached, led, isSource, foundEq, held⟩, kept⟩

/--
The entities of a folder are taken, each path once, from all that stands below it, has a name that
ends in `.py` and has no `__pycache__` in its path: files and directories. The run ends early
exactly if one of the files has a source that cannot be shown. Else the listing has an entry for
each path, which for a file is its own and for a directory that of the file before it; the classes,
functions and imports are those of the entries in order. So it is the listing of the files alone
exactly if no path is that of a directory.
-/
theorem extractDirectory_repeats_entries (disk : Files.Disk) (path : String) :
    let paths := extractablePaths disk path
    let done := extractDirectory disk {} path
    paths.Nodup ∧
    (∀ found, found ∈ paths ↔ ∃ top names name node,
      Files.lookup disk (Files.Path.tidy path) = .found top ∧
      top.at? (names ++ [name]) = some node ∧ ".py".toList <:+ name.toList ∧
      found = Files.Path.tidyJoinAll (Files.Path.tidy path) (names ++ [name]) ∧
      Files.lookup disk found = .found node ∧ ¬ "__pycache__".toList <:+: found.toList) ∧
    (done.2.fault = none ↔ ∀ found ∈ paths, ∀ code, Files.readSource disk found = .ok code →
      ∀ tree, parse code = .ok tree → tree.Shown) ∧
    (done.2.fault = none →
      done.1.files = carried {} (paths.map (entitiesAt? disk)) ∧
      done.1.classes = done.1.files.flatMap (·.classes) ∧
      done.1.functions = done.1.files.flatMap (·.functions) ∧
      done.1.imports = done.1.files.flatMap (·.imports) ∧
      (done.1.files = paths.filterMap (entitiesAt? disk) ↔
        ∀ found ∈ paths, ∃ bytes, Files.lookup disk found = .found (.file bytes))) := by
  have ran := extractFiles_run disk {} (extractablePaths disk path)
  simp only [extractDirectory_eq]
  generalize extractFiles disk {} (extractablePaths disk path) = done at ran ⊢
  rcases ran with ⟨ends, listed⟩
  refine ⟨Files.nodup_matchSources.filter _, fun found => ?_, ?_, fun finished => ?_⟩
  · rw [mem_extractablePaths]
  · rw [ends]
    simp only [fault_extractFile_eq_none_iff]
  · refine ⟨listed finished, rfl, rfl, rfl, ?_⟩
    have own : (extractablePaths disk path).filterMap (entitiesAt? disk) =
        ((extractablePaths disk path).map (entitiesAt? disk)).filterMap id := by
      rw [List.filterMap_map, Function.id_comp]
    simp only [listed finished, own, carried_eq_iff, List.forall_mem_map, isSome_entitiesAt?_iff]

/-- A source beside a directory that has the name of one. -/
def packageFolder : Files.Disk :=
  .of [("d", .directory
    [("a.py", .file (Text.encodeUtf8 "def f(): pass\n")),
      ("b.py", .directory [("c.py", .file (Text.encodeUtf8 "import g\n"))])])] (by decide +kernel)

theorem extractDirectory_repeats_entries_of_packageFolder :
    (extractDirectory packageFolder {} "d").1.files =
        carried {} (["d/a.py", "d/b.py", "d/b.py/c.py"].map (entitiesAt? packageFolder)) ∧
      (extractDirectory packageFolder {} "d").1.files ≠
        ["d/a.py", "d/b.py", "d/b.py/c.py"].filterMap (entitiesAt? packageFolder) := by
  have paths : extractablePaths packageFolder "d" = ["d/a.py", "d/b.py", "d/b.py/c.py"] := by
    decide +kernel
  have finished : (extractDirectory packageFolder {} "d").2.fault.isNone = true := by
    decide +kernel
  have directory : (entitiesAt? packageFolder "d/b.py").isSome = false := by decide +kernel
  rcases extractDirectory_repeats_entries packageFolder "d" with ⟨_, _, _, listed⟩
  rcases listed (Option.isNone_iff_eq_none.mp finished) with ⟨files, _, _, _, alone⟩
  rw [paths] at files alone
  refine ⟨files, fun same => ?_⟩
  have held := isSome_entitiesAt?_iff.mpr (alone.mp same "d/b.py" (by simp))
  exact Bool.false_ne_true (directory.symm.trans held)

/-- A source with one function, followed by an empty directory named like a source. -/
def sourceAndDirectory : Files.Disk :=
  .of [("d", .directory
    [("a.py", .file (Text.encodeUtf8 "def f():\n    pass\n")), ("b.py", .directory [])])]
    (by decide +kernel)

/-- The only function of a folder is reported twice, with two entries for its only file. -/
theorem function_of_only_file_is_listed_twice :
    (extractDirectory sourceAndDirectory {} "d").2.fault.isNone = true ∧
      (extractDirectory sourceAndDirectory {} "d").1.files.map (·.source) =
        [some ("d/a.py", 3), some ("d/a.py", 3)] ∧
      (extractDirectory sourceAndDirectory {} "d").1.functions.map (·.name) = ["f", "f"] ∧
      (Files.matchSources sourceAndDirectory "d").filter (Files.isFile sourceAndDirectory) =
        ["d/a.py"] := by
  decide +kernel

end Analysis

end ErpLens
