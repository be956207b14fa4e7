import ErpLens.Files.Disk
import Mathlib.Data.List.Basic
import Mathlib.Data.List.Nodup

/-!
# Paths of the sources below a folder

A source below a folder is reached by names, and these come back from a path as they were, whatever
way the folder is written. So every path that a walk lists can be read.
-/

open List

namespace ErpLens.Text

theorem splitAt_eq_splitOn (separator : Char) (chars : List Char) :
    splitAt separator chars = chars.splitOn separator := by
  induction chars with
  | nil => rfl
  | cons c rest ih =>
    rw [splitAt, splitOn_cons_eq_if_modifyHead, ih]
    by_cases isSeparator : c = separator
    · simp [isSeparator]
    · simp only [isSeparator, if_false, beq_iff_eq]
      cases split : rest.splitOn separator with
      | nil => exact absurd split (splitOn_ne_nil separator rest)
      | cons piece pieces => rfl

end ErpLens.Text

namespace ErpLens.Files

variable {entries : Directory} {disk : Disk} {name path : String} {node : Node}
  {above : List Directory} {parts names : List String}

namespace Path

/-! ## Putting a name after a path -/

theorem components_append_slash (path rest : String) :
    components (path ++ "/" ++ rest) = components path ++ components rest := by
  have chars : (path ++ "/" ++ rest).toList = path.toList ++ '/' :: rest.toList := by
    simp
  simp only [components, Text.splitAt_eq_splitOn, chars, splitOn_append_cons_self, map_append]

theorem components_name (no_slash : '/' ∉ name.toList) : components name = [name] := by
  simp [components, Text.splitAt_eq_splitOn, splitOn_eq_singleton no_slash]

theorem not_isAbsolute (no_slash : '/' ∉ name.toList) : isAbsolute name = false := by
  cases chars : name.toList with
  | nil => simp [isAbsolute, chars]
  | cons c rest =>
    rw [chars] at no_slash
    simp only [mem_cons, not_or] at no_slash
    simp [isAbsolute, chars, Ne.symm no_slash.1]

theorem eq_append_slash (ends : path.toList.getLast? = some '/') :
    ∃ before, path = before ++ "/" := by
  rcases getLast?_eq_some_iff.mp ends with ⟨chars, charsEq⟩
  refine ⟨String.ofList chars, ?_⟩
  apply String.toList_injective
  simp [charsEq]

/-- A name after a path is one more component; a slash at the end of the path is taken up. -/
theorem components_join (nonempty : path ≠ "") (valid : ValidName name) :
    components (join path name) = components path ++ [name] ∨
      ∃ before, components path = before ++ [""] ∧
        components (join path name) = before ++ [name] := by
  have relative := not_isAbsolute valid.no_slash
  have single := components_name valid.no_slash
  by_cases ends : path.toList.getLast? = some '/'
  · right
    rcases eq_append_slash ends with ⟨before, rfl⟩
    refine ⟨components before, ?_, ?_⟩
    · have whole := components_append_slash before ""
      rwa [String.append_empty] at whole
    · simp only [join, relative, ends]
      simp [components_append_slash, single]
  · left
    simp only [join, relative]
    simp [ends, nonempty, components_append_slash, single]

theorem isAbsolute_join (nonempty : path ≠ "") (relative : isAbsolute name = false) :
    isAbsolute (join path name) = isAbsolute path := by
  have chars : path.toList ≠ [] := by simpa using nonempty
  have first (rest : String) : isAbsolute (path ++ rest) = isAbsolute path := by
    simp [isAbsolute, head?_append_of_ne_nil _ chars]
  unfold join
  rw [relative]
  split
  · contradiction
  · split
    · exact first name
    · rw [String.append_assoc, first]

theorem join_ne_empty (nonempty : path ≠ "") : join path name ≠ "" := by
  intro empty
  unfold join at empty
  split at empty
  · rename_i absolute
    subst empty
    simp [isAbsolute] at absolute
  · split at empty <;> simp_all

theorem resolveStep_name (absolute : Bool) (found : List String) (valid : ValidName name) :
    resolveStep absolute found name = name :: found := by
  simp [resolveStep, valid.ne_empty, valid.ne_dot, valid.ne_dots]

variable (current : List String)

theorem startOf_join (nonempty : path ≠ "") (valid : ValidName name) :
    startOf current (join path name) = startOf current path := by
  rw [startOf, isAbsolute_join nonempty (not_isAbsolute valid.no_slash), startOf]

theorem located_join (nonempty : path ≠ "") (valid : ValidName name) :
    located current (join path name) = located current path ++ [name] := by
  unfold located
  rw [startOf_join current nonempty valid]
  rcases components_join nonempty valid with joined | ⟨before, pathEq, joined⟩
  · rw [joined, ← append_assoc, foldl_concat, resolveStep_name _ _ valid, reverse_cons]
  · have skipped (found : List String) : resolveStep true found "" = found := rfl
    rw [joined, pathEq, ← append_assoc, foldl_concat, ← append_assoc, foldl_concat, skipped,
      resolveStep_name _ _ valid, reverse_cons]

/-- A path continued by several names. -/
def joinAll (path : String) (names : List String) : String :=
  names.foldl join path

@[simp]
theorem joinAll_nil (path : String) : joinAll path [] = path :=
  rfl

@[simp]
theorem joinAll_cons (path name : String) (names : List String) :
    joinAll path (name :: names) = joinAll (join path name) names :=
  rfl

/-- Names added to a path lead on from where it leads. -/
theorem located_joinAll (nonempty : path ≠ "") (valid : ∀ name ∈ names, ValidName name) :
    located current (joinAll path names) = located current path ++ names := by
  induction names generalizing path with
  | nil => rw [joinAll_nil, append_nil]
  | cons name rest ih =>
    have nameValid := valid name mem_cons_self
    rw [joinAll_cons, ih (join_ne_empty nonempty) fun other mem =>
      valid other (mem_cons_of_mem name mem), located_join current nonempty nameValid]
    simp

theorem joinAll_ne_empty (nonempty : path ≠ "") (names : List String) :
    joinAll path names ≠ "" := by
  induction names generalizing path with
  | nil => exact nonempty
  | cons name rest ih => exact ih (join_ne_empty nonempty)

theorem dropCommon_append (shared rest : List String) :
    dropCommon shared (shared ++ rest) = ([], rest) := by
  induction shared with
  | nil => cases rest <;> rfl
  | cons part parts ih => simp [dropCommon, ih]

/-- Seen from a folder, a path below it has just the names that were added. -/
theorem relativeTo?_joinAll (nonempty : path ≠ "") (some_name : names ≠ [])
    (valid : ∀ name ∈ names, ValidName name) :
    relativeTo? current (joinAll path names) path = some ("/".intercalate names) := by
  have joined := joinAll_ne_empty nonempty names
  simp [relativeTo?, joined, located_joinAll current nonempty valid, dropCommon_append, some_name]

theorem components_intercalate (some_name : names ≠ [])
    (no_slash : ∀ name ∈ names, '/' ∉ name.toList) :
    components ("/".intercalate names) = names := by
  have noSlash : ∀ chars ∈ names.map String.toList, '/' ∉ chars := by
    intro chars charsMem
    rcases mem_map.mp charsMem with ⟨name, nameMem, rfl⟩
    exact no_slash name nameMem
  have split := splitOn_intercalate '/' noSlash (by simpa using some_name)
  have slash : "/".toList = ['/'] := rfl
  rw [components, Text.splitAt_eq_splitOn, String.toList_intercalate, slash, split, map_map]
  simp

end Path

/-! ## Looking up the names of a well-formed tree -/

theorem Directory.find?_of_mem (distinct : (entries.map Prod.fst).Nodup)
    (mem : (name, node) ∈ entries) : entries.find? name = some node := by
  induction entries with
  | nil => simp at mem
  | cons entry rest ih =>
    rcases entry with ⟨key, other⟩
    simp only [map_cons, nodup_cons] at distinct
    rcases mem_cons.mp mem with here | later
    · cases here
      simp [Directory.find?]
    · have keyNe : key ≠ name := by
        rintro rfl
        exact distinct.1 (mem_map_of_mem later)
      simpa [Directory.find?, keyNe] using ih distinct.2 later

variable {here : Directory}

/-- A way to a directory passes through directories only: after a part of it, one of them is the
place from which everything else is followed. -/
theorem follow_append {more : List String}
    (reached : follow here above (parts ++ more) = .found (.directory entries)) :
    ∃ middle outside, follow middle outside more = .found (.directory entries) ∧
      ∀ rest, follow here above (parts ++ rest) = follow middle outside rest := by
  induction parts generalizing here above with
  | nil => exact ⟨here, above, reached, fun _ => rfl⟩
  | cons part others ih =>
    simp only [cons_append] at reached ⊢
    unfold follow at reached
    split at reached
    · rename_i stays
      simpa only [follow, stays, if_true] using ih reached
    · rename_i moves
      split at reached
      · rename_i up
        cases above <;>
          simpa only [follow, moves, up, Bool.false_eq_true, if_false, if_true] using ih reached
      · rename_i down
        cases step : here.find? part with
        | none => simp [step] at reached
        | some next =>
          cases next with
          | directory inner =>
            simp only [step] at reached
            simpa only [follow, moves, down, Bool.false_eq_true, if_false, step]
              using ih reached
          | file bytes =>
            simp only [step] at reached
            split at reached <;> simp at reached

theorem follow_append_name (reached : follow here above parts = .found (.directory entries))
    (valid : ValidName name) (found : entries.find? name = some node) :
    follow here above (parts ++ [name]) = .found node := by
  rw [← append_nil parts] at reached
  rcases follow_append reached with ⟨middle, outside, arrived, onward⟩
  simp only [follow, Lookup.found.injEq, Node.directory.injEq] at arrived
  subst arrived
  rw [onward]
  cases node <;> simp [follow, valid.ne_empty, valid.ne_dot, valid.ne_dots, found]

theorem follow_of_append_stays {part : String} (stays : part = "" ∨ part = ".")
    (reached : follow here above (parts ++ [part]) = .found (.directory entries)) :
    follow here above parts = .found (.directory entries) := by
  rcases follow_append reached with ⟨middle, outside, arrived, onward⟩
  have whole := onward []
  rw [append_nil] at whole
  rw [whole]
  rcases stays with rfl | rfl
  · simpa [follow] using arrived
  · simpa [follow] using arrived

theorem ne_empty_of_lookup (reached : lookup disk path = .found node) : path ≠ "" := by
  rintro rfl
  simp [lookup] at reached

theorem lookup_of_ne_empty (nonempty : path ≠ "") :
    lookup disk path =
      follow disk.root [] (Path.startOf disk.current path ++ Path.components path) :=
  if_neg (by simpa using nonempty)

theorem lookup_join (reached : lookup disk path = .found (.directory entries))
    (valid : ValidName name) (found : entries.find? name = some node) :
    lookup disk (Path.join path name) = .found node := by
  have nonempty := ne_empty_of_lookup reached
  rw [lookup_of_ne_empty nonempty] at reached
  rw [lookup_of_ne_empty (Path.join_ne_empty nonempty),
    Path.startOf_join disk.current nonempty valid]
  rcases Path.components_join nonempty valid with joined | ⟨before, pathEq, joined⟩
  · rw [joined, ← append_assoc]
    exact follow_append_name reached valid found
  · rw [pathEq, ← append_assoc] at reached
    rw [joined, ← append_assoc]
    exact follow_append_name (follow_of_append_stays (.inl rfl) reached) valid found

/-! ## The names on the way to each source -/

mutual

/-- The names on the way to each source below a node. -/
def sourceNamesOf : Node → List (List String)
  | .file _ => []
  | .directory entries =>
    ((fileNames entries).filter (Path.hasSuffix ".py")).map (fun name => [name]) ++
      sourceNamesBelow entries

def sourceNamesBelow : List (String × Node) → List (List String)
  | [] => []
  | (name, node) :: rest =>
    (if skippedDirectories.contains name then [] else (sourceNamesOf node).map (name :: ·)) ++
      sourceNamesBelow rest

end

theorem mem_fileNames : name ∈ fileNames entries ↔ ∃ bytes, (name, Node.file bytes) ∈ entries := by
  unfold fileNames
  rw [mem_filterMap]
  constructor
  · rintro ⟨⟨key, node⟩, entryMem, nameEq⟩
    cases node with
    | directory inner => simp at nameEq
    | file bytes =>
      simp only [Option.some.injEq] at nameEq
      exact ⟨bytes, nameEq ▸ entryMem⟩
  · rintro ⟨bytes, entryMem⟩
    exact ⟨(name, .file bytes), entryMem, rfl⟩

theorem mem_sourceNamesBelow {entries : List (String × Node)} :
    names ∈ sourceNamesBelow entries ↔ ∃ name node more, (name, node) ∈ entries ∧
      name ∉ skippedDirectories ∧ more ∈ sourceNamesOf node ∧ names = name :: more := by
  induction entries with
  | nil => simp [sourceNamesBelow]
  | cons entry rest ih =>
    rcases entry with ⟨key, inner⟩
    rw [sourceNamesBelow, mem_append, ih]
    constructor
    · rintro (here | ⟨name, node, more, entryMem, found⟩)
      · split at here
        · simp at here
        · rename_i kept
          rcases mem_map.mp here with ⟨more, moreMem, rfl⟩
          exact ⟨key, inner, more, mem_cons_self, by simpa using kept, moreMem, rfl⟩
      · exact ⟨name, node, more, mem_cons_of_mem _ entryMem, found⟩
    · rintro ⟨name, node, more, entryMem, kept, moreMem, rfl⟩
      rcases mem_cons.mp entryMem with here | later
      · cases here
        left
        rw [if_neg (by simpa using kept)]
        exact mem_map_of_mem moreMem
      · exact .inr ⟨name, node, more, later, kept, moreMem, rfl⟩

/-- A source of a tree and the names that lead to it: a file with the name of a source, below
directories that are not skipped. -/
inductive Node.HasSource : Node → List String → Prop
  | own {entries : List (String × Node)} {name : String} {bytes : List UInt8}
      (entryMem : (name, Node.file bytes) ∈ entries) (isSource : Path.hasSuffix ".py" name = true) :
      (Node.directory entries).HasSource [name]
  | further {entries : List (String × Node)} {name : String} {node : Node} {names : List String}
      (entryMem : (name, node) ∈ entries) (kept : name ∉ skippedDirectories)
      (source : node.HasSource names) : (Node.directory entries).HasSource (name :: names)

theorem mem_sourceNamesOf : names ∈ sourceNamesOf node ↔ node.HasSource names := by
  constructor
  · intro mem
    induction names generalizing node with
    | nil =>
      cases node with
      | file bytes => simp [sourceNamesOf] at mem
      | directory entries => simp [sourceNamesOf, mem_sourceNamesBelow] at mem
    | cons first others ih =>
      cases node with
      | file bytes => simp [sourceNamesOf] at mem
      | directory entries =>
        rw [sourceNamesOf, mem_append] at mem
        rcases mem with own | below
        · rcases mem_map.mp own with ⟨name, nameMem, namesEq⟩
          cases namesEq
          rcases mem_filter.mp nameMem with ⟨isFile, isSource⟩
          rcases mem_fileNames.mp isFile with ⟨bytes, entryMem⟩
          exact .own entryMem isSource
        · rcases mem_sourceNamesBelow.mp below with
            ⟨name, inner, more, entryMem, kept, moreMem, namesEq⟩
          cases namesEq
          exact .further entryMem kept (ih moreMem)
  · intro source
    induction source with
    | own entryMem isSource =>
      rw [sourceNamesOf, mem_append]
      left
      exact mem_map_of_mem
        (mem_filter.mpr ⟨mem_fileNames.mpr ⟨_, entryMem⟩, isSource⟩)
    | further entryMem kept _ ih =>
      rw [sourceNamesOf, mem_append]
      exact .inr (mem_sourceNamesBelow.mpr ⟨_, _, _, entryMem, kept, ih, rfl⟩)

theorem Node.HasSource.ne_nil (source : node.HasSource names) : names ≠ [] := by
  cases source <;> simp

theorem Node.WellFormed.valid_of_hasSource (wellFormed : node.WellFormed)
    (source : node.HasSource names) : ∀ name ∈ names, ValidName name := by
  induction source with
  | own entryMem _ =>
    rcases wellFormed with _ | ⟨_, valid, _⟩
    simpa using valid _ entryMem
  | further entryMem _ _ ih =>
    rcases wellFormed with _ | ⟨_, valid, below⟩
    intro other otherMem
    rcases mem_cons.mp otherMem with rfl | otherMem
    · exact valid _ entryMem
    · exact ih (below _ entryMem) other otherMem

theorem Node.WellFormed.lookup_source (wellFormed : node.WellFormed)
    (reached : lookup disk path = .found node) (source : node.HasSource names) :
    ∃ bytes, lookup disk (Path.joinAll path names) = .found (.file bytes) := by
  induction source generalizing path with
  | own entryMem _ =>
    rcases wellFormed with _ | ⟨distinct, valid, _⟩
    exact ⟨_, lookup_join reached (valid _ entryMem) (Directory.find?_of_mem distinct entryMem)⟩
  | further entryMem _ _ ih =>
    rcases wellFormed with _ | ⟨distinct, valid, below⟩
    exact ih (below _ entryMem)
      (lookup_join reached (valid _ entryMem) (Directory.find?_of_mem distinct entryMem))

theorem fileNames_sublist (entries : Directory) :
    (fileNames entries).Sublist (entries.map Prod.fst) := by
  induction entries with
  | nil => simp [fileNames]
  | cons entry rest ih =>
    rcases entry with ⟨name, node⟩
    cases node with
    | file bytes => exact ih.cons_cons name
    | directory inner => exact ih.cons name

mutual

theorem Node.WellFormed.nodup_sourceNamesOf : ∀ {node : Node}, node.WellFormed →
    (sourceNamesOf node).Nodup
  | .file _, _ => nodup_nil
  | .directory entries, .directory distinct _ below => by
      have own :
          (((fileNames entries).filter (Path.hasSuffix ".py")).map fun name => [name]).Nodup :=
        ((distinct.sublist (fileNames_sublist entries)).filter _).map fun _ _ => singleton_inj.mp
      rw [sourceNamesOf]
      refine own.append (nodup_sourceNamesBelow distinct below) ?_
      -- The names of a source further down are at least two.
      intro names ownMem belowMem
      rcases mem_map.mp ownMem with ⟨name, _, rfl⟩
      rcases mem_sourceNamesBelow.mp belowMem with
        ⟨key, node, more, entryMem, _, moreMem, namesEq⟩
      simp only [List.cons.injEq] at namesEq
      exact (mem_sourceNamesOf.mp moreMem).ne_nil namesEq.2.symm

theorem nodup_sourceNamesBelow : ∀ {entries : List (String × Node)},
    (entries.map Prod.fst).Nodup → (∀ entry ∈ entries, entry.2.WellFormed) →
    (sourceNamesBelow entries).Nodup
  | [], _, _ => nodup_nil
  | (name, node) :: rest, distinct, below => by
      simp only [map_cons, nodup_cons] at distinct
      have first := (below _ mem_cons_self).nodup_sourceNamesOf
      have others := nodup_sourceNamesBelow distinct.2 fun entry entryMem =>
        below entry (mem_cons_of_mem _ entryMem)
      rw [sourceNamesBelow]
      split
      · exact others
      · refine (first.map (cons_injective)).append others ?_
        intro names firstMem othersMem
        rcases mem_map.mp firstMem with ⟨more, _, rfl⟩
        rcases mem_sourceNamesBelow.mp othersMem with ⟨key, other, _, entryMem, _, _, namesEq⟩
        simp only [List.cons.injEq] at namesEq
        apply distinct.1
        rw [namesEq.1]
        exact mem_map_of_mem entryMem

end

theorem follow_wellFormed {here : Directory} (hereWellFormed : here.WellFormed)
    (aboveWellFormed : ∀ outer ∈ above, outer.WellFormed)
    (reached : follow here above parts = .found node) : node.WellFormed := by
  induction parts generalizing here above with
  | nil =>
    simp only [follow, Lookup.found.injEq] at reached
    exact reached ▸ hereWellFormed
  | cons part rest ih =>
    unfold follow at reached
    split at reached
    · exact ih hereWellFormed aboveWellFormed reached
    · split at reached
      · cases above with
        | nil => exact ih hereWellFormed aboveWellFormed reached
        | cons outer more =>
          exact ih (aboveWellFormed outer mem_cons_self)
            (fun other otherMem => aboveWellFormed other (mem_cons_of_mem _ otherMem))
            reached
      · cases step : here.find? part with
        | none => simp [step] at reached
        | some next =>
          have nextWellFormed := hereWellFormed.find? step
          cases next with
          | directory inner =>
            simp only [step] at reached
            refine ih nextWellFormed ?_ reached
            intro outer outerMem
            rcases mem_cons.mp outerMem with rfl | outerMem
            · exact hereWellFormed
            · exact aboveWellFormed outer outerMem
          | file bytes =>
            simp only [step] at reached
            split at reached
            · cases reached
              exact nextWellFormed
            · simp at reached

theorem wellFormed_of_lookup (reached : lookup disk path = .found node) : node.WellFormed := by
  rw [lookup_of_ne_empty (ne_empty_of_lookup reached)] at reached
  exact follow_wellFormed disk.wellFormed (by simp) reached

/-! ## Walks -/

theorem forM_if_eq_forM_filter {m : Type → Type} [Monad m] [LawfulMonad m] {α : Type}
    (chosen : α → Bool) (each : α → m Unit) (items : List α) :
    (items.forM fun item => if chosen item then each item else pure ()) =
      (items.filter chosen).forM each := by
  induction items with
  | nil => rfl
  | cons item rest ih =>
    by_cases isChosen : chosen item
    · simp_all [List.forM_cons]
    · simp_all [List.forM_cons]

section Walks

variable {m : Type → Type} [Monad m] [LawfulMonad m] {each : String → m Unit}
  {visit : String → List String → List String → m (List String)}

/-- At every directory a walk does something for each source in it, in order, and goes on to the
directories that are not skipped. -/
def VisitsSources (visit : String → List String → List String → m (List String))
    (each : String → m Unit) : Prop :=
  ∀ path directories names, visit path directories names = do
    (names.filter (Path.hasSuffix ".py")).forM fun name => each (Path.join path name)
    return directories.filter fun name => !skippedDirectories.contains name

mutual

/-- Such a walk does what it does for the sources of the tree, one after the other. -/
theorem walkNode_eq_forM (visits : VisitsSources visit each) (path : String) : ∀ node : Node,
    walkNode visit path node = ((sourceNamesOf node).map (Path.joinAll path)).forM each
  | .file _ => rfl
  | .directory entries => by
      have kept : ∀ name inner, (name, Node.directory inner) ∈ entries →
          ((directoryNames entries).filter fun name => !skippedDirectories.contains name).contains
            name = !skippedDirectories.contains name := by
        intro name inner entryMem
        have isDirectory : name ∈ directoryNames entries :=
          mem_filterMap.mpr ⟨_, entryMem, rfl⟩
        by_cases skipped : name ∈ skippedDirectories <;> simp [isDirectory, skipped]
      rw [walkNode, visits, sourceNamesOf]
      simp only [bind_assoc, pure_bind, walkEntries_eq_forM visits path entries kept, map_append,
        map_map, List.forM_eq_forM, List.forM_append, List.forM_map]
      rfl

theorem walkEntries_eq_forM (visits : VisitsSources visit each) (path : String)
    {kept : List String} : ∀ entries : List (String × Node),
    (∀ name inner, (name, Node.directory inner) ∈ entries →
      kept.contains name = !skippedDirectories.contains name) →
    walkEntries visit path kept entries =
      ((sourceNamesBelow entries).map (Path.joinAll path)).forM each
  | [], _ => rfl
  | (name, node) :: rest, keeps => by
      have first : (if kept.contains name then walkNode visit (Path.join path name) node
          else pure ()) = ((if skippedDirectories.contains name then []
            else (sourceNamesOf node).map (name :: ·)).map (Path.joinAll path)).forM each := by
        have below := walkNode_eq_forM visits (Path.join path name) node
        cases node with
        | file bytes => simp [walkNode, sourceNamesOf]
        | directory inner =>
          rw [keeps name inner mem_cons_self, below]
          cases skippedDirectories.contains name
          · simp [Function.comp_def]
          · rfl
      have others := walkEntries_eq_forM visits path rest fun other inner entryMem =>
        keeps other inner (mem_cons_of_mem _ entryMem)
      rw [sourceNamesBelow, map_append, List.forM_eq_forM, List.forM_append, ← List.forM_eq_forM,
        ← first, ← others, walkEntries]
      split <;> simp

end

/-- The sources below a folder in the order in which a walk meets them. -/
def walkSources (disk : Disk) (folder : String) : List String :=
  match lookup disk folder with
  | .found node => (sourceNamesOf node).map (Path.joinAll folder)
  | _ => []

theorem walk_eq_forM (visits : VisitsSources visit each) (disk : Disk) (folder : String) :
    walk disk folder visit = (walkSources disk folder).forM each := by
  unfold walk walkSources
  cases lookup disk folder with
  | found node => exact walkNode_eq_forM visits folder node
  | missing => rfl
  | blocked => rfl

end Walks

theorem visitsSources_noteSources :
    VisitsSources noteSources fun path => modify (· ++ [path]) := by
  intro path directories names
  rw [noteSources, ← forM_if_eq_forM_filter]

/-! ## What a walk lists -/

/-- The sources that are found are those of the walk, in the order of their paths. -/
theorem findSources_eq (disk : Disk) (folder : String) :
    findSources disk folder =
      (walkSources disk folder).mergeSort fun first second => decide (first ≤ second) := by
  have noted (paths found : List String) :
      StateT.run (m := Id) (paths.forM fun path => modify (· ++ [path])) found =
        ((), found ++ paths) := by
    induction paths generalizing found with
    | nil => rw [append_nil]; rfl
    | cons path rest ih => simpa [List.forM_eq_forM] using ih (found ++ [path])
  rw [findSources, walk_eq_forM visitsSources_noteSources]
  rw [noted]
  rfl

theorem findSources_perm (disk : Disk) (folder : String) :
    (findSources disk folder).Perm (walkSources disk folder) := by
  rw [findSources_eq]
  exact mergeSort_perm _ _

/-- The sources below a folder are those of the tree that stands at its path, if one does. -/
theorem mem_walkSources {folder : String} :
    path ∈ walkSources disk folder ↔ ∃ node names, lookup disk folder = .found node ∧
      node.HasSource names ∧ path = Path.joinAll folder names := by
  unfold walkSources
  cases reached : lookup disk folder with
  | found node =>
    simp only [mem_map, mem_sourceNamesOf, Lookup.found.injEq]
    constructor
    · rintro ⟨names, source, rfl⟩
      exact ⟨node, names, rfl, source, rfl⟩
    · rintro ⟨_, names, rfl, source, rfl⟩
      exact ⟨names, source, rfl⟩
  | missing => simp
  | blocked => simp

theorem exists_readSource {folder : String} (mem : path ∈ walkSources disk folder) :
    ∃ code, readSource disk path = .ok code := by
  rcases mem_walkSources.mp mem with ⟨node, names, reached, source, rfl⟩
  rcases (wellFormed_of_lookup reached).lookup_source reached source with ⟨bytes, found⟩
  exact ⟨sourceText bytes, by simp [readSource, readBytes, found, Except.map]⟩

/-- No two sources of a folder have the same relative name. -/
theorem nodup_nameIn (disk : Disk) (folder : String) :
    ((findSources disk folder).map (nameIn disk folder)).Nodup := by
  refine ((findSources_perm disk folder).map _).nodup_iff.mpr ?_
  unfold walkSources
  split
  · rename_i node reached
    have nodeWellFormed := wellFormed_of_lookup reached
    have nonempty := ne_empty_of_lookup reached
    rw [map_map]
    refine Nodup.map_on ?_ nodeWellFormed.nodup_sourceNamesOf
    intro left leftMem right rightMem sameName
    rw [mem_sourceNamesOf] at leftMem rightMem
    have leftSome := leftMem.ne_nil
    have leftValid := nodeWellFormed.valid_of_hasSource leftMem
    have rightSome := rightMem.ne_nil
    have rightValid := nodeWellFormed.valid_of_hasSource rightMem
    simp only [Function.comp_apply, nameIn,
      Path.relativeTo?_joinAll disk.current nonempty leftSome leftValid,
      Path.relativeTo?_joinAll disk.current nonempty rightSome rightValid,
      Option.getD_some] at sameName
    have parts := congrArg Path.components sameName
    rwa [Path.components_intercalate leftSome fun name mem => (leftValid name mem).no_slash,
      Path.components_intercalate rightSome fun name mem => (rightValid name mem).no_slash] at parts
  · exact nodup_nil

end ErpLens.Files
