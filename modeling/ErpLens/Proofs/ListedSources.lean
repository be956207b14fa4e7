import ErpLens.Proofs.FileTrees
import ErpLens.Proofs.FileWrites
import Mathlib

/-!
# The sources that are found below a folder

A directory that is skipped cuts off all that is below it, wherever it stands, and nothing else
does.
-/

namespace ErpLens.Files

/-- A source of a tree is a file that directories lead down to, none of which is skipped. -/
theorem Node.WellFormed.hasSource_iff {entries : Directory} {names : List String}
    (wellFormed : (Node.directory entries).WellFormed) :
    (Node.directory entries).HasSource names ↔ ∃ directories inner name bytes,
      entries.below? directories = some inner ∧ inner.find? name = some (.file bytes) ∧
        Path.hasSuffix ".py" name = true ∧ (∀ passed ∈ directories, passed ∉ skippedDirectories) ∧
        names = directories ++ [name] := by
  induction names generalizing entries with
  | nil =>
    constructor
    · intro source
      exact absurd rfl source.ne_nil
    · rintro ⟨directories, inner, name, bytes, -, -, -, -, namesEq⟩
      simp at namesEq
  | cons first others ih =>
    cases wellFormed with
    | directory distinct valid below =>
      constructor
      · rintro (⟨entryMem, isSource⟩ | ⟨entryMem, kept, source⟩)
        · exact ⟨[], entries, first, _, rfl, Directory.find?_of_mem distinct entryMem, isSource,
            by simp, rfl⟩
        · rename_i node
          have found := Directory.find?_of_mem distinct entryMem
          cases node with
          | file bytes => cases source
          | directory further =>
            rcases (ih (below _ entryMem)).mp source with
              ⟨directories, inner, name, bytes, reached, isFile, isSource, keptAll, rfl⟩
            refine ⟨first :: directories, inner, name, bytes, ?_, isFile, isSource, ?_, rfl⟩
            · rw [Directory.below?, found]
              exact reached
            · exact List.forall_mem_cons.mpr ⟨kept, keptAll⟩
      · rintro ⟨directories, inner, name, bytes, reached, isFile, isSource, keptAll, namesEq⟩
        cases directories with
        | nil =>
          cases reached
          cases namesEq
          exact .own (Directory.mem_of_find? isFile) isSource
        | cons passed more =>
          cases namesEq
          rw [Directory.below?] at reached
          split at reached
          · rename_i further found
            rw [List.forall_mem_cons] at keptAll
            have entryMem := Directory.mem_of_find? found
            exact .further entryMem keptAll.1 ((ih (below _ entryMem)).mpr
              ⟨more, inner, name, bytes, reached, isFile, isSource, keptAll.2, rfl⟩)
          · cases reached

theorem sorted_findSources (disk : Disk) (folder : String) :
    (findSources disk folder).Pairwise (· ≤ ·) := by
  have sorted := @List.pairwise_mergeSort String (fun a b => decide (a ≤ b))
    (fun a b c => by simpa using String.le_trans) (fun a b => by simpa using String.le_total a b)
    (walkSources disk folder)
  simpa only [findSources_eq, decide_eq_true_eq] using sorted

theorem joinAll_mem_findSources {disk : Disk} {folder : String} {node : Node}
    (reached : lookup disk folder = .found node) {names : List String}
    (valid : ∀ name ∈ names, ValidName name) :
    Path.joinAll folder names ∈ findSources disk folder ↔ node.HasSource names := by
  have nonempty := ne_empty_of_lookup reached
  rw [(findSources_perm disk folder).mem_iff, mem_walkSources]
  constructor
  · rintro ⟨other, otherNames, otherReached, source, sameJoined⟩
    cases reached.symm.trans otherReached
    have otherValid := (wellFormed_of_lookup reached).valid_of_hasSource source
    have samePlace := congrArg (Path.located disk.current) sameJoined
    rw [Path.located_joinAll disk.current nonempty valid,
      Path.located_joinAll disk.current nonempty otherValid] at samePlace
    rwa [List.append_cancel_left samePlace]
  · intro source
    exact ⟨node, names, reached, source, rfl⟩

/--
The sources below a folder are found in order of path and each once, wherever the folder is and
however its path is written: relative, absolute or by way of the directories above. They are exactly
the files with a name that ends in `.py` which directories below the folder lead down to, none of
them with one of five names; directories are not among them, whatever their names. The same
directory at another path, on this disk or on another one, has the same sources below it.
-/
theorem findSources_lists_sources (disk : Disk) (folder : String) :
    (findSources disk folder).Pairwise (· < ·) ∧
    (∀ path, path ∈ findSources disk folder ↔ ∃ (entries inner : Directory)
        (directories : List String) (name : String) (bytes : List UInt8),
      lookup disk folder = .found (.directory entries) ∧
      entries.below? directories = some inner ∧ inner.find? name = some (.file bytes) ∧
      ".py".toList <:+ name.toList ∧
      (∀ passed ∈ directories,
        passed ∉ ["venv", "__pycache__", ".git", "node_modules", ".pytest_cache"]) ∧
      path = Path.joinAll folder (directories ++ [name])) ∧
    (∀ path ∈ findSources disk folder, ∃ bytes, lookup disk path = .found (.file bytes)) ∧
    ∀ (otherDisk : Disk) (otherFolder : String),
      lookup otherDisk otherFolder = lookup disk folder →
      ∀ names : List String, (∀ name ∈ names, ValidName name) →
        (Path.joinAll otherFolder names ∈ findSources otherDisk otherFolder ↔
          Path.joinAll folder names ∈ findSources disk folder) := by
  have perm := findSources_perm disk folder
  refine ⟨?_, ?_, ?_, ?_⟩
  · have distinct : (findSources disk folder).Nodup := (nodup_nameIn disk folder).of_map _
    refine ((sorted_findSources disk folder).and distinct).imp ?_
    rintro left right ⟨atMost, different⟩
    exact lt_of_le_of_ne atMost different
  · intro path
    rw [perm.mem_iff, mem_walkSources]
    constructor
    · rintro ⟨node, names, reached, source, rfl⟩
      cases node with
      | file bytes => cases source
      | directory entries =>
        rcases (wellFormed_of_lookup reached).hasSource_iff.mp source with
          ⟨directories, inner, name, bytes, led, isFile, isSource, kept, rfl⟩
        exact ⟨entries, inner, directories, name, bytes, reached, led, isFile,
          List.isSuffixOf_iff_suffix.mp isSource, kept, rfl⟩
    · rintro ⟨entries, inner, directories, name, bytes, reached, led, isFile, ends, kept, rfl⟩
      refine ⟨.directory entries, _, reached, ?_, rfl⟩
      exact (wellFormed_of_lookup reached).hasSource_iff.mpr ⟨directories, inner, name, bytes, led,
        isFile, List.isSuffixOf_iff_suffix.mpr ends, kept, rfl⟩
  · intro path pathMem
    rcases mem_walkSources.mp (perm.mem_iff.mp pathMem) with ⟨node, names, reached, source, rfl⟩
    exact (wellFormed_of_lookup reached).lookup_source reached source
  · intro otherDisk otherFolder sameLookup names valid
    cases reached : lookup disk folder with
    | found node =>
      rw [joinAll_mem_findSources (sameLookup.trans reached) valid,
        joinAll_mem_findSources reached valid]
    | missing | blocked =>
      simp [(findSources_perm _ _).mem_iff, mem_walkSources, sameLookup, reached]

/-- A folder with the name of a directory that is skipped. In it are a directory with the name of a
source, which holds a source, and one that is skipped. The program runs beside it. -/
def namedDirectories : Disk where
  root := [("lib", .directory []), ("venv", .directory
    [("a.py", .directory [("b.py", .file [])]), ("c.txt", .file []),
      ("node_modules", .directory [("d.py", .file [])])])]
  current := ["lib"]
  wellFormed := by decide +kernel
  valid := by decide
  standing := ⟨[], rfl⟩

theorem findSources_lists_sources_of_namedDirectories :
    (∀ folder ∈ ["/venv", "../venv"],
      Path.joinAll folder ["a.py", "b.py"] ∈ findSources namedDirectories folder ∧
      findSources namedDirectories folder = [folder ++ "/a.py/b.py"]) ∧
    ∀ path ∈ findSources namedDirectories "/venv",
      ∃ bytes, lookup namedDirectories path = .found (.file bytes) := by
  have walked : ∀ folder ∈ ["/venv", "../venv"],
      walkSources namedDirectories folder = [folder ++ "/a.py/b.py"] := by decide +kernel
  refine ⟨fun folder folderMem => ⟨?_, ?_⟩,
    (findSources_lists_sources namedDirectories "/venv").2.2.1⟩
  · have exactly := (findSources_lists_sources namedDirectories folder).2.1
    rcases List.mem_pair.mp folderMem with rfl | rfl <;>
      exact (exactly _).mpr
        ⟨_, _, ["a.py"], "b.py", [], rfl, rfl, rfl, by decide, by decide, rfl⟩
  · rw [findSources_eq, walked folder folderMem]
    exact List.mergeSort_singleton _

end ErpLens.Files
