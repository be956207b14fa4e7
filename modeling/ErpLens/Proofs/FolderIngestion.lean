import ErpLens.Proofs.Fields
import ErpLens.Proofs.FileTrees
import ErpLens.Proofs.ProgramRuns
import ErpLens.Retrieval.Store
import Mathlib

/-!
# What storing a folder asks for

Storing a folder walks it by itself, with its own list of directories to pass over, and yet it meets
the sources that an analysis goes over: each once, in the order of the walk.
-/

open List

namespace ErpLens.Files.Path

theorem parent_ne_empty {path : String} (slash : '/' ∈ path.toList) : parent path ≠ "" := by
  dsimp only [parent]
  split
  · intro empty
    rw [String.ofList_eq_empty_iff, reverse_eq_nil_iff, dropWhile_eq_nil_iff] at empty
    simpa using empty '/' (mem_reverse.mpr slash)
  · rename_i notAll
    intro empty
    rw [String.ofList_eq_empty_iff, reverse_eq_nil_iff, dropWhile_eq_nil_iff] at empty
    exact notAll (all_eq_true.mpr fun c mem => empty c (mem_reverse.mpr mem))

theorem slash_mem_join {path name : String} (nonempty : path ≠ "") (valid : ValidName name) :
    '/' ∈ (join path name).toList := by
  rw [join, if_neg (by simp [not_isAbsolute valid.no_slash])]
  split
  · rename_i ends
    have slash : path.toList.getLast? = some '/' := by simpa [nonempty] using ends
    rw [String.toList_append]
    exact mem_append_left _ (mem_of_getLast? slash)
  · simp

theorem slash_mem_joinAll {path : String} {names : List String} (nonempty : path ≠ "")
    (some_name : names ≠ []) (valid : ∀ name ∈ names, ValidName name) :
    '/' ∈ (joinAll path names).toList := by
  rcases eq_nil_or_concat names with rfl | ⟨before, last, rfl⟩
  · exact absurd rfl some_name
  · rw [concat_eq_append] at valid ⊢
    rw [joinAll, foldl_concat]
    exact slash_mem_join (joinAll_ne_empty nonempty before) (valid last (by simp))

end ErpLens.Files.Path

namespace ErpLens.Retrieval

open Files Program Report

/-! ## One file -/

theorem storedFolder_eq_ok (current : List String) {path : String} (slash : '/' ∈ path.toList) :
    ∃ folder, storedFolder current path = .ok folder := by
  have nonempty := Path.parent_ne_empty slash
  simp [storedFolder, Path.relativeTo?, nonempty]

theorem chunks_default_eq_ok (code : String) :
    ∃ found, chunks code defaultSize defaultOverlap = .ok found :=
  ⟨_, rfl⟩

/-- A chunk as it is stored. -/
def storedChunk (path folder : String) (index : Nat) (chunk : Chunk) : StoredChunk where
  id := chunkId path index (Value.int chunk.startLine).text
  document := .str chunk.text
  metadata := [("file", .str (storedFile path)), ("folder", .str folder),
    ("start_line", .int chunk.startLine), ("end_line", .int chunk.endLine),
    ("chunk_index", .nat index)]

/-- What storing a file asks for: it is cut into chunks, and each chunk is put to the store under
the names of the file and of its folder. -/
structure StoredAs (disk : Disk) (path : String) (found : List Chunk)
    (requests : List Request) : Prop where
  chunks : ∃ code, Files.readSource disk path = .ok code ∧
    Retrieval.chunks code defaultSize defaultOverlap = .ok found
  requests : ∃ folder, storedFolder disk.current path = .ok folder ∧
    requests = found.zipIdx.map fun entry => .store (storedChunk path folder entry.2 entry.1)

variable {store : Store} {collection path folder : String} {workspace : Workspace}

theorem runIn_storeChunk (opened : store.collection = some collection)
    (placed : storedFolder workspace.files.current path = .ok folder) (index : Nat)
    (chunk : Chunk) :
    (storeChunk store path index chunk.toValue).runIn workspace =
      (.ok (), workspace.extended [] [.store (storedChunk path folder index chunk)]) := by
  have start : chunk.toValue.key "start_line" = .ok (.int chunk.startLine) :=
    Value.key_ofFields rfl
  have document : chunk.toValue.key "text" = .ok (.str chunk.text) := Value.key_ofFields rfl
  have stop : chunk.toValue.key "end_line" = .ok (.int chunk.endLine) := Value.key_ofFields rfl
  unfold storeChunk
  rw [start, opened, document, stop, runIn_bind_ok (runIn_lift _ workspace)]
  simp only [Option.isNone_some, Bool.false_eq_true, if_false]
  rw [runIn_bind_ok (runIn_lift _ workspace), runIn_bind_ok (runIn_files workspace), placed,
    runIn_bind_ok (runIn_lift _ workspace), runIn_bind_ok (runIn_lift _ workspace), runIn_ask]
  rfl

theorem runIn_storeChunksFrom (opened : store.collection = some collection)
    (placed : storedFolder workspace.files.current path = .ok folder) (index : Nat)
    (found : List Chunk) :
    (storeChunksFrom store path index (found.map Chunk.toValue)).runIn workspace =
      (.ok (), workspace.extended [] ((found.zipIdx index).map fun entry =>
        .store (storedChunk path folder entry.2 entry.1))) := by
  induction found generalizing index workspace with
  | nil => simp [storeChunksFrom]
  | cons chunk rest ih =>
    rw [map_cons, storeChunksFrom,
      runIn_bind_ok (runIn_storeChunk opened placed index chunk), ih,
      Workspace.extended_extended]
    · rfl
    · exact placed

/-- Adding a file stores its chunks in their order and changes nothing else. -/
theorem StoredAs.runIn_addFile {found : List Chunk} {requests : List Request}
    (opened : store.collection = some collection)
    (stored : StoredAs workspace.files path found requests) :
    (addFile store path).runIn workspace =
      (.ok found.length, workspace.extended [] requests) := by
  obtain ⟨code, readable, cut⟩ := stored.chunks
  obtain ⟨folder, placed, rfl⟩ := stored.requests
  rw [addFile, runIn_bind_ok (runIn_files workspace), readable]
  dsimp only
  rw [cut, runIn_bind_ok (runIn_lift _ workspace), storeChunks,
    runIn_bind_ok (runIn_storeChunksFrom opened placed 0 found), runIn_pure]

theorem exists_storedAs {disk : Disk} {folder path : String}
    (mem : path ∈ walkSources disk folder) :
    ∃ found requests, StoredAs disk path found requests := by
  obtain ⟨code, readable⟩ := exists_readSource mem
  obtain ⟨found, cut⟩ := chunks_default_eq_ok code
  obtain ⟨node, names, reached, source, rfl⟩ := mem_walkSources.mp mem
  have slash := Path.slash_mem_joinAll (ne_empty_of_lookup reached) source.ne_nil
    ((wellFormed_of_lookup reached).valid_of_hasSource source)
  obtain ⟨place, placed⟩ := storedFolder_eq_ok disk.current slash
  exact ⟨found, _, ⟨code, readable, cut⟩, place, placed, rfl⟩

/-! ## All files -/

def storedLine (disk : Disk) (folder path : String) (count : Nat) : String :=
  Color.green.paint s!"✓ {nameIn disk folder path} ({count} chunks)"

/-- What the walk does for one source. -/
def storeSource (store : Store) (folder source : String) : Procedure Ingested Unit := do
  let shown := nameIn (← files) folder source
  let count ← addFile store source
  Procedure.update fun ingested => { ingested with files := ingested.files + 1 }
  Procedure.update fun ingested => { ingested with chunks := ingested.chunks + count }
  say (Color.green.paint s!"✓ {shown} ({count} chunks)")

/-- The walk that stores a folder meets the sources that the walk of an analysis does. -/
theorem visitsSources_storeSources (store : Store) (folder : String) :
    VisitsSources (storeSources store folder) (storeSource store folder) := by
  intro path directories names
  rw [storeSources, ← forM_if_eq_forM_filter]
  rfl

theorem StoredAs.runIn_storeSource {found : List Chunk} {requests : List Request}
    (opened : store.collection = some collection)
    (stored : StoredAs workspace.files path found requests) (folder : String)
    (ingested : Ingested) :
    (storeSource store folder path).runIn ingested workspace =
      ((.ok (), { files := ingested.files + 1, chunks := ingested.chunks + found.length }),
        workspace.extended [storedLine workspace.files folder path found.length] requests) := by
  have added := stored.runIn_addFile opened
  rw [storeSource, Procedure.runIn_bind_ok (Procedure.runIn_lift (runIn_files _) _),
    Procedure.runIn_bind_ok (Procedure.runIn_lift added _),
    Procedure.runIn_bind_ok (Procedure.runIn_update _ _ _),
    Procedure.runIn_bind_ok (Procedure.runIn_update _ _ _),
    Procedure.runIn_lift (runIn_say _ _), Workspace.extended_extended, append_nil]
  rfl

theorem runIn_forM_storeSource {found : String → List Chunk} {asked : String → List Request}
    (opened : store.collection = some collection) (paths : List String) (folder : String)
    (ingested : Ingested) (workspace : Workspace)
    (stored : ∀ path ∈ paths, StoredAs workspace.files path (found path) (asked path)) :
    (paths.forM (storeSource store folder)).runIn ingested workspace =
      ((.ok (), { files := ingested.files + paths.length
                  chunks := ingested.chunks +
                    (paths.map fun path => (found path).length).sum }),
        workspace.extended
          (paths.map fun path => storedLine workspace.files folder path (found path).length)
          (paths.flatMap asked)) := by
  induction paths generalizing ingested workspace with
  | nil => simp [Procedure.runIn_pure, List.forM]
  | cons path rest ih =>
    have first := (stored path (by simp)).runIn_storeSource opened folder ingested
    change (storeSource store folder path >>= fun _ => rest.forM (storeSource store folder)).runIn
      ingested workspace = _
    rw [Procedure.runIn_bind_ok first, ih, Workspace.extended_extended]
    · simp only [Workspace.extended_files, length_cons, map_cons, sum_cons, flatMap_cons,
        Nat.add_assoc, Nat.add_comm 1]
      rfl
    · exact fun other otherMem => stored other (mem_cons_of_mem path otherMem)

/-- Storing a folder goes over exactly the sources below it, each once, in an order that gives the
sources of an analysis when it is sorted: the two walk the folder separately and meet the same
files. It counts the files and the chunks that they are cut into, makes one request to the store for
each chunk, and otherwise only prints a line for each file. The folder may be written in any way:
relative, absolute or by way of the directories above. -/
theorem addFolder_stores_sources (workspace : Workspace) (collection folder : String) :
    ∃ (order : List String) (found : String → List Chunk) (asked : String → List Request),
      order.Perm (findSources workspace.files folder) ∧
      order.mergeSort (fun first second => decide (first ≤ second)) =
        findSources workspace.files folder ∧
      order.Nodup ∧
      (∀ path, path ∈ order ↔ ∃ node names, lookup workspace.files folder = .found node ∧
        node.HasSource names ∧ path = Path.joinAll folder names) ∧
      (∀ path ∈ order, StoredAs workspace.files path (found path) (asked path)) ∧
      (addFolder { collection := some collection } folder).runIn workspace =
        (.ok { files := (findSources workspace.files folder).length
               chunks := ((findSources workspace.files folder).map fun path =>
                 (found path).length).sum },
          workspace.extended
            (order.map fun path => storedLine workspace.files folder path (found path).length)
            (order.flatMap asked)) ∧
      (order.flatMap asked).length =
        ((findSources workspace.files folder).map fun path => (found path).length).sum := by
  have eachStored : ∀ path ∈ walkSources workspace.files folder,
      ∃ found requests, StoredAs workspace.files path found requests :=
    fun path mem => exists_storedAs mem
  choose! found asked stored using eachStored
  have perm := findSources_perm workspace.files folder
  have sum_eq := (perm.map fun path => (found path).length).sum_eq
  refine ⟨walkSources workspace.files folder, found, asked, perm.symm,
    (findSources_eq workspace.files folder).symm, ?_, fun path => mem_walkSources, stored, ?_, ?_⟩
  · exact perm.nodup_iff.mp ((nodup_nameIn workspace.files folder).of_map _)
  · let store : Store := { collection := some collection }
    have opened : store.collection = some collection := rfl
    have stores := runIn_forM_storeSource opened (walkSources workspace.files folder) folder {}
      workspace stored
    rw [← walk_eq_forM (visitsSources_storeSources store folder), Nat.zero_add, Nat.zero_add]
      at stores
    rw [addFolder, runIn_bind_ok (runIn_files workspace), Procedure.runIn_perform stores,
      perm.length_eq, sum_eq]
    rfl
  · rw [sum_eq, List.length_flatMap]
    refine congrArg List.sum (List.map_congr_left fun path mem => ?_)
    obtain ⟨place, -, requestsEq⟩ := (stored path mem).requests
    rw [requestsEq, List.length_map, List.length_zipIdx]

/-- A folder with a source, another file, and two more sources below: one further down, and one in
a directory that is skipped. -/
def nestedEntries : Directory :=
  [("d", .directory
    [("a.py", .file (Text.encodeUtf8 "x = 1\n")), ("notes.txt", .file []),
      ("sub", .directory [("b.py", .file (Text.encodeUtf8 "y = 2\n"))]),
      ("venv", .directory [("c.py", .file [])])])]

/-- Sources at several levels, some of them in directories that are skipped. -/
def nestedFiles : Disk := .of nestedEntries (by decide +kernel)

theorem findSources_nestedFiles :
    findSources nestedFiles "/home/erp/work/d" =
      ["/home/erp/work/d/a.py", "/home/erp/work/d/sub/b.py"] := by
  have walked : walkSources nestedFiles "/home/erp/work/d" =
      ["/home/erp/work/d/a.py", "/home/erp/work/d/sub/b.py"] := by decide +kernel
  rw [findSources_eq, walked]
  exact mergeSort_of_pairwise (by decide)

theorem addFolder_stores_nested_sources :
    ∃ (order : List String) (chunks : Nat) (lines : List String) (requests : List Request),
      order.Perm ["/home/erp/work/d/a.py", "/home/erp/work/d/sub/b.py"] ∧
      (addFolder { collection := some "code" } "/home/erp/work/d").runIn
          { files := nestedFiles, service := { reply := .nothing } } =
        (.ok { files := 2, chunks := chunks },
          Workspace.extended { files := nestedFiles, service := { reply := .nothing } }
            lines requests) ∧
      requests.length = chunks := by
  obtain ⟨order, found, asked, perm, -, -, -, -, ran, counted⟩ := addFolder_stores_sources
    { files := nestedFiles, service := { reply := .nothing } } "code" "/home/erp/work/d"
  simp only [findSources_nestedFiles] at perm ran counted
  exact ⟨order, _, _, _, perm, ran, counted⟩

end ErpLens.Retrieval
