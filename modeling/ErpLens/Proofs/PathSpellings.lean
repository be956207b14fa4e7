import ErpLens.Proofs.FileWrites
import ErpLens.Proofs.FolderIngestion
import ErpLens.Proofs.JsonNumbers
import ErpLens.Proofs.PathForms

/-!
# Spellings of one path

Chunks are stored under the normal form of the path, which all spellings share. Their ids, however,
start with the path as it is written, so two spellings never have an id in common.
-/

open List

namespace ErpLens.Retrieval

open Files Program

/-! ## Folders -/

/-- Two spellings of the path of a file, both with a slash, have the same folder. -/
theorem storedFolder_eq {disk : Disk} {path other : String} {bytes contents : List UInt8}
    (read : readBytes disk path = .ok bytes) (otherRead : readBytes disk other = .ok contents)
    (slash : '/' ∈ path.toList) (otherSlash : '/' ∈ other.toList)
    (same : Path.normalize path = Path.normalize other) :
    storedFolder disk.current path = storedFolder disk.current other := by
  rcases writable_of_readBytes read with ⟨parts, named, -, -⟩
  rcases writable_of_readBytes otherRead with ⟨otherParts, otherNamed, -, -⟩
  have whole : Path.located disk.current path = Path.located disk.current other := by
    rw [← Path.located_normalize, same, Path.located_normalize]
  rw [Path.located_eq_parent_append _ slash parts named,
    Path.located_eq_parent_append _ otherSlash otherParts otherNamed] at whole
  have parents := (append_inj' whole rfl).1
  have parentNe : (Path.parent path).isEmpty = false := by simpa using Path.parent_ne_empty slash
  have otherNe : (Path.parent other).isEmpty = false := by
    simpa using Path.parent_ne_empty otherSlash
  simp only [storedFolder, Path.relativeTo?, parentNe, otherNe, parents]

/-! ## Ids -/

theorem eq_of_append_separator {c : Char} {before other after rest : List Char}
    (free : c ∉ after) (otherFree : c ∉ rest)
    (same : before ++ c :: after = other ++ c :: rest) : before = other ∧ after = rest := by
  rcases append_eq_append_iff.mp same with ⟨more, rfl, tail⟩ | ⟨more, rfl, tail⟩
  · cases more with
    | nil => simpa using tail
    | cons d others =>
      rw [cons_append, List.cons.injEq] at tail
      simp [tail.2] at free
  · cases more with
    | nil => simpa using tail.symm
    | cons d others =>
      rw [cons_append, List.cons.injEq] at tail
      simp [tail.2] at otherFree

theorem underscore_not_mem_toString (value : Int) : '_' ∉ (toString value).toList := by
  have digits : '_' ∉ Nat.toDigits 10 value.natAbs := by
    intro mem
    exact absurd (Json.isDigit_of_mem_digits mem) (by decide)
  rw [Json.toList_toString]
  split
  · simp [digits]
  · exact digits

/-- An id gives away the path, the place of the chunk and its first line: however many separators
the path has, the last two of the id are not among them. -/
theorem chunkId_inj {path other : String} {index place : Nat} {line first : Int}
    (same : chunkId path index (Value.int line).text = chunkId other place (Value.int first).text) :
    path = other ∧ index = place ∧ line = first := by
  have form (path : String) (index : Nat) (line : Int) :
      (chunkId path index (Value.int line).text).toList =
        (path.toList ++ '_' :: (toString (index : Int)).toList) ++
          '_' :: (toString line).toList := by
    have written : (Value.int line).text = toString line := rfl
    have counted : toString (index : Int) = toString index := rfl
    rw [written, counted, chunkId]
    generalize toString index = place
    generalize toString line = first
    simp only [String.toList_append, append_assoc]
    rfl
  have chars := congrArg String.toList same
  rw [form, form] at chars
  -- The line is what follows the last separator, the place what follows the one before it.
  obtain ⟨front, lineEq⟩ := eq_of_append_separator (underscore_not_mem_toString line)
    (underscore_not_mem_toString first) chars
  obtain ⟨pathEq, indexEq⟩ := eq_of_append_separator (underscore_not_mem_toString index)
    (underscore_not_mem_toString place) front
  refine ⟨String.toList_injective pathEq, ?_, ?_⟩
  · exact Int.ofNat_inj.mp (Int.repr_injective (String.toList_injective indexEq))
  · exact Int.repr_injective (String.toList_injective lineEq)

/-- The chunks of a file as they are stored. -/
def storedChunks (path folder : String) (found : List Chunk) : List StoredChunk :=
  found.zipIdx.map fun entry => storedChunk path folder entry.2 entry.1

variable {path other folder : String} {found : List Chunk}

theorem nodup_ids : ((storedChunks path folder found).map StoredChunk.id).Nodup := by
  have places : (found.zipIdx.map Prod.snd).Nodup := by
    rw [zipIdx_map_snd]
    exact nodup_range'
  rw [storedChunks, map_map, List.Nodup, pairwise_map]
  rw [List.Nodup, pairwise_map] at places
  exact places.imp fun different same => different (chunkId_inj same).2.1

theorem disjoint_ids (different : path ≠ other) :
    List.Disjoint ((storedChunks path folder found).map StoredChunk.id)
      ((storedChunks other folder found).map StoredChunk.id) := by
  intro id mem otherMem
  simp only [storedChunks, map_map, mem_map, Function.comp_apply] at mem otherMem
  obtain ⟨entry, -, rfl⟩ := mem
  obtain ⟨twin, -, same⟩ := otherMem
  exact different (chunkId_inj same).1.symm

/-! ## Runs -/

theorem runIn_addFile_of_slash {workspace : Workspace} {collection : String} {bytes : List UInt8}
    (read : readBytes workspace.files path = .ok bytes)
    (cut : chunks (sourceText bytes) defaultSize defaultOverlap = .ok found)
    (placed : storedFolder workspace.files.current path = .ok folder) :
    (addFile { collection := some collection } path).runIn workspace =
      (.ok found.length,
        workspace.extended [] ((storedChunks path folder found).map Request.store)) := by
  refine StoredAs.runIn_addFile rfl ⟨⟨sourceText bytes, ?_, cut⟩, folder, placed, ?_⟩
  · rw [Files.readSource, read]
    rfl
  · rw [storedChunks, map_map]
    rfl

theorem runIn_storeChunks_of_error {store : Store} {collection : String} {fault : Fault}
    {workspace : Workspace} (opened : store.collection = some collection)
    (placed : storedFolder workspace.files.current path = .error fault) (chunk : Chunk)
    (rest : List Chunk) :
    (storeChunks store path ((chunk :: rest).map Chunk.toValue)).runIn workspace =
      (.error fault, workspace) := by
  have start : chunk.toValue.key "start_line" = .ok (.int chunk.startLine) := Value.key_ofFields rfl
  have document : chunk.toValue.key "text" = .ok (.str chunk.text) := Value.key_ofFields rfl
  have first : (storeChunk store path 0 chunk.toValue).runIn workspace =
      (.error fault, workspace) := by
    unfold storeChunk
    rw [start, opened, document, runIn_bind_ok (runIn_lift _ workspace)]
    simp only [Option.isNone_some, Bool.false_eq_true, if_false]
    rw [runIn_bind_ok (runIn_lift _ workspace), runIn_bind_ok (runIn_files workspace), placed,
      runIn_bind, runIn_lift]
  rw [storeChunks, map_cons, storeChunksFrom, runIn_bind, first]

/-- A path without a slash has no folder, so that its first chunk cannot be stored. -/
theorem runIn_addFile_of_bare {workspace : Workspace} {collection : String} {bytes : List UInt8}
    (read : readBytes workspace.files path = .ok bytes)
    (cut : chunks (sourceText bytes) defaultSize defaultOverlap = .ok found)
    (bare : '/' ∉ path.toList) :
    (addFile { collection := some collection } path).runIn workspace =
      (if found.isEmpty then .ok 0 else .error (.badValue "no path specified"), workspace) := by
  have readable : Files.readSource workspace.files path = .ok (sourceText bytes) := by
    rw [Files.readSource, read]
    rfl
  rw [addFile, runIn_bind_ok (runIn_files workspace), readable]
  dsimp only
  rw [cut, runIn_bind_ok (runIn_lift _ workspace)]
  cases found with
  | nil => rfl
  | cons chunk rest =>
    have homeless : storedFolder workspace.files.current path =
        .error (.badValue "no path specified") := by
      simp [storedFolder, Path.relativeTo?, Path.parent_of_no_slash bare]
    rw [runIn_bind, runIn_storeChunks_of_error rfl homeless]
    rfl

/-- A file that is stored under two spellings of its path has the same chunks under both, with the
same documents and the same metadata. Within one spelling no id comes twice, but two spellings have
no id in common, so that the second one adds all chunks again. A spelling without a slash adds
none. -/
theorem addFile_ids_follow_spelling (workspace : Workspace) (collection path other : String)
    (bytes : List UInt8) (read : readBytes workspace.files path = .ok bytes)
    (otherRead : readBytes workspace.files other = .ok bytes)
    (same : Path.normalize path = Path.normalize other) :
    ∃ (found : List Chunk) (folder : String),
      chunks (sourceText bytes) defaultSize defaultOverlap = .ok found ∧
      (∀ spelling ∈ [path, other],
        (addFile { collection := some collection } spelling).runIn workspace =
          if '/' ∈ spelling.toList then
            (.ok found.length,
              workspace.extended [] ((storedChunks spelling folder found).map Request.store))
          else (if found.isEmpty then .ok 0 else .error (.badValue "no path specified"),
            workspace)) ∧
      (storedChunks path folder found).map (fun chunk => (chunk.document, chunk.metadata)) =
        (storedChunks other folder found).map (fun chunk => (chunk.document, chunk.metadata)) ∧
      ((storedChunks path folder found).map StoredChunk.id).Nodup ∧
      (path ≠ other → List.Disjoint ((storedChunks path folder found).map StoredChunk.id)
        ((storedChunks other folder found).map StoredChunk.id)) := by
  obtain ⟨found, cut⟩ := chunks_default_eq_ok (sourceText bytes)
  have placed : ∃ folder, ∀ spelling ∈ [path, other], '/' ∈ spelling.toList →
      storedFolder workspace.files.current spelling = .ok folder := by
    by_cases slash : '/' ∈ path.toList
    · obtain ⟨folder, folderEq⟩ := storedFolder_eq_ok workspace.files.current slash
      refine ⟨folder, fun spelling mem spellingSlash => ?_⟩
      rcases List.mem_pair.mp mem with rfl | rfl
      · exact folderEq
      · rw [← storedFolder_eq read otherRead slash spellingSlash same, folderEq]
    · by_cases otherSlash : '/' ∈ other.toList
      · obtain ⟨folder, folderEq⟩ := storedFolder_eq_ok workspace.files.current otherSlash
        refine ⟨folder, ?_⟩
        simp [slash, folderEq]
      · exact ⟨"", by simp [slash, otherSlash]⟩
  obtain ⟨folder, folderEq⟩ := placed
  refine ⟨found, folder, cut, fun spelling mem => ?_, ?_, nodup_ids, disjoint_ids⟩
  · have spellingRead : readBytes workspace.files spelling = .ok bytes := by
      rcases List.mem_pair.mp mem with rfl | rfl
      · exact read
      · exact otherRead
    split
    · rename_i slash
      exact runIn_addFile_of_slash spellingRead cut (folderEq spelling mem slash)
    · rename_i bare
      exact runIn_addFile_of_bare spellingRead cut bare
  · simp [storedChunks, storedChunk, storedFile, same]

def singleSource : Disk :=
  .of [("d", .directory [("a.py", .file (Text.encodeUtf8 "x = 1\n"))])] (by decide +kernel)

/-- The ids under which adding a file asks to store. -/
def askedIds (files : Disk) (path : String) : List String :=
  ((addFile { collection := some "code" } path).runIn
    { files, service := { reply := .nothing } }).2.requests.filterMap fun
      | .store chunk => some chunk.id
      | _ => none

theorem askedIds_differ_under_dot :
    Path.normalize "./d/a.py" = Path.normalize "d/a.py" ∧
      readBytes singleSource "./d/a.py" = readBytes singleSource "d/a.py" ∧
      askedIds singleSource "d/a.py" = ["d/a.py_0_1"] ∧
      askedIds singleSource "./d/a.py" = ["./d/a.py_0_1"] := by
  refine ⟨by decide +kernel, rfl, by decide +kernel, by decide +kernel⟩

theorem addFile_stores_chunks_again_under_dot :
    ∃ (found : List Chunk) (folder : String), found.length = 1 ∧
      (∀ spelling ∈ ["d/a.py", "./d/a.py"],
        ((addFile { collection := some "code" } spelling).runIn
            { files := singleSource, service := { reply := .nothing } }).2.requests =
          (storedChunks spelling folder found).map Request.store) ∧
      List.Disjoint ((storedChunks "d/a.py" folder found).map StoredChunk.id)
        ((storedChunks "./d/a.py" folder found).map StoredChunk.id) := by
  obtain ⟨found, folder, cut, runs, -, -, apart⟩ := addFile_ids_follow_spelling
    { files := singleSource, service := { reply := .nothing } } "code" "d/a.py" "./d/a.py"
    (Text.encodeUtf8 "x = 1\n") rfl rfl (by decide +kernel)
  have counted : (chunks (sourceText (Text.encodeUtf8 "x = 1\n")) defaultSize
      defaultOverlap).toOption.map List.length = some 1 := by decide +kernel
  rw [cut] at counted
  refine ⟨found, folder, Option.some.inj counted, fun spelling mem => ?_, apart (by decide)⟩
  have slash : '/' ∈ spelling.toList := by
    rcases List.mem_pair.mp mem with rfl | rfl <;> decide
  rw [runs spelling mem, if_pos slash]
  rfl

/-! ## Any number of calls -/

theorem runIn_storeChunks_cases (store : Store) (path : String) (found : List Chunk)
    (workspace : Workspace) :
    (∃ folder, (storeChunks store path (found.map Chunk.toValue)).runIn workspace =
      (.ok (), workspace.extended [] ((storedChunks path folder found).map Request.store))) ∨
    ∃ fault, (storeChunks store path (found.map Chunk.toValue)).runIn workspace =
      (.error fault, workspace) := by
  cases found with
  | nil => exact .inl ⟨"", by simp [storeChunks, storeChunksFrom, storedChunks]⟩
  | cons chunk rest =>
    cases opened : store.collection with
    | none =>
      have start : chunk.toValue.key "start_line" = .ok (.int chunk.startLine) :=
        Value.key_ofFields rfl
      refine .inr ⟨Value.null.noField "add", ?_⟩
      rw [storeChunks, map_cons, storeChunksFrom, storeChunk, start, opened]
      rfl
    | some collection =>
      cases placed : storedFolder workspace.files.current path with
      | error fault => exact .inr ⟨fault, runIn_storeChunks_of_error opened placed _ _⟩
      | ok folder =>
        refine .inl ⟨folder, ?_⟩
        rw [storeChunks, runIn_storeChunksFrom opened placed, storedChunks, map_map]
        rfl

/-- A call that stores a file: in which collection, and what the files are by then. -/
structure FileCall where
  store : Store
  files : Disk
  path : String

namespace FileCall

/-- The workspace after several calls, each with its own files. -/
def runAll : List FileCall → Workspace → Workspace
  | [], workspace => workspace
  | call :: rest, workspace =>
    runAll rest ((addFile call.store call.path).runIn (workspace.holding call.files)).2

/-- What a call may store. -/
def Stores (call : FileCall) (stored : List StoredChunk) : Prop :=
  stored = [] ∨ ∃ code found folder, Files.readSource call.files call.path = .ok code ∧
    chunks code defaultSize defaultOverlap = .ok found ∧
    stored = storedChunks call.path folder found

theorem exists_stores (call : FileCall) {workspace : Workspace}
    (present : workspace.files = call.files) :
    ∃ lines stored, call.Stores stored ∧
      ((addFile call.store call.path).runIn workspace).2 =
        workspace.extended lines (stored.map Request.store) := by
  rw [addFile, runIn_bind_ok (runIn_files workspace), present]
  cases readable : Files.readSource call.files call.path with
  | error fault =>
    dsimp only
    rw [runIn_bind_ok (runIn_say _ workspace), runIn_pure]
    exact ⟨_, [], .inl rfl, rfl⟩
  | ok code =>
    rcases chunks_default_eq_ok code with ⟨found, cut⟩
    dsimp only
    rw [cut, runIn_bind_ok (runIn_lift _ workspace), runIn_bind]
    rcases runIn_storeChunks_cases call.store call.path found workspace with
      ⟨folder, ran⟩ | ⟨fault, ran⟩
    · rw [ran]
      exact ⟨[], _, .inr ⟨code, found, folder, readable, cut, rfl⟩, rfl⟩
    · rw [ran]
      exact ⟨[], [], .inl rfl, workspace.extended_nil.symm⟩

theorem exists_runAll (calls : List FileCall) (workspace : Workspace) :
    ∃ parts, List.Forall₂ Stores calls parts ∧
      (runAll calls workspace).requests =
        workspace.requests ++ parts.flatten.map Request.store := by
  induction calls generalizing workspace with
  | nil => exact ⟨[], .nil, (append_nil _).symm⟩
  | cons call rest ih =>
    rcases call.exists_stores (workspace.holding_files call.files) with
      ⟨lines, part, stores, ran⟩
    rcases ih ((addFile call.store call.path).runIn (workspace.holding call.files)).2 with
      ⟨parts, others, asked⟩
    refine ⟨part :: parts, .cons stores others, ?_⟩
    rw [runAll, asked, ran, flatten_cons, map_append, ← append_assoc]
    rfl

theorem Stores.nodup {call : FileCall} {stored : List StoredChunk} (stores : call.Stores stored) :
    (stored.map StoredChunk.id).Nodup := by
  rcases stores with rfl | ⟨code, found, folder, _, _, rfl⟩
  · exact nodup_nil
  · exact nodup_ids

variable {calls : List FileCall} {parts : List (List StoredChunk)}

theorem exists_path_of_mem (stores : List.Forall₂ Stores calls parts) {chunk : StoredChunk}
    (chunkMem : chunk ∈ parts.flatten) :
    ∃ path ∈ calls.map FileCall.path, ∃ (place : Nat) (line : Int),
      chunk.id = chunkId path place (Value.int line).text := by
  induction stores with
  | nil => cases chunkMem
  | cons first _ ih =>
    rcases mem_append.mp chunkMem with here | later
    · rcases first with rfl | ⟨code, found, folder, _, _, rfl⟩
      · cases here
      · rcases mem_map.mp here with ⟨entry, _, rfl⟩
        exact ⟨_, mem_cons_self, _, _, rfl⟩
    · rcases ih later with ⟨path, pathMem, made⟩
      exact ⟨path, mem_cons_of_mem _ pathMem, made⟩

theorem nodup_ids_flatten (stores : List.Forall₂ Stores calls parts)
    (different : (calls.map FileCall.path).Nodup) :
    (parts.flatten.map StoredChunk.id).Nodup := by
  induction stores with
  | nil => exact nodup_nil
  | @cons call part calls parts first others ih =>
    rw [map_cons, nodup_cons] at different
    rw [flatten_cons, map_append]
    refine Nodup.append first.nodup (ih different.2) fun id firstMem otherMem => ?_
    rcases mem_map.mp firstMem with ⟨chunk, chunkMem, rfl⟩
    rcases mem_map.mp otherMem with ⟨twin, twinMem, same⟩
    rcases exists_path_of_mem (.cons first .nil) (by simpa using chunkMem) with
      ⟨path, pathMem, place, line, made⟩
    rcases exists_path_of_mem others twinMem with ⟨other, otherMem, _, _, otherMade⟩
    rw [made, otherMade] at same
    rw [mem_singleton.mp pathMem] at same
    exact different.1 ((chunkId_inj same).1 ▸ otherMem)

end FileCall

/--
An id belongs to one path, one place and one first line, whatever separators and digits the path
has. So if calls store files under different paths, one call after the other, no matter which of
them fail and what happens to the files in between, then no two chunks get the same id: neither two
of one call nor two of different calls.
-/
theorem chunkIds_never_collide (workspace : Workspace) {calls : List FileCall}
    (different : (calls.map FileCall.path).Nodup) :
    (∀ (path other : String) (index place : Nat) (line first : Int),
      chunkId path index (Value.int line).text = chunkId other place (Value.int first).text →
        path = other ∧ index = place ∧ line = first) ∧
    ∃ parts, List.Forall₂ FileCall.Stores calls parts ∧
      (FileCall.runAll calls workspace).requests =
        workspace.requests ++ parts.flatten.map Request.store ∧
      (parts.flatten.map StoredChunk.id).Nodup := by
  rcases FileCall.exists_runAll calls workspace with ⟨parts, stores, asked⟩
  refine ⟨fun path other index place line first same => chunkId_inj same, parts, stores, asked, ?_⟩
  exact FileCall.nodup_ids_flatten stores different

/-- Paths that differ by a number such as ids have, and one without a file. -/
def numberedCalls : List FileCall :=
  ["d/a", "d/a_0", "d/b"].map fun path =>
    { store := { collection := some "code" }
      files := .of [("d", .directory [("a", .file (Text.encodeUtf8 "x")),
        ("a_0", .file (Text.encodeUtf8 "y"))])] (by decide +kernel)
      path }

theorem chunkIds_never_collide_of_numberedCalls :
    (numberedCalls.map FileCall.path).Nodup ∧ ∃ stored : List StoredChunk,
      (FileCall.runAll numberedCalls
        { files := .of [] .nil, service := { reply := .nothing } }).requests =
        stored.map Request.store ∧
      stored.length = 2 ∧ (stored.map StoredChunk.id).Nodup := by
  have different : (numberedCalls.map FileCall.path).Nodup := by decide
  let workspace : Workspace := { files := .of [] .nil, service := { reply := .nothing } }
  rcases chunkIds_never_collide workspace different with ⟨_, parts, _, asked, nodup⟩
  have counted : (FileCall.runAll numberedCalls workspace).requests.length = 2 := by decide +kernel
  rw [asked, List.nil_append, List.length_map] at counted
  exact ⟨different, parts.flatten, asked, counted, nodup⟩

end ErpLens.Retrieval
