import ErpLens.Proofs.PathSpellings

/-!
# The folder that a file is stored under

A file is stored under the normal form of its path and the way to its directory, however the path is
written. A path without a slash has no directory in it, and the program stops at its first chunk.
-/

open List

namespace ErpLens.Files.Path

variable {path way : String} {current start rest : List String}

/-- The way to what lies below is made of the names below. -/
theorem Way.eq_ofParts (leads : Way start (start ++ rest) way) : way = ofParts rest := by
  rcases leads with @⟨shared, up, down, startEq, goalEq, apart⟩
  rw [startEq, append_assoc] at goalEq
  obtain rfl := append_cancel_left goalEq
  cases up with
  | nil => rfl
  | cons name others => exact absurd rfl (apart name rfl)

theorem valid_of_mem_resolved {part : String} (level : ".." ∉ resolved path)
    (mem : part ∈ resolved path) : ValidName part := by
  rcases (settled_resolved path).of_mem (mem_reverse.mpr mem) with rfl | valid
  · exact absurd mem level
  · exact valid

/-- A relative path that goes up nowhere leads to what is left of it, below the current directory.
-/
theorem located_of_level (here : ∀ name ∈ current, ValidName name)
    (relative : isAbsolute path = false) (level : ".." ∉ resolved path) :
    located current path = current ++ resolved path := by
  have start : startOf current path = current := by
    rw [startOf, relative]
    rfl
  rw [located_eq_resolved, start, foldl_append, foldl_resolveStep_names _ _ here,
    foldl_resolveStep_names _ _ fun part mem => valid_of_mem_resolved level mem]
  simp

theorem Way.eq_normalize (here : ∀ name ∈ current, ValidName name)
    (leads : Way current (located current path) way) (relative : isAbsolute path = false)
    (level : ".." ∉ resolved path) : way = normalize path := by
  rw [located_of_level here relative level] at leads
  rw [leads.eq_ofParts, normalize_of_relative relative, ofParts]
  simp

end ErpLens.Files.Path

namespace ErpLens.Retrieval

open Files Program

/-- A path with a slash has a folder to be stored under. -/
theorem exists_storedFolder (disk : Disk) {path : String} (slash : '/' ∈ path.toList) :
    ∃ way, Path.Way disk.current (Path.located disk.current (Path.parent path)) way ∧
      Path.normalize way = way ∧
      storedFolder disk.current path = .ok (Path.forwardSlashes way) := by
  rcases @Path.exists_way (Path.parent path) disk.current "." (Path.parent_ne_empty slash) with
    ⟨way, leads, wayEq⟩
  rw [Path.located_dot disk.valid] at leads
  have normal := leads.normalize_eq (Path.valid_of_mem_located disk.valid _)
  refine ⟨way, leads, normal, ?_⟩
  simp only [storedFolder, wayEq, storedFile, normal]

theorem exists_located_eq_parent_append {disk : Disk} {path : String} {bytes : List UInt8}
    (read : readBytes disk path = .ok bytes) :
    ∃ name, Path.located disk.current path =
      Path.located disk.current (Path.parent path) ++ [name] := by
  rcases writable_of_readBytes read with @⟨before, name, _, parts, named, _, _⟩
  refine ⟨name, ?_⟩
  by_cases slash : '/' ∈ path.toList
  · exact Path.located_eq_parent_append _ slash parts named
  · have single := parts
    rw [Path.components_name slash] at single
    obtain ⟨rfl, lastEq⟩ := append_inj' (nil_append [path] |>.trans single) rfl
    have start : Path.startOf disk.current path = Path.startOf disk.current "" := by
      rw [Path.startOf, Path.not_isAbsolute slash]
      rfl
    have blank : Path.components "" = [""] := rfl
    rw [located_eq_concat parts named, Path.parent_of_no_slash slash, Path.located, blank, start,
      append_nil, foldl_concat, Path.resolveStep_stays _ _ (.inl rfl)]

/-- The chunk at a place of a file as it is stored: its id starts with the path as it is written,
and its metadata name the file in its normal form and the way to its directory. -/
def chunkAt (path way : String) (place : Nat) (chunk : Chunk) : StoredChunk where
  id := s!"{path}_{place}_{chunk.startLine}"
  document := .str chunk.text
  metadata := [("file", .str (Path.forwardSlashes (Path.normalize path))),
    ("folder", .str (Path.forwardSlashes way)), ("start_line", .int chunk.startLine),
    ("end_line", .int chunk.endLine), ("chunk_index", .int place)]

/--
A file that can be read is cut into chunks. If there is a slash in its path, they are all stored,
each by one request and in order, under the normal form of the path and the way from the current
directory to the directory in the path. The way is in its normal form and leads there; if the
directory is written from the current one and goes up nowhere, the way is its normal form. If there
is no slash in the path, nothing is stored, and the program fails unless there are no chunks.
-/
theorem addFile_stores_chunks_unless_bare (workspace : Workspace) (collection path : String)
    (bytes : List UInt8) (read : readBytes workspace.files path = .ok bytes) :
    ∃ found : List Chunk, chunks (sourceText bytes) defaultSize defaultOverlap = .ok found ∧
      (∃ name, Path.located workspace.files.current path =
        Path.located workspace.files.current (Path.parent path) ++ [name]) ∧
      ('/' ∈ path.toList → ∃ (way : String) (requests : List Request),
        Path.Way workspace.files.current
          (Path.located workspace.files.current (Path.parent path)) way ∧
        Path.normalize way = way ∧ Path.isAbsolute way = false ∧
        Path.located workspace.files.current way =
          Path.located workspace.files.current (Path.parent path) ∧
        (Path.isAbsolute (Path.parent path) = false → ".." ∉ Path.resolved (Path.parent path) →
          way = Path.normalize (Path.parent path)) ∧
        (addFile { collection := some collection } path).runIn workspace =
          (.ok found.length, workspace.extended [] requests) ∧
        requests.length = found.length ∧
        ∀ place : Nat, requests[place]? =
          (found[place]?).map fun chunk => Request.store (chunkAt path way place chunk)) ∧
      ('/' ∉ path.toList →
        (addFile { collection := some collection } path).runIn workspace =
          (if found = [] then .ok 0 else .error (.badValue "no path specified"), workspace)) := by
  obtain ⟨found, cut⟩ := chunks_default_eq_ok (sourceText bytes)
  refine ⟨found, cut, exists_located_eq_parent_append read, ?_, ?_⟩
  · intro slash
    rcases exists_storedFolder workspace.files slash with ⟨way, leads, normal, placed⟩
    have here := workspace.files.valid
    have there := Path.valid_of_mem_located here (Path.parent path)
    refine ⟨way, _, leads, normal, leads.isAbsolute_eq there, leads.located_eq here there,
      leads.eq_normalize here, runIn_addFile_of_slash read cut placed, ?_, ?_⟩
    · simp [storedChunks]
    · intro place
      have stored (chunk : Chunk) :
          storedChunk path (Path.forwardSlashes way) place chunk = chunkAt path way place chunk :=
        rfl
      simp [storedChunks, List.getElem?_zipIdx, Function.comp_def, stored]
  · intro bare
    rw [runIn_addFile_of_bare read cut bare]
    simp

/-- A source at the top, beside an empty folder. -/
def sourceBesideFolder : Disk :=
  .of [("a.py", .file (Text.encodeUtf8 "x = 1\n")), ("d", .directory [])] (by decide +kernel)

def besideFolder : Workspace :=
  { files := sourceBesideFolder, service := { reply := .nothing } }

theorem chunks_besideFolder :
    chunks (sourceText (Text.encodeUtf8 "x = 1\n")) defaultSize defaultOverlap =
      .ok [⟨"x = 1\n", 1, 2⟩] := by
  have found : (chunks (sourceText (Text.encodeUtf8 "x = 1\n")) defaultSize
      defaultOverlap).toOption = some [⟨"x = 1\n", 1, 2⟩] := by decide +kernel
  rcases chunks_default_eq_ok (sourceText (Text.encodeUtf8 "x = 1\n")) with ⟨cut, cutEq⟩
  rw [cutEq] at found ⊢
  exact congrArg Except.ok (Option.some.inj found)

/-- A file of the current directory, written from the root. -/
theorem addFile_stores_chunks_unless_bare_from_root :
    readBytes besideFolder.files "/home/erp/work/d/../a.py" = .ok (Text.encodeUtf8 "x = 1\n") ∧
      ∃ requests : List Request,
        (addFile { collection := some "code" } "/home/erp/work/d/../a.py").runIn besideFolder =
          (.ok 1, besideFolder.extended [] requests) ∧
        requests[0]? = some (.store
          { id := "/home/erp/work/d/../a.py_0_1"
            document := .str "x = 1\n"
            metadata := [("file", .str "/home/erp/work/a.py"), ("folder", .str "."),
              ("start_line", .int 1), ("end_line", .int 2), ("chunk_index", .int 0)] }) := by
  have read : readBytes besideFolder.files "/home/erp/work/d/../a.py" =
      .ok (Text.encodeUtf8 "x = 1\n") := rfl
  rcases addFile_stores_chunks_unless_bare besideFolder "code" "/home/erp/work/d/../a.py" _ read
    with ⟨found, cut, -, stores, -⟩
  rw [chunks_besideFolder, Except.ok.injEq] at cut
  subst cut
  rcases stores (by decide) with ⟨way, requests, leads, -, -, -, -, ran, -, each⟩
  refine ⟨read, requests, ran, ?_⟩
  have place : Path.located besideFolder.files.current (Path.parent "/home/erp/work/d/../a.py") =
      besideFolder.files.current ++ [] := by decide +kernel
  rw [place] at leads
  rw [each 0, leads.eq_ofParts]
  have file : Path.forwardSlashes (Path.normalize "/home/erp/work/d/../a.py") =
      "/home/erp/work/a.py" := by decide +kernel
  have folder : Path.forwardSlashes (Path.ofParts []) = "." := by decide +kernel
  simp only [chunkAt, file, folder]
  rfl

/-- The same file is not stored under its bare name. -/
theorem bare_name_is_not_stored :
    readBytes besideFolder.files "a.py" = .ok (Text.encodeUtf8 "x = 1\n") ∧
      chunks (sourceText (Text.encodeUtf8 "x = 1\n")) defaultSize defaultOverlap =
        .ok [⟨"x = 1\n", 1, 2⟩] ∧
      (addFile { collection := some "code" } "a.py").runIn besideFolder =
        (.error (.badValue "no path specified"), besideFolder) := by
  have read : readBytes besideFolder.files "a.py" = .ok (Text.encodeUtf8 "x = 1\n") := rfl
  refine ⟨read, chunks_besideFolder, ?_⟩
  exact runIn_addFile_of_bare read chunks_besideFolder (by decide)

end ErpLens.Retrieval
