import ErpLens.Text.Lines

/-!
# Paths

Paths as texts with `/` between their components. Nothing here looks at files: a relative path is
seen from a current directory, which is given by the names on the way to it.
-/

namespace ErpLens.Files

/-- A name that something in a directory can have. -/
structure ValidName (name : String) : Prop where
  ne_empty : name ≠ ""
  ne_dot : name ≠ "."
  ne_dots : name ≠ ".."
  no_slash : '/' ∉ name.toList

instance (name : String) : Decidable (ValidName name) :=
  decidable_of_iff (name ≠ "" ∧ name ≠ "." ∧ name ≠ ".." ∧ '/' ∉ name.toList)
    ⟨fun ⟨empty, dot, dots, slash⟩ => ⟨empty, dot, dots, slash⟩,
      fun ⟨empty, dot, dots, slash⟩ => ⟨empty, dot, dots, slash⟩⟩

namespace Path

def components (path : String) : List String :=
  (Text.splitAt '/' path.toList).map String.ofList

def isAbsolute (path : String) : Bool :=
  path.toList.head? == some '/'

/-- The slashes that a normal path starts with: none, one, or exactly two if two are written. -/
def rootOf (path : String) : String :=
  let slashes := (path.toList.takeWhile (· == '/')).length
  if slashes == 0 then "" else if slashes == 2 then "//" else "/"

/-- Takes one component: an empty one or a dot says nothing, two dots undo the component before
them. `found` holds the components before, last first. -/
def resolveStep (absolute : Bool) (found : List String) (part : String) : List String :=
  if part == "" || part == "." then found
  else if part != ".." then part :: found
  else
    match found with
    | [] => if absolute then [] else [".."]
    | last :: before => if last == ".." then ".." :: found else before

def resolved (path : String) : List String :=
  ((components path).foldl (resolveStep (isAbsolute path)) []).reverse

def normalize (path : String) : String :=
  let text := rootOf path ++ "/".intercalate (resolved path)
  if text.isEmpty then "." else text

def join (path name : String) : String :=
  if isAbsolute name then name
  else if path.isEmpty || path.toList.getLast? == some '/' then path ++ name
  else path ++ "/" ++ name

def parent (path : String) : String :=
  let head := (path.toList.reverse.dropWhile (· != '/')).reverse
  if head.all (· == '/') then String.ofList head
  else String.ofList (head.reverse.dropWhile (· == '/')).reverse

def endsInSlash (path : String) : Bool :=
  (components path).getLast? == some ""

/-- The last component that is not empty, after those before it. -/
def lastPart? (path : String) : Option (List String × String) :=
  match (components path).reverse.dropWhile (· == "") with
  | [] => none
  | name :: before => some (before.reverse, name)

/-! ## Paths seen from a directory -/

section

variable (current : List String)

/-- The directory that a path starts from. -/
def startOf (path : String) : List String :=
  if isAbsolute path then [] else current

/-- The names on the way from the root to where a path leads. Above the root there is only the
root. -/
def located (path : String) : List String :=
  ((startOf current path ++ components path).foldl (resolveStep true) []).reverse

def dropCommon : List String → List String → List String × List String
  | a :: as, b :: bs => if a == b then dropCommon as bs else (a :: as, b :: bs)
  | as, bs => (as, bs)

/-- The way to a path from another one; there is none to the empty path. -/
def relativeTo? (path start : String) : Option String :=
  if path.isEmpty then none
  else
    let (here, there) := dropCommon (located current start) (located current path)
    let parts := here.map (fun _ => "..") ++ there
    some (if parts.isEmpty then "." else "/".intercalate parts)

end

theorem no_slash_of_mem_components {path part : String} (mem : part ∈ components path) :
    '/' ∉ part.toList := by
  rcases List.mem_map.mp mem with ⟨piece, pieceMem, rfl⟩
  simpa using Text.not_mem_of_mem_splitAt pieceMem

theorem valid_of_mem_resolveStep {found : List String} {next : String} (noSlash : '/' ∉ next.toList)
    (valid : ∀ name ∈ found, ValidName name) :
    ∀ name ∈ resolveStep true found next, ValidName name := by
  intro name mem
  unfold resolveStep at mem
  split at mem
  · exact valid name mem
  · rename_i moves
    simp only [Bool.or_eq_true, beq_iff_eq, not_or] at moves
    split at mem
    · rename_i notUp
      rcases List.mem_cons.mp mem with rfl | earlier
      · exact ⟨moves.1, moves.2, by simpa using notUp, noSlash⟩
      · exact valid name earlier
    · cases found with
      | nil => simp at mem
      | cons last before =>
        have notDots := (valid last List.mem_cons_self).ne_dots
        simp only [beq_iff_eq, notDots, if_false] at mem
        exact valid name (List.mem_cons_of_mem last mem)

theorem valid_of_mem_located {current : List String} (valid : ∀ name ∈ current, ValidName name)
    (path : String) : ∀ name ∈ located current path, ValidName name := by
  have kept (parts found : List String) (noSlash : ∀ part ∈ parts, '/' ∉ part.toList)
      (foundValid : ∀ name ∈ found, ValidName name) :
      ∀ name ∈ parts.foldl (resolveStep true) found, ValidName name := by
    induction parts generalizing found with
    | nil => exact foundValid
    | cons part rest ih =>
      rw [List.forall_mem_cons] at noSlash
      exact ih _ noSlash.2 (valid_of_mem_resolveStep noSlash.1 foundValid)
  intro name mem
  refine kept _ [] (fun part partMem => ?_) (by simp) name (List.mem_reverse.mp mem)
  rcases List.mem_append.mp partMem with inStart | inPath
  · unfold startOf at inStart
    split at inStart
    · simp at inStart
    · exact (valid part inStart).no_slash
  · exact no_slash_of_mem_components inPath

def forwardSlashes (path : String) : String :=
  String.ofList (path.toList.map fun c => if c == '\\' then '/' else c)

/-- The components that name something: empty ones and dots are left out, two dots stay. -/
def steps (path : String) : List String :=
  (components path).filter fun part => part != "" && part != "."

def tidy (path : String) : String :=
  let text := rootOf path ++ "/".intercalate (steps path)
  if text.isEmpty then "." else text

def tidyJoin (path name : String) : String :=
  if path == "." then name else join path name

def hasSuffix (suffix name : String) : Bool :=
  suffix.toList.isSuffixOf name.toList

end Path

end ErpLens.Files
