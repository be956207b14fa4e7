import ErpLens.Files.Path
import ErpLens.Text.Utf8

/-!
# File trees

A directory with everything below it, as a value. Its entries have names of their own; they come in
the order in which they are listed.
-/

namespace ErpLens.Files

inductive Node where
  | file (bytes : List UInt8)
  | directory (entries : List (String × Node))

abbrev Directory := List (String × Node)

namespace Directory

def find? (name : String) : Directory → Option Node
  | [] => none
  | (key, node) :: rest => if key == name then some node else find? name rest

/-- Puts a new entry before the first one with a greater name. -/
def insertNew (name : String) (node : Node) : Directory → Directory
  | [] => [(name, node)]
  | (key, old) :: rest =>
    if name < key then (name, node) :: (key, old) :: rest
    else (key, old) :: insertNew name node rest

def replace (name : String) (node : Node) : Directory → Directory
  | [] => []
  | (key, old) :: rest =>
    if key == name then (name, node) :: rest else (key, old) :: replace name node rest

def insert (name : String) (node : Node) (entries : Directory) : Directory :=
  if (entries.find? name).isSome then entries.replace name node else entries.insertNew name node

/-- Puts something where names lead, with the directories on the way. A directory that is there
stays. -/
def place (node : Node) : List String → Directory → Directory
  | [], entries => entries
  | [name], entries =>
    match entries.find? name with
    | some (.directory _) => entries
    | _ => entries.insert name node
  | name :: more, entries =>
    let inner := match entries.find? name with
      | some (.directory inner) => inner
      | _ => []
    entries.insert name (.directory (place node more inner))

/-- The directory that names lead to. -/
def below? (here : Directory) : List String → Option Directory
  | [] => some here
  | name :: rest =>
    match here.find? name with
    | some (.directory inner) => below? inner rest
    | _ => none

end Directory

/-! ## Well-formed trees -/

/-- Directories in which every entry has a valid name of its own. -/
inductive Node.WellFormed : Node → Prop
  | file (bytes : List UInt8) : (Node.file bytes).WellFormed
  | directory {entries : List (String × Node)}
      (distinct : (entries.map Prod.fst).Nodup)
      (valid : ∀ entry ∈ entries, ValidName entry.1)
      (below : ∀ entry ∈ entries, entry.2.WellFormed) : (Node.directory entries).WellFormed

def Directory.WellFormed (root : Directory) : Prop :=
  (Node.directory root).WellFormed

mutual

def Node.isWellFormed : Node → Bool
  | .file _ => true
  | .directory entries => decide (entries.map Prod.fst).Nodup && areWellFormed entries

def areWellFormed : List (String × Node) → Bool
  | [] => true
  | (name, node) :: rest => decide (ValidName name) && node.isWellFormed && areWellFormed rest

end

mutual

theorem Node.isWellFormed_iff : ∀ node : Node, node.isWellFormed = true ↔ node.WellFormed
  | .file bytes => ⟨fun _ => .file bytes, fun _ => rfl⟩
  | .directory entries => by
      have checked := areWellFormed_iff entries
      simp only [Node.isWellFormed, Bool.and_eq_true, decide_eq_true_eq, checked]
      constructor
      · rintro ⟨distinct, entriesFit⟩
        exact .directory distinct (fun entry mem => (entriesFit entry mem).1)
          fun entry mem => (entriesFit entry mem).2
      · rintro (_ | ⟨distinct, valid, below⟩)
        exact ⟨distinct, fun entry mem => ⟨valid entry mem, below entry mem⟩⟩

theorem areWellFormed_iff : ∀ entries : List (String × Node), areWellFormed entries = true ↔
    ∀ entry ∈ entries, ValidName entry.1 ∧ entry.2.WellFormed
  | [] => by simp [areWellFormed]
  | (name, node) :: rest => by
      simp [areWellFormed, Node.isWellFormed_iff node, areWellFormed_iff rest]

end

instance (root : Directory) : Decidable root.WellFormed :=
  decidable_of_iff _ (Node.isWellFormed_iff (.directory root))

namespace Directory

variable {entries : Directory} {name : String} {node : Node}

theorem mem_of_find? (found : entries.find? name = some node) : (name, node) ∈ entries := by
  induction entries with
  | nil => simp [find?] at found
  | cons entry rest ih =>
    rw [find?] at found
    split at found
    · rename_i named
      cases found
      rw [← eq_of_beq named]
      exact List.mem_cons_self
    · exact List.mem_cons_of_mem _ (ih found)

theorem not_mem_of_find? (missing : entries.find? name = none) : name ∉ entries.map Prod.fst := by
  induction entries with
  | nil => simp
  | cons entry rest ih =>
    rw [find?] at missing
    split at missing
    · simp at missing
    · rename_i different
      simp only [List.map_cons, List.mem_cons, not_or]
      exact ⟨fun same => different (by simp [same]), ih missing⟩

theorem mem_insertNew {entry : String × Node} :
    entry ∈ entries.insertNew name node ↔ entry = (name, node) ∨ entry ∈ entries := by
  induction entries with
  | nil => simp [insertNew]
  | cons first rest ih =>
    rw [insertNew]
    split
    · simp
    · rw [List.mem_cons, ih, List.mem_cons]
      exact or_left_comm

theorem map_fst_replace : (entries.replace name node).map Prod.fst = entries.map Prod.fst := by
  induction entries with
  | nil => rfl
  | cons first rest ih =>
    rw [replace]
    split
    · rename_i named
      simp [eq_of_beq named]
    · simp [ih]

theorem mem_of_mem_replace {entry : String × Node} (mem : entry ∈ entries.replace name node) :
    entry = (name, node) ∨ entry ∈ entries := by
  induction entries with
  | nil => simp [replace] at mem
  | cons first rest ih =>
    rw [replace] at mem
    split at mem
    · exact (List.mem_cons.mp mem).imp_right (List.mem_cons_of_mem first)
    · rcases List.mem_cons.mp mem with rfl | later
      · exact .inr List.mem_cons_self
      · exact (ih later).imp_right (List.mem_cons_of_mem first)

theorem nodup_insertNew (distinct : (entries.map Prod.fst).Nodup)
    (fresh : name ∉ entries.map Prod.fst) : ((entries.insertNew name node).map Prod.fst).Nodup := by
  induction entries with
  | nil => simp [insertNew]
  | cons first rest ih =>
    rw [insertNew]
    split
    · exact List.nodup_cons.mpr ⟨fresh, distinct⟩
    · simp only [List.map_cons, List.mem_cons, not_or, List.nodup_cons] at distinct fresh ⊢
      refine ⟨fun mem => ?_, ih distinct.2 fresh.2⟩
      rcases List.mem_map.mp mem with ⟨entry, entryMem, named⟩
      rcases mem_insertNew.mp entryMem with rfl | older
      · exact fresh.1 named
      · exact distinct.1 (named ▸ List.mem_map_of_mem older)

theorem WellFormed.nil : Directory.WellFormed [] := by decide

theorem WellFormed.insert (wellFormed : entries.WellFormed) (valid : ValidName name)
    (nodeWellFormed : node.WellFormed) : (entries.insert name node).WellFormed := by
  rcases wellFormed with _ | ⟨distinct, entriesValid, below⟩
  have either : ∀ entry ∈ entries.insert name node, entry = (name, node) ∨ entry ∈ entries := by
    intro entry mem
    unfold Directory.insert at mem
    split at mem
    · exact mem_of_mem_replace mem
    · exact mem_insertNew.mp mem
  refine .directory ?_ (fun entry mem => ?_) fun entry mem => ?_
  · unfold Directory.insert
    split
    · rwa [map_fst_replace]
    · rename_i missing
      exact nodup_insertNew distinct (not_mem_of_find? (by simpa using missing))
  · rcases either entry mem with rfl | older
    · exact valid
    · exact entriesValid entry older
  · rcases either entry mem with rfl | older
    · exact nodeWellFormed
    · exact below entry older

theorem WellFormed.find? (wellFormed : entries.WellFormed)
    (found : Directory.find? name entries = some node) : node.WellFormed := by
  rcases wellFormed with _ | ⟨_, _, below⟩
  exact below _ (mem_of_find? found)

theorem WellFormed.place (nodeWellFormed : node.WellFormed) {names : List String}
    (valid : ∀ name ∈ names, ValidName name) {entries : Directory}
    (wellFormed : entries.WellFormed) : (entries.place node names).WellFormed := by
  induction names generalizing entries with
  | nil => exact wellFormed
  | cons name more ih =>
    rw [List.forall_mem_cons] at valid
    cases more with
    | nil =>
      simp only [Directory.place]
      split
      · exact wellFormed
      · exact wellFormed.insert valid.1 nodeWellFormed
    | cons next others =>
      refine wellFormed.insert valid.1 (ih valid.2 ?_)
      split
      · rename_i found
        exact wellFormed.find? found
      · exact .directory (by simp) (by simp) (by simp)

theorem find?_replace_self (found : (entries.find? name).isSome) (node : Node) :
    (entries.replace name node).find? name = some node := by
  induction entries with
  | nil => simp [find?] at found
  | cons entry rest ih =>
    rw [find?] at found
    rw [replace]
    split
    · simp [find?]
    · rename_i keyNe
      rw [if_neg keyNe] at found
      simpa [find?, keyNe] using ih found

theorem find?_replace_of_ne {other : String} (ne : other ≠ name) (node : Node) :
    (entries.replace name node).find? other = entries.find? other := by
  induction entries with
  | nil => rfl
  | cons entry rest ih =>
    rw [replace]
    split
    · rename_i keyEq
      simp [find?, eq_of_beq keyEq, ne.symm]
    · simp only [find?, ih]

theorem find?_insertNew_self (missing : entries.find? name = none) (node : Node) :
    (entries.insertNew name node).find? name = some node := by
  induction entries with
  | nil => simp [insertNew, find?]
  | cons entry rest ih =>
    rw [find?] at missing
    split at missing
    · simp at missing
    · rename_i keyNe
      rw [insertNew]
      split
      · simp [find?]
      · simpa [find?, keyNe] using ih missing

theorem find?_insertNew_of_ne {other : String} (ne : other ≠ name) (node : Node) :
    (entries.insertNew name node).find? other = entries.find? other := by
  induction entries with
  | nil => simp [insertNew, find?, ne.symm]
  | cons entry rest ih =>
    rw [insertNew]
    split
    · simp [find?, ne.symm]
    · simp only [find?, ih]

@[simp]
theorem find?_insert_self (name : String) (node : Node) (entries : Directory) :
    (entries.insert name node).find? name = some node := by
  rw [insert]
  split
  · rename_i found
    exact find?_replace_self found node
  · rename_i missing
    exact find?_insertNew_self (by simpa using missing) node

theorem find?_insert_of_ne {other : String} (ne : other ≠ name) (node : Node)
    (entries : Directory) : (entries.insert name node).find? other = entries.find? other := by
  rw [insert]
  split
  · exact find?_replace_of_ne ne node
  · exact find?_insertNew_of_ne ne node

theorem below?_cons_eq_some {more : List String} {inner : Directory}
    (led : entries.below? (name :: more) = some inner) :
    ∃ next, entries.find? name = some (.directory next) ∧ below? next more = some inner := by
  rw [below?] at led
  split at led
  · rename_i next found
    exact ⟨next, found, led⟩
  · simp at led

/-- What is put somewhere takes no directory away. -/
theorem exists_below?_place (node : Node) (parts : List String) {names : List String}
    {inner : Directory} (led : entries.below? names = some inner) :
    ∃ after, (entries.place node parts).below? names = some after := by
  induction parts generalizing entries names with
  | nil => exact ⟨inner, led⟩
  | cons name more ih =>
    cases names with
    | nil => exact ⟨_, rfl⟩
    | cons first rest =>
      rcases below?_cons_eq_some led with ⟨next, found, nextLed⟩
      cases more with
      | nil =>
        simp only [place]
        split
        · exact ⟨inner, led⟩
        · rename_i free
          have different : first ≠ name := by
            rintro rfl
            exact free next found
          refine ⟨inner, ?_⟩
          rw [below?, find?_insert_of_ne different]
          exact led
      | cons second others =>
        by_cases same : first = name
        · subst same
          simp only [place, found, below?, find?_insert_self]
          exact ih nextLed
        · refine ⟨inner, ?_⟩
          rw [place, below?, find?_insert_of_ne same]
          · exact led
          · simp

end Directory

/-! ## Going over a tree -/

mutual

def filesOf (path : String) : Node → List (String × List UInt8)
  | .file bytes => [(path, bytes)]
  | .directory entries => filesBelow path entries

def filesBelow (path : String) : List (String × Node) → List (String × List UInt8)
  | [] => []
  | (name, node) :: rest => filesOf (Path.join path name) node ++ filesBelow path rest

end

def fileNames (entries : Directory) : List String :=
  entries.filterMap fun
    | (name, .file _) => some name
    | (_, .directory _) => none

def directoryNames (entries : Directory) : List String :=
  entries.filterMap fun
    | (_, .file _) => none
    | (name, .directory _) => some name

section

variable {m : Type → Type} [Monad m] (visit : String → List String → List String → m (List String))

mutual

/-- Walks a tree from the top. Every directory is shown to `visit`: its path, and the names of the
directories and of the files in it. The directories that `visit` gives back are walked next. -/
def walkNode (path : String) : Node → m Unit
  | .file _ => pure ()
  | .directory entries => do
    let kept ← visit path (directoryNames entries) (fileNames entries)
    walkEntries path kept entries

def walkEntries (path : String) (kept : List String) : List (String × Node) → m Unit
  | [] => pure ()
  | (name, node) :: rest => do
    if kept.contains name then walkNode (Path.join path name) node
    walkEntries path kept rest

end

end

mutual

/-- Everything below a directory whose name is that of a source, directories included: first the
entries of the directory itself, then those of each directory in it. -/
def matchesOf (path : String) : Node → List String
  | .file _ => []
  | .directory entries =>
    ((entries.map Prod.fst).filter (Path.hasSuffix ".py")).map (Path.tidyJoin path) ++
      matchesBelow path entries

def matchesBelow (path : String) : List (String × Node) → List String
  | [] => []
  | (name, node) :: rest => matchesOf (Path.tidyJoin path name) node ++ matchesBelow path rest

end

end ErpLens.Files
