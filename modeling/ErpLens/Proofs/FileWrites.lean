import ErpLens.Proofs.FileTrees

/-!
# What is written can be read

A file is put where its path leads by name, and it is read by following the path as it is written.
The two meet because a file that is put somewhere takes no directory away.
-/

open List

namespace ErpLens.Files

variable {root : Directory} {disk : Disk} {path : String} {bytes : List UInt8}

namespace Directory

variable {entries : Directory}

/-! ## Directories below a directory -/

theorem below?_append (here : Directory) (names more : List String) :
    here.below? (names ++ more) = (here.below? names).bind (·.below? more) := by
  induction names generalizing here with
  | nil => rfl
  | cons name rest ih =>
    simp only [cons_append, below?]
    split
    · exact ih _
    · rfl

variable {name : String}

theorem below?_concat_iff {here inner : Directory} {names : List String}
    (reached : here.below? names = some entries) :
    here.below? (names ++ [name]) = some inner ↔ entries.find? name = some (.directory inner) := by
  rw [below?_append, reached, Option.bind_some, below?]
  split
  · rename_i found
    simp [below?, found]
  · rename_i notDirectory
    simp only [reduceCtorEq, false_iff]
    exact notDirectory inner

theorem place_cons {more : List String} (nonempty : more ≠ []) (node : Node) {inner : Directory}
    (found : entries.find? name = some (.directory inner)) :
    place node (name :: more) entries =
      entries.insert name (.directory (place node more inner)) := by
  cases more with
  | nil => contradiction
  | cons next rest => simp only [place, found]

theorem place_of_free (node : Node) (free : ∀ inner, entries.find? name ≠ some (.directory inner)) :
    place node [name] entries = entries.insert name node := by
  rw [place]
  split
  · rename_i inner found
    exact absurd found (free inner)
  · rfl

theorem below?_place {root : Directory} {holder : List String} (node : Node)
    (reached : root.below? holder = some entries)
    (free : ∀ inner, entries.find? name ≠ some (.directory inner)) :
    (root.place node (holder ++ [name])).below? holder = some (entries.insert name node) := by
  induction holder generalizing root with
  | nil =>
    simp only [below?, Option.some.injEq] at reached
    subst reached
    rw [nil_append, place_of_free node free]
    rfl
  | cons first others ih =>
    rcases below?_cons_eq_some reached with ⟨inner, found, innerReached⟩
    rw [cons_append, place_cons (by simp) _ found, below?, find?_insert_self]
    exact ih innerReached

end Directory

/-! ## Following a path in two trees -/

/-- Names lead from a directory down to another, past the directories above it; of all of them the
innermost comes first. -/
inductive Reaches (root : Directory) : List String → Directory → List Directory → Prop
  | top : Reaches root [] root []
  | down {names : List String} {here inner : Directory} {above : List Directory} {name : String}
      (outer : Reaches root names here above) (notDots : name ≠ "..")
      (found : here.find? name = some (.directory inner)) :
      Reaches root (name :: names) inner (here :: above)

theorem Reaches.below? {here : Directory} {names : List String} {above : List Directory}
    (reaches : Reaches root names here above) : root.below? names.reverse = some here := by
  induction reaches with
  | top => rfl
  | down _ _ found ih =>
    rw [reverse_cons]
    exact (Directory.below?_concat_iff ih).mpr found

/-- A path that leads to a directory leads to one in every tree that has the same directories, and
resolving it says which. -/
theorem follow_eq_of_reaches {other : Directory}
    (covered : ∀ names here, root.below? names = some here →
      ∃ after, other.below? names = some after)
    {parts names : List String} {here there entries : Directory} {above beyond : List Directory}
    (standing : Reaches root names here above) (counterpart : Reaches other names there beyond)
    (followed : follow here above parts = .found (.directory entries)) :
    ∃ inner outside, Reaches other (parts.foldl (Path.resolveStep true) names) inner outside ∧
      ∀ rest, follow there beyond (parts ++ rest) = follow inner outside rest := by
  induction parts generalizing names here above there beyond with
  | nil => exact ⟨there, beyond, counterpart, fun _ => rfl⟩
  | cons part others ih =>
    rw [foldl_cons]
    unfold follow at followed
    split at followed
    · rename_i stays
      have step : Path.resolveStep true names part = names := by
        simp only [Path.resolveStep, stays, if_true]
      simp only [cons_append, follow, stays, if_true, step]
      exact ih standing counterpart followed
    · rename_i moves
      split at followed
      · rename_i up
        cases standing with
        | top =>
          cases counterpart
          have step : Path.resolveStep true [] part = [] := by
            have isUp : part = ".." := by simpa using up
            simp [Path.resolveStep, isUp]
          simp only [cons_append, follow, moves, up, Bool.false_eq_true, if_false, if_true, step]
          exact ih .top .top followed
        | down outer notDots found =>
          cases counterpart with
          | down counterOuter _ counterFound =>
            have step (name : String) (before : List String) (ne : name ≠ "..") :
                Path.resolveStep true (name :: before) part = before := by
              have isUp : part = ".." := by simpa using up
              simp [Path.resolveStep, isUp, ne]
            simp only [cons_append, follow, moves, up, Bool.false_eq_true, if_false,
              if_true, step _ _ notDots]
            exact ih outer counterOuter followed
      · rename_i down
        have notDots : part ≠ ".." := by simpa using down
        have step : Path.resolveStep true names part = part :: names := by
          have named : (part != "..") = true := by simpa using notDots
          simp [Path.resolveStep, moves, named]
        split at followed
        · simp at followed
        · rename_i inner found
          have further := standing.down notDots found
          rcases covered _ _ further.below? with ⟨after, afterReached⟩
          rw [reverse_cons] at afterReached
          have counterFound := (Directory.below?_concat_iff counterpart.below?).mp afterReached
          simp only [cons_append, follow, moves, down, Bool.false_eq_true, if_false,
            counterFound, step]
          exact ih further (counterpart.down notDots counterFound) followed
        · split at followed <;> simp at followed

/-! ## Where a file can be put -/

/-- A file can be put at a path: the path leads into a directory and ends in a name that no
directory has there. -/
inductive Writable (disk : Disk) (path : String) : Prop
  | intro {before : List String} {name : String} {entries : Directory}
      (parts : Path.components path = before ++ [name])
      (named : name ≠ "" ∧ name ≠ "." ∧ name ≠ "..")
      (holder : follow disk.root [] (Path.startOf disk.current path ++ before) =
        .found (.directory entries))
      (free : ∀ inner, entries.find? name ≠ some (.directory inner))

variable {name : String}

theorem lastPart?_eq_some {before : List String} (parts : Path.components path = before ++ [name])
    (notEmpty : name ≠ "") :
    Path.lastPart? path = some (before, name) := by
  simp [Path.lastPart?, parts, notEmpty]

theorem components_of_lastPart? {before : List String}
    (split : Path.lastPart? path = some (before, name)) (open_ : Path.endsInSlash path = false) :
    Path.components path = before ++ [name] ∧ name ≠ "" := by
  unfold Path.lastPart? at split
  have ends : (Path.components path).reverse.head? ≠ some "" := by
    simpa [Path.endsInSlash] using open_
  cases reversed : (Path.components path).reverse with
  | nil => simp [reversed] at split
  | cons last others =>
    rw [reversed, head?_cons, ne_eq, Option.some.injEq] at ends
    simp only [reversed, dropWhile_cons, beq_iff_eq, ends, if_false, Option.some.injEq,
      Prod.mk.injEq] at split
    rcases split with ⟨beforeEq, nameEq⟩
    subst nameEq
    refine ⟨?_, ends⟩
    rw [← beforeEq, ← reverse_cons, ← reversed, reverse_reverse]

theorem writeBytes_eq_ok (writable : Writable disk path) (bytes : List UInt8) :
    writeBytes disk path bytes = .ok (disk.place bytes path) := by
  rcases writable with @⟨before, name, entries, parts, ⟨notEmpty, notDot, notDots⟩, holder, free⟩
  have open_ : Path.endsInSlash path = false := by
    simp [Path.endsInSlash, parts, notEmpty]
  have untaken : Directory.isTaken name entries = false := by
    simp [Directory.isTaken, beq_false_of_ne notDot, beq_false_of_ne notDots]
  simp [writeBytes, lastPart?_eq_some parts notEmpty, holder, untaken, open_]

theorem writable_of_writeBytes {after : Disk}
    (written : writeBytes disk path bytes = .ok after) : Writable disk path := by
  unfold writeBytes at written
  split at written
  · simp at written
  · rename_i before name split_
    split at written
    · simp at written
    · simp at written
    · simp at written
    · rename_i entries holder
      split at written
      · simp at written
      · rename_i fits
        simp only [Bool.or_eq_true, not_or, Bool.not_eq_true] at fits
        rcases fits with ⟨untaken, open_⟩
        rcases components_of_lastPart? split_ open_ with ⟨parts, notEmpty⟩
        simp only [Directory.isTaken, Bool.or_eq_false_iff, beq_eq_false_iff_ne] at untaken
        rcases untaken with ⟨⟨notDot, notDots⟩, free⟩
        refine .intro parts ⟨notEmpty, notDot, notDots⟩ holder ?_
        intro inner found
        simp [found] at free

/-- Writing succeeds exactly where a file can stand. -/
theorem exists_writeBytes_iff :
    (∃ after, writeBytes disk path bytes = .ok after) ↔ Writable disk path :=
  ⟨fun ⟨_, written⟩ => writable_of_writeBytes written,
    fun writable => ⟨_, writeBytes_eq_ok writable bytes⟩⟩

/-- The place that a path leads to is that of its name in the place that the rest leads to. -/
theorem located_eq_concat {current before : List String}
    (parts : Path.components path = before ++ [name])
    (named : name ≠ "" ∧ name ≠ "." ∧ name ≠ "..") :
    Path.located current path =
      ((Path.startOf current path ++ before).foldl (Path.resolveStep true) []).reverse ++
        [name] := by
  have step (found : List String) : Path.resolveStep true found name = name :: found := by
    simp [Path.resolveStep, named]
  rw [Path.located, parts, ← append_assoc, foldl_append, foldl_cons, foldl_nil, step,
    reverse_cons]

/-- What was written is read back. -/
theorem readBytes_writeBytes {after : Disk}
    (written : writeBytes disk path bytes = .ok after) : readBytes after path = .ok bytes := by
  have writable := writable_of_writeBytes written
  rw [writeBytes_eq_ok writable, Except.ok.injEq] at written
  subst written
  rcases writable with @⟨before, name, entries, parts, named, holder, free⟩
  have ⟨notEmpty, notDot, notDots⟩ := named
  have pathNe : path ≠ "" := by
    rintro rfl
    have single : Path.components "" = [""] := rfl
    rw [single] at parts
    have lastEq := congrArg List.getLast? parts
    rw [getLast?_concat] at lastEq
    simp only [getLast?_singleton, Option.some.injEq] at lastEq
    exact notEmpty lastEq.symm
  -- The place that the path leads into has the same names in both trees.
  rcases follow_eq_of_reaches (fun _ here found => ⟨here, found⟩) .top .top holder with
    ⟨found, _, reached, onward⟩
  have foundEq : found = entries := by
    have whole := onward []
    rw [append_nil, holder] at whole
    simpa [follow] using whole.symm
  subst foundEq
  have rootEq : (disk.place bytes path).root = disk.root.place (.file bytes) (_ ++ [name]) :=
    congrArg (Directory.place (.file bytes) · disk.root) (located_eq_concat parts named)
  have covered (names : List String) (here : Directory)
      (standing : disk.root.below? names = some here) :
      ∃ inner, (disk.place bytes path).root.below? names = some inner := by
    exact Directory.exists_below?_place _ _ standing
  rcases follow_eq_of_reaches covered .top .top holder with ⟨inner, outside, arrived, onward⟩
  have innerEq : inner = found.insert name (.file bytes) := by
    have held := Directory.below?_place (.file bytes) reached.below? free
    rw [← rootEq, arrived.below?, Option.some.injEq] at held
    exact held
  have looked : lookup (disk.place bytes path) path = .found (.file bytes) := by
    have currentEq : (disk.place bytes path).current = disk.current := rfl
    simp only [lookup, String.isEmpty_iff, pathNe, if_false, currentEq, parts]
    rw [← append_assoc, onward]
    simp [follow, notEmpty, notDot, notDots, innerEq]
  simp only [readBytes, looked]

/-! ## Files that are there -/

theorem exists_holder {here : Directory} {above : List Directory} {parts : List String}
    (followed : follow here above parts = .found (.file bytes)) :
    ∃ before name entries, parts = before ++ [name] ∧ (name ≠ "" ∧ name ≠ "." ∧ name ≠ "..") ∧
      follow here above before = .found (.directory entries) ∧
      Directory.find? name entries = some (.file bytes) := by
  induction parts generalizing here above with
  | nil => simp [follow] at followed
  | cons part others ih =>
    unfold follow at followed
    split at followed
    · rename_i stays
      rcases ih followed with ⟨before, name, entries, rfl, named, holder, found⟩
      refine ⟨part :: before, name, entries, rfl, named, ?_, found⟩
      simpa only [follow, stays, if_true] using holder
    · rename_i moves
      split at followed
      · rename_i up
        cases above <;>
          rcases ih followed with ⟨before, name, entries, rfl, named, holder, found⟩ <;>
          refine ⟨part :: before, name, entries, rfl, named, ?_, found⟩ <;>
          simpa only [follow, moves, up, Bool.false_eq_true, if_false, if_true] using holder
      · rename_i down
        split at followed
        · simp at followed
        · rename_i inner entered
          rcases ih followed with ⟨before, name, entries, rfl, named, holder, found⟩
          refine ⟨part :: before, name, entries, rfl, named, ?_, found⟩
          simpa only [follow, moves, down, entered, Bool.false_eq_true, if_false] using holder
        · rename_i held found
          split at followed
          · rename_i last
            simp only [Lookup.found.injEq, Node.file.injEq] at followed
            subst followed
            have othersNil : others = [] := by simpa using last
            subst othersNil
            simp only [Bool.or_eq_true, beq_iff_eq, not_or] at moves down
            exact ⟨[], part, here, rfl, ⟨moves.1, moves.2, down⟩, rfl, found⟩
          · simp at followed

theorem writable_of_readBytes (read : readBytes disk path = .ok bytes) : Writable disk path := by
  unfold readBytes at read
  split at read
  · rename_i held looked
    unfold lookup at looked
    split at looked
    · simp at looked
    · rcases exists_holder looked with ⟨passed, name, entries, partsEq, named, holder, found⟩
      -- The name is the last component of the path itself, since there is one.
      rcases eq_nil_or_concat (Path.components path) with none_ | ⟨before, last, parts⟩
      · exact absurd none_ (by simpa [Path.components] using Text.splitAt_ne_nil '/' path.toList)
      · rw [concat_eq_append] at parts
        rw [parts, ← append_assoc] at partsEq
        obtain ⟨rfl, lastEq⟩ := append_inj' partsEq rfl
        obtain rfl : last = name := by simpa using lastEq
        refine .intro parts named holder ?_
        intro inner foundDirectory
        rw [found] at foundDirectory
        simp at foundDirectory
  · simp at read
  · simp at read
  · simp at read

/-! ## Names in the current directory -/

theorem exists_follow_of_below? {names : List String} {here entries : Directory}
    (above : List Directory) (valid : ∀ name ∈ names, ValidName name)
    (led : here.below? names = some entries) :
    ∃ outside, ∀ rest, follow here above (names ++ rest) = follow entries outside rest := by
  induction names generalizing here above with
  | nil =>
    obtain rfl := Option.some.inj led
    exact ⟨above, fun _ => rfl⟩
  | cons name more ih =>
    rw [forall_mem_cons] at valid
    rcases valid with ⟨nameValid, moreValid⟩
    rcases Directory.below?_cons_eq_some led with ⟨inner, found, innerLed⟩
    rcases ih (here :: above) moreValid innerLed with ⟨outside, onward⟩
    refine ⟨outside, fun rest => ?_⟩
    simp [follow, nameValid.ne_empty, nameValid.ne_dot, nameValid.ne_dots, found, onward]

theorem exists_follow_current (disk : Disk) :
    ∃ outside, ∀ rest,
      follow disk.root [] (disk.current ++ rest) = follow disk.here outside rest := by
  rcases disk.standing with ⟨entries, led⟩
  have here : disk.here = entries := by rw [Disk.here, led, Option.getD_some]
  rw [here]
  exact exists_follow_of_below? [] disk.valid led

/-- What a name leads to is an entry of the current directory. -/
theorem lookup_name (disk : Disk) (valid : ValidName name) :
    lookup disk name =
      match disk.here.find? name with
      | some node => .found node
      | none => .missing := by
  rcases exists_follow_current disk with ⟨outside, onward⟩
  have start : Path.startOf disk.current name = disk.current := by
    rw [Path.startOf, Path.not_isAbsolute valid.no_slash]
    rfl
  simp only [lookup, String.isEmpty_iff, valid.ne_empty, if_false, start,
    Path.components_name valid.no_slash, onward, follow, beq_iff_eq, valid.ne_dot, valid.ne_dots,
    Bool.or_eq_true, or_self, isEmpty_nil, if_true]
  cases disk.here.find? name with
  | none => rfl
  | some node => cases node <;> rfl

/-- A file can be put under a name in the current directory unless a directory has the name. -/
theorem writable_name_iff (valid : ValidName name) :
    Writable disk name ↔ isDirectory disk name = false := by
  have parts := Path.components_name valid.no_slash
  have looked : isDirectory disk name = false ↔
      ∀ inner, disk.here.find? name ≠ some (.directory inner) := by
    rw [isDirectory, lookup_name disk valid]
    cases disk.here.find? name with
    | none => simp
    | some node => cases node <;> simp
  rcases exists_follow_current disk with ⟨outside, onward⟩
  have start : Path.startOf disk.current name = disk.current := by
    rw [Path.startOf, Path.not_isAbsolute valid.no_slash]
    rfl
  have held : follow disk.root [] (Path.startOf disk.current name ++ []) =
      .found (.directory disk.here) := by
    rw [start, onward, follow]
  rw [looked]
  constructor
  · rintro @⟨before, last, entries, split, -, holder, free⟩
    have single : [] ++ [name] = before ++ [last] := parts.symm.trans split
    obtain ⟨rfl, lastEq⟩ := append_inj' single rfl
    obtain rfl : name = last := singleton_inj.mp lastEq
    rw [held, Lookup.found.injEq, Node.directory.injEq] at holder
    rwa [holder]
  · exact fun free => .intro parts ⟨valid.ne_empty, valid.ne_dot, valid.ne_dots⟩ held free

end ErpLens.Files
