import ErpLens.Proofs.FileTrees
import Mathlib.Data.List.Induction
import Mathlib.Data.List.TakeWhile

/-!
# Normal forms of paths

What is left of a path after its blanks, its dots and its steps back leads to the same place, and so
does the way to it, which goes up to where both places part and then down.
-/

open List

namespace ErpLens.Files.Path

variable {absolute : Bool} {path part name : String} {current found parts : List String}

/-! ## What is left of a path -/

/-- Components, last first, of which nothing can be undone: names, and steps up before them if the
path does not start at the root. -/
inductive Settled (absolute : Bool) : List String → Prop
  | up (count : Nat) (free : absolute = true → count = 0) :
      Settled absolute (List.replicate count "..")
  | name {part : String} {found : List String} (valid : ValidName part)
      (before : Settled absolute found) : Settled absolute (part :: found)

theorem resolveStep_back (absolute : Bool) (found : List String) (valid : ValidName name) :
    resolveStep absolute (name :: found) ".." = found := by
  simp [resolveStep, valid.ne_dots]

/-- A component that does not stay where one is, is a name or a step up. -/
theorem valid_of_moves (noSlash : '/' ∉ part.toList) (moves : ¬(part = "" ∨ part = "."))
    (notUp : part ≠ "..") : ValidName part :=
  ⟨fun blank => moves (.inl blank), fun dot => moves (.inr dot), notUp, noSlash⟩

theorem resolveStep_stays (absolute : Bool) (found : List String) (stays : part = "" ∨ part = ".") :
    resolveStep absolute found part = found := by
  rcases stays with rfl | rfl <;> rfl

namespace Settled

variable (settled : Settled absolute found)

include settled

theorem step (noSlash : '/' ∉ part.toList) :
    Settled absolute (resolveStep absolute found part) := by
  by_cases stays : part = "" ∨ part = "."
  · rwa [resolveStep_stays absolute found stays]
  · by_cases up : part = ".."
    · subst up
      cases settled with
      | up count free =>
        cases count with
        | zero =>
          cases absolute with
          | true => exact .up 0 fun _ => rfl
          | false => exact .up 1 (by simp)
        | succ count => exact .up (count + 2) fun isAbsolute => absurd (free isAbsolute) (by simp)
      | name valid before =>
        rwa [resolveStep_back _ _ valid]
    · have valid := valid_of_moves noSlash stays up
      rw [resolveStep_name _ _ valid]
      exact .name valid settled

theorem foldl (noSlash : ∀ part ∈ parts, '/' ∉ part.toList) :
    Settled absolute (parts.foldl (resolveStep absolute) found) := by
  induction parts generalizing found with
  | nil => exact settled
  | cons part rest ih =>
    rw [forall_mem_cons] at noSlash
    exact ih (settled.step noSlash.1) noSlash.2

theorem of_mem (mem : part ∈ found) :
    part = ".." ∨ ValidName part := by
  induction settled with
  | up count _ => exact .inl (eq_of_mem_replicate mem)
  | name valid _ ih =>
    rcases mem_cons.mp mem with rfl | earlier
    · exact .inr valid
    · exact ih earlier

/-- Taking settled components once more changes nothing. -/
theorem foldl_reverse :
    found.reverse.foldl (resolveStep absolute) [] = found := by
  induction settled with
  | up count free =>
    cases absolute with
    | true => rw [free rfl]; rfl
    | false =>
      induction count with
      | zero => rfl
      | succ count ih =>
        have up : resolveStep false (List.replicate count "..") ".." =
            List.replicate (count + 1) ".." := by
          cases count <;> rfl
        rw [reverse_replicate] at ih ⊢
        rw [replicate_succ', foldl_concat, ih (by simp), up, replicate_succ']
  | name valid _ ih => rw [reverse_cons, foldl_concat, ih, resolveStep_name _ _ valid]

/-- Undoing a component before a path is followed leads to where undoing it on the way does. -/
theorem foldl_reverse_step {start : List String} (noSlash : '/' ∉ part.toList)
    (atRoot : absolute = true → start = []) :
    (resolveStep absolute found part).reverse.foldl (resolveStep true) start =
      resolveStep true (found.reverse.foldl (resolveStep true) start) part := by
  by_cases stays : part = "" ∨ part = "."
  · rw [resolveStep_stays absolute found stays, resolveStep_stays true _ stays]
  · by_cases up : part = ".."
    · subst up
      cases settled with
      | up count free =>
        cases count with
        | zero =>
          cases absolute with
          | true => rw [atRoot rfl]; rfl
          | false => rfl
        | succ count =>
          have stacked : resolveStep absolute (List.replicate (count + 1) "..") ".." =
              ".." :: List.replicate (count + 1) ".." := rfl
          rw [stacked, reverse_cons, foldl_concat]
      | name valid _ =>
        rw [resolveStep_back _ _ valid, reverse_cons, foldl_concat, resolveStep_name _ _ valid,
          resolveStep_back _ _ valid]
    · have valid := valid_of_moves noSlash stays up
      rw [resolveStep_name _ _ valid, reverse_cons, foldl_concat]

theorem foldl_reverse_foldl {start : List String} (noSlash : ∀ part ∈ parts, '/' ∉ part.toList)
    (atRoot : absolute = true → start = []) :
    (parts.foldl (resolveStep absolute) found).reverse.foldl (resolveStep true) start =
      parts.foldl (resolveStep true) (found.reverse.foldl (resolveStep true) start) := by
  induction parts generalizing found with
  | nil => rfl
  | cons part rest ih =>
    rw [forall_mem_cons] at noSlash
    rw [foldl_cons, ih (settled.step noSlash.1) noSlash.2,
      settled.foldl_reverse_step noSlash.1 atRoot, foldl_cons]

end Settled

theorem settled_resolved (path : String) : Settled (isAbsolute path) (resolved path).reverse := by
  rw [resolved, reverse_reverse]
  exact .foldl (.up 0 fun _ => rfl) fun _ => no_slash_of_mem_components

theorem of_mem_resolved (mem : part ∈ resolved path) : part ≠ "" ∧ '/' ∉ part.toList := by
  rcases (settled_resolved path).of_mem (mem_reverse.mpr mem) with rfl | valid
  · decide
  · exact ⟨valid.ne_empty, valid.no_slash⟩

theorem dot_not_mem_resolved (path : String) : "." ∉ resolved path := by
  intro mem
  rcases (settled_resolved path).of_mem (mem_reverse.mpr mem) with isUp | valid
  · exact absurd isUp (by decide)
  · exact valid.ne_dot rfl

variable (current)

theorem located_eq_resolved (path : String) :
    located current path =
      ((startOf current path ++ resolved path).foldl (resolveStep true) []).reverse := by
  rw [located, resolved, foldl_append, foldl_append]
  refine congrArg List.reverse (Eq.symm ?_)
  refine Settled.foldl_reverse_foldl (.up 0 fun _ => rfl)
    (fun _ => no_slash_of_mem_components) fun isAbsolute => ?_
  rw [startOf, isAbsolute]
  rfl

/-! ## Normal forms -/

theorem intercalate_ne_empty (named : parts ≠ []) (notBlank : "" ∉ parts)
    (noSlash : ∀ part ∈ parts, '/' ∉ part.toList) : "/".intercalate parts ≠ "" := by
  intro empty
  have whole := components_intercalate named noSlash
  rw [empty] at whole
  exact notBlank (whole ▸ by decide)

theorem blank_not_mem_resolved (path : String) : "" ∉ resolved path :=
  fun mem => (of_mem_resolved mem).1 rfl

theorem rootOf_of_relative (relative : isAbsolute path = false) : rootOf path = "" := by
  cases chars : path.toList with
  | nil => simp [rootOf, chars]
  | cons c rest =>
    have notSlash : c ≠ '/' := by simpa [isAbsolute, chars] using relative
    simp [rootOf, chars, notSlash]

theorem rootOf_of_absolute (isAbsolute : isAbsolute path = true) :
    rootOf path = "/" ∨ rootOf path = "//" := by
  have some_slash : (path.toList.takeWhile (· == '/')).length ≠ 0 := by
    cases chars : path.toList with
    | nil => simp [Path.isAbsolute, chars] at isAbsolute
    | cons c rest =>
      have slash : c = '/' := by simpa [Path.isAbsolute, chars] using isAbsolute
      simp [slash]
  simp only [rootOf, beq_iff_eq, some_slash, if_false]
  split
  · exact .inr rfl
  · exact .inl rfl

/-- An absolute path has a blank component before its first slash. -/
theorem relative_of_not_mem (notBlank : "" ∉ components path) : isAbsolute path = false := by
  by_contra isAbsolute
  cases chars : path.toList with
  | nil => simp [Path.isAbsolute, chars] at isAbsolute
  | cons c rest =>
    have slash : c = '/' := by simpa [Path.isAbsolute, chars] using isAbsolute
    exact notBlank (by simp [components, chars, slash, Text.splitAt])

theorem normalize_of_relative (relative : isAbsolute path = false) :
    normalize path = if resolved path = [] then "." else "/".intercalate (resolved path) := by
  by_cases unnamed : resolved path = []
  · simp [normalize, rootOf_of_relative relative, unnamed]
  · have text := intercalate_ne_empty unnamed (blank_not_mem_resolved path) fun part mem =>
      (of_mem_resolved mem).2
    simp [normalize, rootOf_of_relative relative, unnamed, text]

theorem components_normalize (relative : isAbsolute path = false) (named : resolved path ≠ []) :
    components (normalize path) = resolved path := by
  rw [normalize_of_relative relative, if_neg named,
    components_intercalate named fun part mem => (of_mem_resolved mem).2]

theorem normalize_of_absolute (isAbsolute : isAbsolute path = true) :
    normalize path = rootOf path ++ "/".intercalate (resolved path) := by
  rcases rootOf_of_absolute isAbsolute with root | root <;> simp [normalize, root]

theorem isAbsolute_normalize (path : String) : isAbsolute (normalize path) = isAbsolute path := by
  cases shape : isAbsolute path with
  | false =>
    by_cases unnamed : resolved path = []
    · rw [normalize_of_relative shape, if_pos unnamed]
      decide
    · refine relative_of_not_mem ?_
      rw [components_normalize shape unnamed]
      exact blank_not_mem_resolved path
  | true =>
    rw [normalize_of_absolute shape]
    rcases rootOf_of_absolute shape with root | root <;> simp [isAbsolute, root]

/-- A normal form has the components that are left of the path. Before them stand only blanks, for
the slashes at the root, or a dot if nothing is left. -/
theorem exists_components_normalize (path : String) :
    ∃ skipped, (∀ part ∈ skipped, part = "" ∨ part = ".") ∧
      components (normalize path) = skipped ++ resolved path := by
  have text : ∃ skipped, (∀ part ∈ skipped, part = "" ∨ part = ".") ∧
      components ("/".intercalate (resolved path)) = skipped ++ resolved path := by
    by_cases unnamed : resolved path = []
    · exact ⟨[""], by simp, by rw [unnamed]; decide⟩
    · exact ⟨[], by simp, components_intercalate unnamed fun part mem => (of_mem_resolved mem).2⟩
  rcases text with ⟨skipped, stays, split⟩
  have slash (rest : String) : components ("/" ++ rest) = "" :: components rest :=
    components_append_slash "" rest
  cases shape : isAbsolute path with
  | false =>
    by_cases unnamed : resolved path = []
    · refine ⟨["."], by simp, ?_⟩
      rw [normalize_of_relative shape, if_pos unnamed, unnamed]
      decide
    · exact ⟨[], by simp, components_normalize shape unnamed⟩
  | true =>
    rw [normalize_of_absolute shape]
    rcases rootOf_of_absolute shape with root | root
    · refine ⟨"" :: skipped, by simpa using stays, ?_⟩
      rw [root, slash, split, cons_append]
    · refine ⟨"" :: "" :: skipped, by simpa using stays, ?_⟩
      have two : "//" = "/" ++ "/" := rfl
      rw [root, two, String.append_assoc, slash, slash, split, cons_append, cons_append]

theorem foldl_resolveStep_stays (absolute : Bool) (found : List String)
    (stays : ∀ part ∈ parts, part = "" ∨ part = ".") :
    parts.foldl (resolveStep absolute) found = found := by
  induction parts with
  | nil => rfl
  | cons part rest ih =>
    rw [forall_mem_cons] at stays
    rw [foldl_cons, resolveStep_stays absolute found stays.1, ih stays.2]

theorem resolved_normalize (path : String) : resolved (normalize path) = resolved path := by
  rcases exists_components_normalize path with ⟨skipped, stays, split⟩
  have again := (settled_resolved path).foldl_reverse
  rw [reverse_reverse] at again
  rw [resolved, isAbsolute_normalize, split, foldl_append, foldl_resolveStep_stays _ _ stays, again,
    reverse_reverse]

/-- From every directory a path and its normal form lead to the same place. -/
theorem located_normalize (path : String) :
    located current (normalize path) = located current path := by
  rw [located_eq_resolved, located_eq_resolved, startOf, isAbsolute_normalize, resolved_normalize,
    startOf]

/-! ## Parents -/

theorem located_append_slash (nonempty : path ≠ "") :
    located current (path ++ "/") = located current path := by
  have parts : components (path ++ "/") = components path ++ [""] := by
    have split := components_append_slash path ""
    rwa [String.append_empty] at split
  have chars : path.toList ≠ [] := by simpa using nonempty
  have start : startOf current (path ++ "/") = startOf current path := by
    simp [startOf, isAbsolute, head?_append_of_ne_nil _ chars]
  rw [located, located, start, parts, ← append_assoc, foldl_concat]
  rfl

theorem located_append_slashes (nonempty : path ≠ "") (count : Nat) :
    located current (path ++ String.ofList (List.replicate count '/')) = located current path := by
  induction count with
  | zero => simp
  | succ count ih =>
    have longer : path ++ String.ofList (List.replicate (count + 1) '/') =
        path ++ String.ofList (List.replicate count '/') ++ "/" := by
      apply String.toList_injective
      simp [replicate_succ']
    rw [longer, located_append_slash current (by simp [nonempty]), ih]

/-- A path with a slash is a name after its head. The head ends in a slash, and the parent of the
path leads to the same place. -/
theorem exists_head (slash : '/' ∈ path.toList) :
    ∃ head name, '/' ∉ name.toList ∧ path = head ++ "/" ++ name ∧
      ∀ current, located current (parent path) = located current (head ++ "/") := by
  -- Seen from its end, the path is a name, a slash and the rest.
  let name := path.toList.reverse.takeWhile (· != '/')
  let rest := path.toList.reverse.dropWhile (· != '/')
  have whole : path.toList = rest.reverse ++ name.reverse := by
    rw [← reverse_append, takeWhile_append_dropWhile, reverse_reverse]
  have restNe : rest ≠ [] := by
    intro empty
    rw [dropWhile_eq_nil_iff] at empty
    simpa using empty '/' (mem_reverse.mpr slash)
  rcases exists_cons_of_ne_nil restNe with ⟨c, others, consEq⟩
  have stops : c = '/' := by
    have first := head?_dropWhile_not (· != '/') path.toList.reverse
    rw [show path.toList.reverse.dropWhile (· != '/') = c :: others from consEq] at first
    simpa using first
  subst stops
  have headEq : String.ofList rest.reverse = String.ofList others.reverse ++ "/" := by
    apply String.toList_injective
    simp [consEq]
  refine ⟨String.ofList others.reverse, String.ofList name.reverse, ?_, ?_, fun current => ?_⟩
  · intro mem
    rw [String.toList_ofList, mem_reverse] at mem
    simpa using mem_takeWhile_imp mem
  · apply String.toList_injective
    simp [whole, consEq]
  · rw [← headEq]
    change located current (if rest.reverse.all (· == '/') then String.ofList rest.reverse else
      String.ofList (rest.reverse.reverse.dropWhile (· == '/')).reverse) = _
    split
    · rfl
    · rename_i notAll
      rw [reverse_reverse]
      have slashes : (rest.takeWhile (· == '/')).reverse =
          List.replicate (rest.takeWhile (· == '/')).length '/' := by
        rw [eq_replicate_iff, length_reverse]
        exact ⟨rfl, fun c mem => by simpa using mem_takeWhile_imp (mem_reverse.mp mem)⟩
      have text : String.ofList rest.reverse =
          String.ofList (rest.dropWhile (· == '/')).reverse ++
            String.ofList (List.replicate (rest.takeWhile (· == '/')).length '/') := by
        rw [← slashes, ← String.ofList_append, ← reverse_append, takeWhile_append_dropWhile]
      have nonempty : String.ofList (rest.dropWhile (· == '/')).reverse ≠ "" := by
        intro empty
        have gone : rest.dropWhile (· == '/') = [] := by
          simpa using congrArg String.toList empty
        rw [dropWhile_eq_nil_iff] at gone
        exact notAll (by simpa using gone)
      rw [text, located_append_slashes current nonempty]

/-- A path with a slash leads to its name in the place of its parent. -/
theorem located_eq_parent_append {before : List String} (slash : '/' ∈ path.toList)
    (parts : components path = before ++ [name]) (named : name ≠ "" ∧ name ≠ "." ∧ name ≠ "..") :
    located current path = located current (parent path) ++ [name] := by
  rcases exists_head slash with ⟨head, last, noSlash, pathEq, parentEq⟩
  have split := components_append_slash head last
  rw [← pathEq, parts, components_name noSlash] at split
  obtain rfl : name = last := singleton_inj.mp (append_inj' split rfl).2
  have valid : ValidName name := ⟨named.1, named.2.1, named.2.2, noSlash⟩
  have joined : path = join (head ++ "/") name := by
    simp [join, not_isAbsolute noSlash, pathEq]
  rw [parentEq, joined, located_join current (by simp) valid]

theorem parent_of_no_slash (bare : '/' ∉ path.toList) : parent path = "" := by
  have rest : path.toList.reverse.dropWhile (· != '/') = [] := by
    rw [dropWhile_eq_nil_iff]
    intro c mem
    simpa using ne_of_mem_of_not_mem (mem_reverse.mp mem) bare
  simp [parent, rest]

/-! ## Ways -/

/-- Components as one relative path. -/
def ofParts (parts : List String) : String :=
  if parts.isEmpty then "." else "/".intercalate parts

/-- The way from one place to another: steps up to where the two part, and the names from there. -/
inductive Way (start goal : List String) : String → Prop
  | intro {shared up down : List String} (startEq : start = shared ++ up)
      (goalEq : goal = shared ++ down)
      (apart : ∀ name, up.head? = some name → down.head? ≠ some name) :
      Way start goal (ofParts (List.replicate up.length ".." ++ down))

theorem exists_dropCommon (start goal : List String) :
    ∃ shared, start = shared ++ (dropCommon start goal).1 ∧
      goal = shared ++ (dropCommon start goal).2 ∧
      ∀ name, (dropCommon start goal).1.head? = some name →
        (dropCommon start goal).2.head? ≠ some name := by
  fun_induction dropCommon start goal with
  | case1 a as b bs same ih =>
    obtain rfl := eq_of_beq same
    rcases ih with ⟨shared, startEq, goalEq, apart⟩
    exact ⟨a :: shared, congrArg (a :: ·) startEq, congrArg (a :: ·) goalEq, apart⟩
  | case2 a as b bs differ =>
    refine ⟨[], rfl, rfl, fun name first second => differ ?_⟩
    simp_all
  | case3 as bs notBoth =>
    refine ⟨[], rfl, rfl, fun name first second => ?_⟩
    rcases as with _ | ⟨a, as⟩
    · simp at first
    · rcases bs with _ | ⟨b, bs⟩
      · simp at second
      · exact notBoth a as b bs rfl rfl

theorem exists_way {start : String} (nonempty : path ≠ "") :
    ∃ way, Way (located current start) (located current path) way ∧
      relativeTo? current path start = some way := by
  rcases exists_dropCommon (located current start) (located current path) with
    ⟨shared, startEq, goalEq, apart⟩
  refine ⟨_, .intro startEq goalEq apart, ?_⟩
  simp [relativeTo?, nonempty, ofParts]

theorem foldl_resolveStep_names (absolute : Bool) (found : List String)
    (valid : ∀ name ∈ parts, ValidName name) :
    parts.foldl (resolveStep absolute) found = parts.reverse ++ found := by
  induction parts generalizing found with
  | nil => rfl
  | cons name rest ih =>
    rw [forall_mem_cons] at valid
    simp [resolveStep_name _ _ valid.1, ih _ valid.2]

variable {current}

theorem located_dot (valid : ∀ name ∈ current, ValidName name) : located current "." = current := by
  have start : startOf current "." = current := rfl
  have parts : components "." = ["."] := by decide
  rw [located, start, parts, foldl_concat, foldl_resolveStep_names _ _ valid,
    resolveStep_stays _ _ (.inr rfl), append_nil, reverse_reverse]

theorem isAbsolute_ofParts (notBlank : "" ∉ parts) (noSlash : ∀ part ∈ parts, '/' ∉ part.toList) :
    isAbsolute (ofParts parts) = false := by
  unfold ofParts
  split
  · decide
  · rename_i named
    refine relative_of_not_mem ?_
    rwa [components_intercalate (by simpa using named) noSlash]

/-- Parts in normal form stay as they are. -/
theorem resolved_ofParts (settled : Settled false parts.reverse) :
    resolved (ofParts parts) = parts := by
  have shape (part : String) (mem : part ∈ parts) : part ≠ "" ∧ '/' ∉ part.toList := by
    rcases settled.of_mem (mem_reverse.mpr mem) with rfl | valid
    · decide
    · exact ⟨valid.ne_empty, valid.no_slash⟩
  by_cases named : parts = []
  · subst named
    decide +kernel
  · have split := components_intercalate named fun part mem => (shape part mem).2
    have relative := isAbsolute_ofParts (fun mem => (shape "" mem).1 rfl) fun part mem =>
      (shape part mem).2
    have text : ofParts parts = "/".intercalate parts := by simp [ofParts, named]
    have again := settled.foldl_reverse
    rw [reverse_reverse] at again
    rw [resolved, relative, text, split, again, reverse_reverse]

namespace Way

variable {start goal : List String} {way : String}

theorem settled_parts {up down : List String} (valid : ∀ name ∈ down, ValidName name) :
    Settled false (List.replicate up.length ".." ++ down).reverse := by
  induction down using reverseRecOn with
  | nil => simpa using .up up.length (by simp)
  | append_singleton before name ih =>
    rw [← append_assoc, reverse_concat']
    exact .name (valid name (by simp)) (ih fun other mem => valid other (by simp [mem]))

theorem resolved_eq {up down : List String} (valid : ∀ name ∈ down, ValidName name) :
    resolved (ofParts (List.replicate up.length ".." ++ down)) =
      List.replicate up.length ".." ++ down :=
  resolved_ofParts (settled_parts valid)

theorem isAbsolute_eq (leads : Way start goal way) (valid : ∀ name ∈ goal, ValidName name) :
    isAbsolute way = false := by
  rcases leads with @⟨shared, up, down, startEq, goalEq, apart⟩
  have resolvedEq := @resolved_eq up down fun name mem => valid name (by simp [goalEq, mem])
  refine isAbsolute_ofParts ?_ ?_
  · rw [← resolvedEq]
    exact blank_not_mem_resolved _
  · intro part mem
    rw [← resolvedEq] at mem
    exact (of_mem_resolved mem).2

/-- A way is in its normal form. -/
theorem normalize_eq (leads : Way start goal way) (valid : ∀ name ∈ goal, ValidName name) :
    normalize way = way := by
  have relative := leads.isAbsolute_eq valid
  rcases leads with @⟨shared, up, down, startEq, goalEq, apart⟩
  rw [normalize_of_relative relative,
    resolved_eq fun name mem => valid name (by simp [goalEq, mem])]
  simp [ofParts]

theorem foldl_back (valid : ∀ name ∈ parts, ValidName name) (found : List String) :
    (replicate parts.length "..").foldl (resolveStep true) (parts.reverse ++ found) = found := by
  induction parts using reverseRecOn with
  | nil => rfl
  | append_singleton before name ih =>
    have last := valid name (by simp)
    rw [length_append, length_singleton, replicate_succ, foldl_cons, reverse_concat', cons_append,
      resolveStep_back _ _ last]
    exact ih fun other mem => valid other (by simp [mem])

/-- Whoever goes the way gets there. -/
theorem located_eq (leads : Way current goal way) (here : ∀ name ∈ current, ValidName name)
    (valid : ∀ name ∈ goal, ValidName name) : located current way = goal := by
  have relative := leads.isAbsolute_eq valid
  rcases leads with @⟨shared, up, down, startEq, goalEq, apart⟩
  subst startEq goalEq
  rw [forall_mem_append] at here valid
  have start : startOf (shared ++ up) (ofParts (List.replicate up.length ".." ++ down)) =
      shared ++ up := by
    rw [startOf, relative]
    rfl
  rw [located_eq_resolved, start, resolved_eq valid.2]
  -- The steps up undo the names that the two places do not share.
  simp only [foldl_append, foldl_resolveStep_names _ _ here.1, foldl_resolveStep_names _ _ here.2,
    foldl_back here.2, foldl_resolveStep_names _ _ valid.2]
  simp

end Way

end ErpLens.Files.Path
