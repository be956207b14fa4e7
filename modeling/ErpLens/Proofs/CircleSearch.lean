import ErpLens.Accounts.Template.Circles
import ErpLens.Proofs.Outcomes
import Mathlib.Data.List.Nodup
import Mathlib.Data.List.Perm.Subperm
import Mathlib.Data.List.Chain
import Mathlib.Data.List.TakeWhile
import Mathlib.Logic.Relation
import Mathlib.Order.WellFounded

/-!
# What a search for circles finds

The codes that are entered and not finished are exactly those of the path. So no search stops with a
fault, and every circle that is found is a part of the path followed by a code of it.
-/

open List

namespace ErpLens.Accounts.Template

/-! ## Marks and paths -/

namespace Search

theorem markOf_put (search : Search) (changed code : String) (mark : Mark) :
    (search.put changed mark).markOf code =
      if code = changed then some mark else search.markOf code := by
  by_cases same : code = changed
  · simp [markOf, put, same]
  · simp [markOf, put, lookup_cons, beq_false_of_ne same, same]

@[simp]
theorem circles_put (search : Search) (code : String) (mark : Mark) :
    (search.put code mark).circles = search.circles := rfl

end Search

theorem exists_pathFrom {path : List String} {code : String} (onPath : code ∈ path) :
    ∃ before after, path = before ++ code :: after ∧ pathFrom path code = .ok (code :: after) := by
  have found : path.dropWhile (· != code) ≠ [] := by
    rw [Ne, dropWhile_eq_nil_iff]
    intro all
    simpa using all code onPath
  obtain ⟨first, after, split⟩ := exists_cons_of_ne_nil found
  have isCode : first = code := by
    have stopped := head_dropWhile_not (· != code) found
    simpa [split] using stopped
  subst isCode
  refine ⟨path.takeWhile (· != first), after, ?_, ?_⟩
  · rw [← split, takeWhile_append_dropWhile]
  · rw [pathFrom, split]

/-- A way that follows a relation and comes back to where it started. -/
structure IsClosedPath (relation : String → String → Prop) (way : List String) : Prop where
  isChain : way.IsChain relation
  moves : 2 ≤ way.length
  closed : way.head? = way.getLast?

theorem IsClosedPath.exists_transGen {relation : String → String → Prop} {way : List String}
    (closed : IsClosedPath relation way) : ∃ code, Relation.TransGen relation code code := by
  rcases closed with ⟨isChain, moves, closed⟩
  rcases way with _ | ⟨first, _ | ⟨second, rest⟩⟩
  · simp at moves
  · simp at moves
  · have reached : (first :: second :: rest).Pairwise (Relation.TransGen relation) :=
      (isChain.imp fun _ _ => Relation.TransGen.single).pairwise
    refine ⟨first, ?_⟩
    rw [head?_cons, getLast?_cons_cons] at closed
    exact (pairwise_cons.mp reached).1 first (mem_of_getLast? closed.symm)

namespace Graph

variable {code : String} {path : List String} {search : Search} {depth : Nat}

/-- A code depends on another one. -/
def Edge (graph : Graph) (code target : String) : Prop :=
  target ∈ graph.next code

variable {graph : Graph}

theorem lookup_eq_none_iff_not_mem : graph.lookup code = none ↔ code ∉ graph.map Prod.fst := by
  simp only [lookup_eq_none_iff, mem_map, not_exists, not_and, bne_iff_ne]
  exact ⟨fun absent entry entry_mem same => absent entry entry_mem same.symm,
    fun absent entry entry_mem same => absent entry entry_mem same.symm⟩

theorem mem_keys_of_lookup {targets : List String} (found : graph.lookup code = some targets) :
    code ∈ graph.map Prod.fst := by
  by_contra absent
  simp [lookup_eq_none_iff_not_mem.mpr absent] at found

/-- Going from a code to its dependencies comes to an end. -/
def Grounded (graph : Graph) (code : String) : Prop :=
  Acc (fun target code => target ∈ graph.next code) code

theorem grounded_of_lookup_eq_none (absent : graph.lookup code = none) : graph.Grounded code := by
  refine Acc.intro _ fun target isTarget => ?_
  simp [next, absent] at isTarget

/-! ## One visit -/

/-- What holds of a search while the dependencies of the codes of a path are followed. -/
structure Holds (graph : Graph) (path : List String) (search : Search) : Prop where
  entered : ∀ code, search.markOf code = some .entered ↔ code ∈ path
  genuine : ∀ circle ∈ search.circles, IsClosedPath graph.Edge circle
  grounded : search.circles = [] → ∀ code, search.markOf code = some .finished →
    graph.Grounded code

/-- What following some codes does to a search. -/
structure Follows (graph : Graph) (path codes : List String) (before after : Search) : Prop where
  holds : graph.Holds path after
  circles : after.circles = [] → before.circles = []
  grounded : after.circles = [] → ∀ code ∈ codes, graph.Grounded code

theorem Holds.enter (holds : graph.Holds path search) (code : String) :
    graph.Holds (path ++ [code]) (search.put code .entered) where
  entered other := by
    rw [Search.markOf_put, mem_append, mem_singleton, ← holds.entered]
    by_cases same : other = code
    · simp [same]
    · simp [same]
  genuine := holds.genuine
  grounded clear other := by
    rw [Search.markOf_put]
    split
    · simp
    · exact holds.grounded clear other

theorem Holds.finish (holds : graph.Holds (path ++ [code]) search) (offPath : code ∉ path)
    (grounded : search.circles = [] → graph.Grounded code) :
    graph.Holds path (search.put code .finished) where
  entered other := by
    rw [Search.markOf_put]
    split
    · rename_i same
      simp [same, offPath]
    · rename_i differ
      rw [holds.entered, mem_append, mem_singleton, or_iff_left differ]
  genuine := holds.genuine
  grounded clear other marked := by
    rw [Search.markOf_put] at marked
    split at marked
    · rename_i same
      exact same ▸ grounded clear
    · exact holds.grounded clear other marked

theorem Holds.close (holds : graph.Holds path search) (way : (path ++ [code]).IsChain graph.Edge)
    (entered : search.markOf code = some .entered) :
    ∃ part, pathFrom path code = .ok part ∧
      graph.Holds path { search with circles := search.circles ++ [part ++ [code]] } := by
  rcases exists_pathFrom ((holds.entered code).mp entered) with ⟨before, after, split, found⟩
  refine ⟨code :: after, found, holds.entered, ?_, by simp⟩
  intro circle circleMem
  rcases mem_append.mp circleMem with old | new
  · exact holds.genuine circle old
  · rw [mem_singleton.mp new]
    refine ⟨?_, by simp, by rw [getLast?_concat]; rfl⟩
    rw [split, append_assoc] at way
    exact way.right_of_append

theorem exists_foldlM_follows {codes : List String} {follow : Search → String → Outcome Search}
    (holds : graph.Holds path search) (each : ∀ code ∈ codes, ∀ before, graph.Holds path before →
      ∃ after, follow before code = .ok after ∧ graph.Follows path [code] before after) :
    ∃ after, codes.foldlM follow search = .ok after ∧ graph.Follows path codes search after := by
  refine exists_foldlM (motive := fun done state => graph.Follows path done search state) ?_ ?_
  · exact ⟨holds, id, by simp⟩
  · intro before code later state split follows
    rcases each code (by simp [split]) state follows.holds with ⟨after, followed, step⟩
    refine ⟨after, followed, step.holds, fun clear => follows.circles (step.circles clear), ?_⟩
    intro clear other otherMem
    rcases mem_append.mp otherMem with old | new
    · exact follows.grounded (step.circles clear) other old
    · exact step.grounded clear other new

theorem exists_visit_succ (holds : graph.Holds path search)
    (way : (path ++ [code]).IsChain graph.Edge)
    (deeper : code ∈ graph.map Prod.fst → code ∉ path → ∀ target, graph.Edge code target →
      ∀ before, graph.Holds (path ++ [code]) before →
        ∃ after, graph.visit depth (path ++ [code]) target before = .ok after ∧
          graph.Follows (path ++ [code]) [target] before after) :
    ∃ after, graph.visit (depth + 1) path code search = .ok after ∧
      graph.Follows path [code] search after := by
  cases found : graph.lookup code with
  | none =>
    refine ⟨search, by simp only [visit, found], holds, id, ?_⟩
    simpa using fun _ => grounded_of_lookup_eq_none found
  | some targets =>
    have targetsEq : graph.next code = targets := by simp [next, found]
    cases marked : search.markOf code with
    | some mark =>
      cases mark with
      | entered =>
        rcases holds.close way marked with ⟨part, located, closed⟩
        refine ⟨_, by simp only [visit, found, marked, located]; rfl, closed, ?_, ?_⟩
        · simp
        · simp
      | finished =>
        refine ⟨search, by simp only [visit, found, marked], holds, id, ?_⟩
        simpa using fun clear => holds.grounded clear code marked
    | none =>
      have offPath : code ∉ path := by simp [← holds.entered, marked]
      have each := deeper (mem_keys_of_lookup found) offPath
      simp only [Edge, targetsEq] at each
      rcases exists_foldlM_follows (holds.enter code) each with ⟨followed, ran, follows⟩
      have ends (clear : followed.circles = []) : graph.Grounded code :=
        Acc.intro _ fun target isTarget =>
          follows.grounded clear target (targetsEq ▸ isTarget)
      refine ⟨followed.put code .finished, ?_, follows.holds.finish offPath ends,
        follows.circles, ?_⟩
      · simp only [visit, found, marked, ran]
        rfl
      · simpa using ends

/-- A visit comes to an end without fault if there is room for the rest of the graph. -/
theorem exists_visit (holds : graph.Holds path search) (way : (path ++ [code]).IsChain graph.Edge)
    (nodup : path.Nodup) (keys : path ⊆ graph.map Prod.fst)
    (room : graph.length < depth + path.length) :
    ∃ after, graph.visit depth path code search = .ok after ∧
      graph.Follows path [code] search after := by
  induction depth generalizing path code search with
  | zero =>
    -- A path without repetition is not longer than the graph.
    have bounded := (nodup.subperm keys).length_le
    rw [length_map] at bounded
    omega
  | succ depth ih =>
    apply exists_visit_succ holds way
    intro isKey offPath target isTarget before beforeHolds
    apply ih beforeHolds
    · exact way.append (isChain_singleton _) (by simpa using isTarget)
    · exact nodup.append (by simp) (by simpa using offPath)
    · exact append_subset.mpr ⟨keys, by simpa using isKey⟩
    · rw [length_append, length_singleton]
      omega

/-! ## The depth of a search -/

theorem foldlM_eq_ok_of_imp {first second : Search → String → Outcome Search}
    (agree : ∀ before code after, first before code = .ok after → second before code = .ok after)
    {codes : List String} {before after : Search} (ran : codes.foldlM first before = .ok after) :
    codes.foldlM second before = .ok after := by
  induction codes generalizing before with
  | nil => exact ran
  | cons code rest ih =>
    rw [foldlM_cons] at ran ⊢
    rcases bind_eq_ok.mp ran with ⟨next, stepped, later⟩
    exact bind_eq_ok.mpr ⟨next, agree before code next stepped, ih later⟩

theorem visit_succ_of_eq_ok {after : Search}
    (ran : graph.visit depth path code search = .ok after) :
    graph.visit (depth + 1) path code search = .ok after := by
  induction depth generalizing path code search after with
  | zero => simp [visit] at ran
  | succ depth ih =>
    cases found : graph.lookup code with
    | none => simpa only [visit, found] using ran
    | some targets =>
      cases marked : search.markOf code with
      | some mark => cases mark <;> simpa only [visit, found, marked] using ran
      | none =>
        rw [visit] at ran ⊢
        simp only [found, marked] at ran ⊢
        rcases bind_eq_ok.mp ran with ⟨followed, folded, finished⟩
        refine bind_eq_ok.mpr ⟨followed, ?_, finished⟩
        exact foldlM_eq_ok_of_imp (fun before target after => ih) folded

/-! ## The whole search -/

theorem exists_searchFrom (room : graph.length < depth) (holds : graph.Holds [] search)
    (code : String) :
    ∃ after, graph.searchFrom depth search code = .ok after ∧
      graph.Follows [] [code] search after := by
  cases marked : search.markOf code with
  | none =>
    simp only [searchFrom, marked]
    exact exists_visit holds (isChain_singleton _) nodup_nil (nil_subset _) room
  | some mark =>
    simp only [searchFrom, marked]
    refine ⟨search, rfl, holds, id, ?_⟩
    -- No code is entered while the path is empty.
    cases mark with
    | entered => simpa using (holds.entered code).mp marked
    | finished => simpa using fun clear => holds.grounded clear code marked

theorem exists_searchWithin (room : graph.length < depth) :
    ∃ found, graph.searchWithin depth = .ok found ∧
      graph.Follows [] (graph.map Prod.fst) {} found := by
  have holds : graph.Holds [] {} := ⟨by simp [Search.markOf], by simp, by simp [Search.markOf]⟩
  exact exists_foldlM_follows holds fun code _ before beforeHolds =>
    exists_searchFrom room beforeHolds code

theorem searchFrom_succ_of_eq_ok {after : Search}
    (ran : graph.searchFrom depth search code = .ok after) :
    graph.searchFrom (depth + 1) search code = .ok after := by
  cases marked : search.markOf code with
  | none =>
    simp only [searchFrom, marked] at ran ⊢
    exact visit_succ_of_eq_ok ran
  | some mark => simpa only [searchFrom, marked] using ran

/-- Only what is found matters, and not how deep a search may go. -/
theorem searchWithin_eq_search (room : graph.length < depth) :
    graph.searchWithin depth = graph.search := by
  rcases exists_searchWithin (Nat.lt_succ_self graph.length) with ⟨found, searched, -⟩
  rw [search, searched]
  induction depth, Nat.succ_le_of_lt room using Nat.le_induction with
  | base => exact searched
  | succ depth _ ih =>
    refine foldlM_eq_ok_of_imp (fun before code after => searchFrom_succ_of_eq_ok) (ih ?_)
    omega

/-- The circles that the search reports. -/
def circles (graph : Graph) : List (List String) :=
  (graph.search.toOption.getD {}).circles

/-- The search ends without a fault. -/
theorem exists_search (graph : Graph) :
    ∃ found, graph.search = .ok found ∧ found.circles = graph.circles ∧
      graph.Follows [] (graph.map Prod.fst) {} found := by
  rcases exists_searchWithin (Nat.lt_succ_self graph.length) with ⟨found, searched, follows⟩
  refine ⟨found, searched, ?_, follows⟩
  rw [circles, search, searched]
  rfl

/-- If a search finds no circle, then going from codes to their dependencies comes to an end. -/
theorem wellFounded_next_of_circles_eq_nil (clear : graph.circles = []) :
    WellFounded fun target code => target ∈ graph.next code := by
  rcases exists_search graph with ⟨found, -, foundEq, follows⟩
  refine ⟨fun code => ?_⟩
  by_cases isKey : code ∈ graph.map Prod.fst
  · exact follows.grounded (foundEq.trans clear) code isKey
  · exact grounded_of_lookup_eq_none (lookup_eq_none_iff_not_mem.mpr isKey)

theorem isClosedPath_of_mem_circles {circle : List String} (mem : circle ∈ graph.circles) :
    IsClosedPath graph.Edge circle := by
  rcases exists_search graph with ⟨found, -, foundEq, follows⟩
  exact follows.holds.genuine circle (foundEq ▸ mem)

/-- A search finds a circle exactly if there is one. -/
theorem circles_ne_nil_iff :
    graph.circles ≠ [] ↔ ∃ code, Relation.TransGen graph.Edge code code := by
  constructor
  · intro found
    rcases exists_mem_of_ne_nil _ found with ⟨circle, circleMem⟩
    exact (isClosedPath_of_mem_circles circleMem).exists_transGen
  · rintro ⟨code, around⟩ clear
    have grounded := (wellFounded_next_of_circles_eq_nil clear).transGen
    exact grounded.irrefl.irrefl code (Relation.transGen_swap.mpr around)

end Graph

/-- The check for circles as it comes out without faults. -/
def checkCircles (graph : Graph) : Verdict Issue :=
  { errors := graph.circles.map circleIssue }

end ErpLens.Accounts.Template
