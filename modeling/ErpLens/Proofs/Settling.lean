import ErpLens.Accounts.Template.Order
import ErpLens.Proofs.Fields
import Mathlib.Data.List.Nodup
import Mathlib.Data.List.Perm.Subperm

/-!
# Settling codes after their dependencies

`Graph.settle` counts down the dependencies that are not settled; `Settles` says without counts and
queue what it gives. `Underway` is the invariant of the counting.
-/

open List

namespace ErpLens.Accounts.Template.Graph

/-! ## Counting down -/

namespace Waiting

/-- How many dependencies of a code are not settled. -/
def remaining (waiting : Waiting) (code : String) : Nat :=
  (waiting.lookup code).getD 0

theorem remaining_cons (key code : String) (count : Nat) (rest : Waiting) :
    remaining ((key, count) :: rest) code = if code = key then count else remaining rest code := by
  rw [remaining, lookup_cons_ite]
  split <;> rfl

theorem remaining_map {known : List String} (count : String → Nat) {code : String}
    (code_mem : code ∈ known) : remaining (known.map fun code => (code, count code)) code =
      count code := by
  induction known with
  | nil => simp at code_mem
  | cons first rest ih =>
    rw [map_cons, remaining_cons]
    by_cases codeEq : code = first
    · rw [if_pos codeEq, codeEq]
    · rw [if_neg codeEq, ih ((mem_cons.mp code_mem).resolve_left codeEq)]

theorem remaining_release (waiting : Waiting) (released code : String) :
    remaining (release released waiting).1 code =
      if code = released then waiting.remaining code - 1 else waiting.remaining code := by
  induction waiting with
  | nil => simp [release, remaining]
  | cons entry rest ih =>
    rcases entry with ⟨key, count⟩
    by_cases keyEq : key = released
    · by_cases codeEq : code = released <;> simp [release, remaining_cons, keyEq, codeEq]
    · by_cases codeEq : code = key
      · have codeNe : code ≠ released := codeEq ▸ keyEq
        simp [release, remaining_cons, keyEq, codeEq]
      · simp [release, remaining_cons, keyEq, codeEq, ih]

theorem ready_release (waiting : Waiting) (released : String) :
    (release released waiting).2 = if waiting.remaining released = 1 then [released] else [] := by
  induction waiting with
  | nil => simp [release, remaining]
  | cons entry rest ih =>
    rcases entry with ⟨key, count⟩
    by_cases keyEq : key = released
    · simp [release, remaining_cons, keyEq]
    · simp [release, remaining_cons, keyEq, Ne.symm keyEq, ih]

/-- Several codes released one after the other. -/
def releaseAll (waiting : Waiting) : List String → Waiting × List String
  | [] => (waiting, [])
  | code :: rest =>
    let next := releaseAll (release code waiting).1 rest
    (next.1, (release code waiting).2 ++ next.2)

variable (codes : List String) (waiting : Waiting)

include waiting

theorem foldl_release (ready : List String) :
    codes.foldl (fun (waiting, ready) code =>
        let (waiting, more) := release code waiting
        (waiting, ready ++ more)) (waiting, ready) =
      ((waiting.releaseAll codes).1, ready ++ (waiting.releaseAll codes).2) := by
  induction codes generalizing waiting ready with
  | nil => simp [releaseAll]
  | cons code rest ih => simp [ih, releaseAll]

theorem remaining_releaseAll (code : String) :
    remaining (waiting.releaseAll codes).1 code = waiting.remaining code - codes.count code := by
  induction codes generalizing waiting with
  | nil => simp [releaseAll]
  | cons released rest ih =>
    simp only [releaseAll, ih, remaining_release, count_cons]
    by_cases codeEq : code = released
    · simp only [codeEq, if_true, beq_self_eq_true]
      omega
    · simp [codeEq, Ne.symm codeEq]

theorem mem_ready_releaseAll (code : String) :
    code ∈ (waiting.releaseAll codes).2 ↔
      0 < waiting.remaining code ∧ waiting.remaining code ≤ codes.count code := by
  induction codes generalizing waiting with
  | nil =>
    simp only [releaseAll, not_mem_nil, count_nil, false_iff]
    omega
  | cons released rest ih =>
    simp only [releaseAll, mem_append, ready_release, ih, remaining_release, count_cons]
    by_cases codeEq : code = released
    · subst codeEq
      by_cases last : waiting.remaining code = 1
      · simp [last]
      · simp only [last, if_false, not_mem_nil, false_or, if_true, beq_self_eq_true]
        omega
    · have notReady : code ∉ if waiting.remaining released = 1 then [released] else [] := by
        split <;> simp [codeEq]
      simp [notReady, codeEq, Ne.symm codeEq]

theorem nodup_ready_releaseAll :
    (waiting.releaseAll codes).2.Nodup := by
  induction codes generalizing waiting with
  | nil => simp [releaseAll]
  | cons released rest ih =>
    simp only [releaseAll, ready_release]
    by_cases last : waiting.remaining released = 1
    · -- Its count is nought from here on, so it does not become ready again.
      have notAgain : released ∉ ((release released waiting).1.releaseAll rest).2 := by
        simp [mem_ready_releaseAll, remaining_release, last]
      simpa [last, notAgain] using ih _
    · simpa [last] using ih _

end Waiting

variable {graph : Graph} {known settled queue : List String} {waiting : Waiting}

theorem settleFrom_cons (fuel : Nat) (current : String) :
    graph.settleFrom known (fuel + 1) waiting (current :: queue) =
      current :: graph.settleFrom known fuel (waiting.releaseAll (graph.dependents known current)).1
        (queue ++ (waiting.releaseAll (graph.dependents known current)).2) := by
  simp [settleFrom, Waiting.foldl_release]

theorem count_flatMap_replicate (codes : List String) (nodup : codes.Nodup)
    (dependencies : String → List String) (target code : String) :
    (codes.flatMap fun code => ((dependencies code).filter (· == target)).map fun _ => code).count
      code = if code ∈ codes then (dependencies code).count target else 0 := by
  induction codes with
  | nil => simp
  | cons first rest ih =>
    rcases nodup_cons.mp nodup with ⟨fresh, restNodup⟩
    rw [flatMap_cons, count_append, ih restNodup, map_const', count_replicate,
      ← countP_eq_length_filter]
    by_cases codeEq : code = first
    · simp [codeEq, fresh, List.count]
    · simp [codeEq, Ne.symm codeEq]

theorem count_dependents (graph : Graph) (nodup : known.Nodup) (target code : String) :
    (graph.dependents known target).count code =
      if code ∈ known then (graph.within known code).count target else 0 :=
  count_flatMap_replicate known nodup (graph.within known) target code

/-! ## The invariant -/

/-- The dependencies of a code that are not settled. -/
def unsettled (graph : Graph) (known settled : List String) (code : String) : List String :=
  (graph.within known code).filter (· ∉ settled)

theorem length_unsettled_concat {current : String} (fresh : current ∉ settled) (code : String) :
    (graph.unsettled known (settled ++ [current]) code).length =
      (graph.unsettled known settled code).length - (graph.within known code).count current := by
  have without : graph.unsettled known (settled ++ [current]) code =
      (graph.unsettled known settled code).filter (!· == current) := by
    rw [unsettled, unsettled, filter_filter]
    refine filter_congr fun target _ => ?_
    by_cases targetEq : target = current <;> simp [targetEq]
  have among : (graph.unsettled known settled code).count current =
      (graph.within known code).count current := count_filter (by simpa using fresh)
  have parts := length_eq_length_filter_add (l := graph.unsettled known settled code)
    (· == current)
  rw [← among, List.count, countP_eq_length_filter, without]
  omega

/-- Where the work stands: the codes settled so far, the counts and the queue fit together. -/
structure Underway (graph : Graph) (known settled : List String) (waiting : Waiting)
    (queue : List String) : Prop where
  nodup : (settled ++ queue).Nodup
  remaining : ∀ code ∈ known,
    waiting.remaining code = (graph.unsettled known settled code).length
  ready : ∀ code, code ∈ settled ++ queue ↔ code ∈ known ∧ waiting.remaining code = 0

namespace Underway

theorem start (nodup : known.Nodup) :
    graph.Underway known [] (known.map fun code => (code, (graph.within known code).length))
      (((known.map fun code => (code, (graph.within known code).length)).filter
        fun (_, count) => count = 0).map Prod.fst) := by
  refine ⟨?_, ?_, ?_⟩
  · simpa [filter_map, Function.comp_def] using nodup.filter _
  · intro code code_mem
    rw [Waiting.remaining_map _ code_mem]
    simp [unsettled]
  · intro code
    simp only [filter_map, map_map, nil_append, mem_map, mem_filter,
      Function.comp_apply, decide_eq_true_eq, exists_eq_right]
    exact and_congr_right fun code_mem => by rw [Waiting.remaining_map _ code_mem]

theorem fresh {current : String}
    (underway : graph.Underway known settled waiting (current :: queue)) : current ∉ settled := by
  intro again
  exact (nodup_append.mp underway.nodup).2.2 current again current (by simp) rfl

theorem step {current : String} (nodup : known.Nodup)
    (underway : graph.Underway known settled waiting (current :: queue)) :
    graph.Underway known (settled ++ [current])
      (waiting.releaseAll (graph.dependents known current)).1
      (queue ++ (waiting.releaseAll (graph.dependents known current)).2) := by
  refine ⟨?_, ?_, ?_⟩
  · rw [← append_assoc]
    refine Nodup.append ?_ (Waiting.nodup_ready_releaseAll _ _) ?_
    · simpa using underway.nodup
    · intro code done isReady
      have isZero := ((underway.ready code).mp (by simpa using done)).2
      have notZero := ((Waiting.mem_ready_releaseAll _ _ _).mp isReady).1
      omega
  · intro code code_mem
    rw [Waiting.remaining_releaseAll, count_dependents graph nodup, if_pos code_mem,
      underway.remaining code code_mem, length_unsettled_concat underway.fresh]
  · intro code
    have before := underway.ready code
    have count := count_dependents graph nodup current code
    have split_mem : code ∈ settled ++ [current] ++
          (queue ++ (waiting.releaseAll (graph.dependents known current)).2) ↔
        code ∈ settled ++ current :: queue ∨
          code ∈ (waiting.releaseAll (graph.dependents known current)).2 := by
      simp only [mem_append, mem_cons, not_mem_nil, or_false, or_assoc]
    rw [split_mem, before, Waiting.mem_ready_releaseAll, Waiting.remaining_releaseAll]
    by_cases code_mem : code ∈ known
    · simp only [code_mem, true_and]
      omega
    · rw [count, if_neg code_mem]
      simp only [code_mem, false_and, false_or, iff_false]
      omega

end Underway

/-! ## The order -/

/-- Codes that can be settled after some others in their order, until no more can be. -/
inductive Settles (graph : Graph) (known : List String) : List String → List String → Prop where
  | stop {settled : List String} (closed : ∀ code ∈ known,
      graph.within known code ⊆ settled → code ∈ settled) : Settles graph known settled []
  | next {settled rest : List String} {current : String} (isKnown : current ∈ known)
      (fresh : current ∉ settled) (after : graph.within known current ⊆ settled)
      (later : Settles graph known (settled ++ [current]) rest) :
      Settles graph known settled (current :: rest)

namespace Underway

theorem within_subset_iff (underway : graph.Underway known settled waiting queue)
    {code : String} (code_mem : code ∈ known) :
    graph.within known code ⊆ settled ↔ waiting.remaining code = 0 := by
  simp [underway.remaining code code_mem, unsettled, filter_eq_nil_iff, subset_def]

theorem settles_nil (underway : graph.Underway known settled waiting []) :
    graph.Settles known settled [] := by
  refine .stop fun code code_mem after => ?_
  simpa using (underway.ready code).mpr ⟨code_mem, (underway.within_subset_iff code_mem).mp after⟩

theorem settles (nodup : known.Nodup) (fuel : Nat)
    (underway : graph.Underway known settled waiting queue)
    (room : known.length ≤ fuel + settled.length) :
    graph.Settles known settled (graph.settleFrom known fuel waiting queue) := by
  induction fuel generalizing settled waiting queue with
  | zero =>
    -- All known codes are settled, so the queue is empty and the bound does no harm.
    have allKnown : settled ++ queue ⊆ known := fun code code_mem =>
      ((underway.ready code).mp code_mem).1
    have bounded := (underway.nodup.subperm allKnown).length_le
    rw [length_append] at bounded
    obtain rfl : queue = [] := length_eq_zero_iff.mp (by omega)
    exact underway.settles_nil
  | succ fuel ih =>
    cases queue with
    | nil => exact underway.settles_nil
    | cons current queue =>
      rw [settleFrom_cons]
      obtain ⟨isKnown, isZero⟩ := (underway.ready current).mp (by simp)
      refine .next isKnown underway.fresh ((underway.within_subset_iff isKnown).mpr isZero) ?_
      refine ih (underway.step nodup) ?_
      simp only [length_append, length_singleton]
      omega

end Underway

/-- What is settled has each code after its dependencies, and lacks none that could follow. -/
theorem settles_settle (graph : Graph) (nodup : known.Nodup) :
    graph.Settles known [] (graph.settle known) :=
  (Underway.start nodup).settles nodup known.length (by simp)

namespace Settles

variable {rest : List String}

section

variable (settles : graph.Settles known settled rest)

include settles

theorem subset : rest ⊆ known := by
  induction settles with
  | stop _ => exact nil_subset _
  | next isKnown _ _ _ ih => exact cons_subset.mpr ⟨isKnown, ih⟩

theorem disjoint : settled.Disjoint rest := by
  induction settles with
  | stop _ => simp
  | next _ fresh _ _ ih =>
    rw [disjoint_append_left] at ih
    exact disjoint_cons_right.mpr ⟨fresh, ih.1⟩

theorem nodup : rest.Nodup := by
  induction settles with
  | stop _ => exact nodup_nil
  | next _ _ _ later ih =>
    refine nodup_cons.mpr ⟨fun again => later.disjoint (by simp) again, ih⟩

theorem not_mem_within {code : String}
    (code_mem : code ∈ rest) : code ∉ graph.within known code := by
  induction settles with
  | stop _ => simp at code_mem
  | next _ fresh after _ ih =>
    rcases mem_cons.mp code_mem with rfl | inRest
    · exact fun onItself => fresh (after onItself)
    · exact ih inRest

theorem pairwise :
    rest.Pairwise fun earlier later => later ∉ graph.within known earlier := by
  induction settles with
  | stop _ => exact Pairwise.nil
  | next _ _ after later ih =>
    refine pairwise_cons.mpr ⟨fun code code_mem depends => ?_, ih⟩
    exact later.disjoint (mem_append_left _ (after depends)) code_mem

theorem closed {code : String} (code_mem : code ∈ known)
    (after : graph.within known code ⊆ settled ++ rest) :
    code ∈ settled ++ rest := by
  induction settles with
  | stop closed => simpa using closed code code_mem (by simpa using after)
  | next _ _ _ _ ih => simpa using ih (by simpa using after)

end

/-- If going from codes to their dependencies comes to an end, every known code is settled. -/
theorem complete (settles : graph.Settles known [] rest)
    (grounded : WellFounded fun target code => target ∈ graph.next code) {code : String}
    (code_mem : code ∈ known) : code ∈ rest := by
  induction code using grounded.induction with
  | _ code ih =>
    refine settles.closed code_mem fun target isTarget => ?_
    rcases mem_filter.mp isTarget with ⟨isNext, isKnown⟩
    exact ih target isNext (of_decide_eq_true isKnown)

end Settles

end ErpLens.Accounts.Template.Graph
