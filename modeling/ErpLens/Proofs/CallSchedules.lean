import ErpLens.Proofs.Outcomes
import ErpLens.Telephony.CallSchedule
import Mathlib

/-!
# Disjoint rows of call schedules

That a span stops before another one starts goes on from neighbour to neighbour, since the spans
between are not empty. So neighbours that do not overlap leave no two spans that do.
-/

open List

namespace ErpLens.Telephony

variable {first second : Nat × Nat}

/-! ## Sorted spans -/

/-- The spans have no time in common; a span does not hold the time at which it stops. -/
def Apart (first second : Nat × Nat) : Prop :=
  Disjoint (Set.Ico first.1 first.2) (Set.Ico second.1 second.2)

/-- A span is over before another one, which is not empty, starts. -/
def Precedes (first second : Nat × Nat) : Prop :=
  first.2 ≤ second.1 ∧ second.1 < second.2

instance : Trans Precedes Precedes Precedes where
  trans := by
    rintro first second third ⟨firstStops, secondIsProper⟩ ⟨secondStops, thirdIsProper⟩
    exact ⟨by omega, thirdIsProper⟩

theorem Apart.symm (apart : Apart first second) : Apart second first :=
  Disjoint.symm apart

theorem apart_iff (firstIsProper : first.1 < first.2) (secondIsProper : second.1 < second.2) :
    Apart first second ↔ first.2 ≤ second.1 ∨ second.2 ≤ first.1 := by
  rw [Apart, Set.Ico_disjoint_Ico]
  omega

theorem spanAtMost_iff :
    spanAtMost first second = true ↔
      first.1 < second.1 ∨ first.1 = second.1 ∧ first.2 ≤ second.2 := by
  simp [spanAtMost]

theorem pairwise_mergeSort_spanAtMost (spans : List (Nat × Nat)) :
    (spans.mergeSort spanAtMost).Pairwise fun first second => spanAtMost first second = true := by
  apply pairwise_mergeSort
  · intro first second third
    simp only [spanAtMost_iff]
    omega
  · intro first second
    simp only [Bool.or_eq_true, spanAtMost_iff]
    omega

/-- The comparison of neighbours: the second alternative that it has cannot come true, since the
second span starts no earlier than the first. -/
theorem overlap_eq_false_iff (sorted : spanAtMost first second = true)
    (firstIsProper : first.1 < first.2) (secondIsProper : second.1 < second.2) :
    overlap first second = false ↔ Precedes first second := by
  rw [spanAtMost_iff] at sorted
  simp only [overlap, Precedes, Bool.not_eq_false', Bool.or_eq_true, Bool.and_eq_true,
    decide_eq_true_eq]
  omega

theorem precedes_iff_apart (sorted : spanAtMost first second = true)
    (firstIsProper : first.1 < first.2) (secondIsProper : second.1 < second.2) :
    Precedes first second ↔ Apart first second := by
  rw [spanAtMost_iff] at sorted
  rw [apart_iff firstIsProper secondIsProper, Precedes]
  omega

theorem neighboursOverlap_eq_false_iff {spans : List (Nat × Nat)}
    (sorted : spans.Pairwise fun first second => spanAtMost first second = true)
    (proper : ∀ span ∈ spans, span.1 < span.2) :
    neighboursOverlap spans = false ↔ spans.IsChain Precedes := by
  fun_induction neighboursOverlap spans with
  | case1 first second rest ih =>
    rw [pairwise_cons] at sorted
    rw [forall_mem_cons] at proper
    rw [Bool.or_eq_false_iff, isChain_cons_cons, ih sorted.2 proper.2]
    apply and_congr_left
    intro _
    exact overlap_eq_false_iff (sorted.1 second mem_cons_self) proper.1
      (proper.2 second mem_cons_self)
  | case2 spans notTwo =>
    rcases spans with _ | ⟨only, _ | ⟨second, rest⟩⟩
    · simp
    · simp
    · exact (notTwo only second rest rfl).elim

theorem sortedNeighboursOverlap_eq_false_iff {spans : List (Nat × Nat)}
    (proper : ∀ span ∈ spans, span.1 < span.2) :
    neighboursOverlap (spans.mergeSort spanAtMost) = false ↔ spans.Pairwise Apart := by
  have sorted := pairwise_mergeSort_spanAtMost spans
  have perm := spans.mergeSort_perm spanAtMost
  have sortedProper : ∀ span ∈ spans.mergeSort spanAtMost, span.1 < span.2 := by
    intro span spanMem
    exact proper span (perm.mem_iff.mp spanMem)
  calc neighboursOverlap (spans.mergeSort spanAtMost) = false
      ↔ (spans.mergeSort spanAtMost).Pairwise Precedes := by
        rw [neighboursOverlap_eq_false_iff sorted sortedProper, isChain_iff_pairwise]
    _ ↔ (spans.mergeSort spanAtMost).Pairwise Apart := by
        constructor
        · intro precedes
          apply (sorted.and precedes).imp_of_mem
          intro first second firstMem secondMem both
          exact (precedes_iff_apart both.1 (sortedProper first firstMem)
            (sortedProper second secondMem)).mp both.2
        · intro apart
          apply (sorted.and apart).imp_of_mem
          intro first second firstMem secondMem both
          exact (precedes_iff_apart both.1 (sortedProper first firstMem)
            (sortedProper second secondMem)).mpr both.2
    _ ↔ spans.Pairwise Apart := perm.pairwise_iff Apart.symm

/-! ## The two checks -/

section Checks

variable {schedule : List CallSlot} {spanOf : CallSlot → Nat × Nat}

theorem checkTimes_eq_ok_iff (valid : ∀ slot ∈ schedule, slot.span = .ok (spanOf slot)) :
    checkTimes schedule = .ok () ↔ ∀ slot ∈ schedule, (spanOf slot).1 < (spanOf slot).2 := by
  have rows : schedule.zip (schedule.map spanOf) = schedule.map fun slot => (slot, spanOf slot) :=
    map_prod_left_eq_zip.symm
  have noReversed : ((schedule.map fun slot => (slot, spanOf slot)).filter fun row =>
      row.2.2 ≤ row.2.1) = [] ↔ ∀ slot ∈ schedule, (spanOf slot).1 < (spanOf slot).2 := by
    simp [filter_eq_nil_iff]
  rw [checkTimes, mapM_eq_ok valid, ok_bind, rows, ← noReversed]
  split
  · simp_all [pure, Except.pure]
  · simp_all [throw, throwThe, MonadExceptOf.throw]

theorem checkOverlaps_eq_ok_iff (valid : ∀ slot ∈ schedule, slot.span = .ok (spanOf slot)) :
    checkOverlaps schedule = .ok () ↔ ∀ day ∈ schedule.map CallSlot.day,
      neighboursOverlap (((schedule.filter (·.day == day)).map spanOf).mergeSort spanAtMost) =
        false := by
  have spans (day : String) : daySpans day schedule =
      .ok (((schedule.filter (·.day == day)).map spanOf).mergeSort spanAtMost) := by
    rw [daySpans, mapM_eq_ok fun slot slotMem => valid slot (mem_of_mem_filter slotMem)]
    rfl
  rw [checkOverlaps, forM_eq_forM, forM_eq_ok_iff]
  simp only [mem_eraseDups]
  apply forall₂_congr
  intro day _
  rw [spans, ok_bind]
  split <;> simp_all [pure, Except.pure, throw, throwThe, MonadExceptOf.throw]

theorem pairwise_sameDay_iff (relation : CallSlot → CallSlot → Prop) :
    (∀ day ∈ schedule.map CallSlot.day, (schedule.filter (·.day == day)).Pairwise relation) ↔
      schedule.Pairwise fun first second => first.day = second.day → relation first second := by
  constructor
  · intro byDay
    rw [pairwise_iff_forall_sublist]
    intro first second both sameDay
    have firstMem : first ∈ schedule := both.subset mem_cons_self
    have pairs := byDay first.day (mem_map_of_mem firstMem)
    rw [pairwise_filter, pairwise_iff_forall_sublist] at pairs
    exact pairs both (by simp) (by simp [sameDay])
  · intro pairs day _
    rw [pairwise_filter]
    apply pairs.imp
    intro first second related firstDay secondDay
    rw [beq_iff_eq] at firstDay secondDay
    exact related (firstDay.trans secondDay.symm)

end Checks

theorem checkSchedule_eq_ok_iff {schedule : List CallSlot} :
    checkSchedule schedule = .ok () ↔
      checkTimes schedule = .ok () ∧ checkOverlaps schedule = .ok () := by
  rw [checkSchedule]
  cases checkTimes schedule with
  | error fault => simp [bind, Except.bind]
  | ok _ => simp [ok_bind]

/-- A schedule passes if both checks do. For every schedule whose times can be read they do exactly
if each row starts before it stops and any two rows of the same day are apart; one may start when
the other stops. Of spans that start before they stop, sorted neighbours overlap exactly if some two
of them do. -/
theorem checks_pass_iff_rows_apart {schedule : List CallSlot} {spanOf : CallSlot → Nat × Nat}
    (valid : ∀ slot ∈ schedule, slot.span = .ok (spanOf slot)) :
    (checkSchedule schedule = .ok () ↔
      checkTimes schedule = .ok () ∧ checkOverlaps schedule = .ok ()) ∧
    (checkTimes schedule = .ok () ∧ checkOverlaps schedule = .ok () ↔
      (∀ slot ∈ schedule, (spanOf slot).1 < (spanOf slot).2) ∧
        schedule.Pairwise fun first second => first.day = second.day →
          Disjoint (Set.Ico (spanOf first).1 (spanOf first).2)
            (Set.Ico (spanOf second).1 (spanOf second).2)) ∧
      ∀ spans : List (Nat × Nat), (∀ span ∈ spans, span.1 < span.2) →
        (neighboursOverlap (spans.mergeSort spanAtMost) = true ↔
          ¬ spans.Pairwise fun first second =>
            Disjoint (Set.Ico first.1 first.2) (Set.Ico second.1 second.2)) := by
  refine ⟨checkSchedule_eq_ok_iff, ?_, ?_⟩
  · rw [checkTimes_eq_ok_iff valid, checkOverlaps_eq_ok_iff valid]
    apply and_congr_right
    intro proper
    rw [← pairwise_sameDay_iff]
    apply forall₂_congr
    intro day _
    rw [sortedNeighboursOverlap_eq_false_iff, List.pairwise_map]
    · rfl
    · intro span spanMem
      rcases List.mem_map.mp spanMem with ⟨slot, slotMem, rfl⟩
      exact proper slot (List.mem_of_mem_filter slotMem)
  · intro spans proper
    rw [← Bool.not_eq_false, sortedNeighboursOverlap_eq_false_iff proper]
    rfl

/-- Two rows of a day that touch, the later one first, and a row of another day. -/
def officeHours : List CallSlot :=
  [⟨1, "Monday", "13:00:00", "17:30:00"⟩, ⟨2, "Monday", "9:00:00", "13:00:00"⟩,
    ⟨3, "Tuesday", "9:00:00", "17:30:00"⟩]

theorem checks_pass_for_officeHours :
    checkTimes officeHours = .ok () ∧ checkOverlaps officeHours = .ok () := by
  have valid : ∀ slot ∈ officeHours,
      slot.span = .ok ((slot.span.toOption).getD (0, 0)) := by decide +kernel
  refine (checks_pass_iff_rows_apart valid).2.1.mpr ⟨by decide +kernel, ?_⟩
  simp only [Set.Ico_disjoint_Ico]
  decide +kernel

end ErpLens.Telephony
