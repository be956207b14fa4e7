import ErpLens.Proofs.CallRecords
import ErpLens.Proofs.Sessions

/-!
# Rankings of callers and callees

Names are counted in a table that keeps them in the order of their first occurrence, and the table
is sorted by a stable sort. Both together fix the ranking.
-/

open List

namespace ErpLens.Value

/-- A limit below zero leaves out as many items at the end. -/
theorem takeTo_eq {α : Type} (limit : Int) (items : List α) :
    takeTo limit items =
      if 0 ≤ limit then items.take limit.toNat else items.rdrop (-limit).toNat := by
  rw [takeTo, bound, List.rdrop]
  split
  · rw [if_neg (by omega)]
    congr 1
    omega
  · rw [if_pos (by omega), take_eq_take_iff]
    omega

end ErpLens.Value

namespace ErpLens.Analysis

open Source

/-! ## Counting -/

variable (names : List String)

theorem eraseDups_concat (name : String) :
    (names ++ [name]).eraseDups =
      if name ∈ names then names.eraseDups else names.eraseDups ++ [name] := by
  rw [eraseDups_append, cons_removeAll, nil_removeAll]
  by_cases known : name ∈ names
  · simp [known]
  · simp [known, eraseDups_cons]

theorem eraseDups_inOrder :
    names.eraseDups.Pairwise fun first second => names.idxOf first < names.idxOf second := by
  induction names using List.reverseRecOn with
  | nil => simp
  | append_singleton rest name ih =>
    have place {other : String} (mem : other ∈ rest.eraseDups) :
        (rest ++ [name]).idxOf other = rest.idxOf other :=
      idxOf_append_of_mem (mem_eraseDups.mp mem)
    have kept : rest.eraseDups.Pairwise fun first second =>
        (rest ++ [name]).idxOf first < (rest ++ [name]).idxOf second := by
      refine ih.imp_of_mem ?_
      intro first second firstMem secondMem before
      rwa [place firstMem, place secondMem]
    rw [eraseDups_concat]
    split
    · exact kept
    · rename_i new
      refine pairwise_append.mpr ⟨kept, pairwise_singleton _ _, ?_⟩
      intro first firstMem second secondMem
      rw [mem_singleton.mp secondMem, place firstMem, idxOf_append_of_notMem new]
      exact Nat.lt_add_right _ (idxOf_lt_length_of_mem (mem_eraseDups.mp firstMem))

theorem nodup_eraseDups_names : names.eraseDups.Nodup :=
  (eraseDups_inOrder names).imp fun before same => absurd before (by rw [same]; exact lt_irrefl _)

/-- One more occurrence of a name: its count grows, or it comes new to the end. -/
theorem increment_map {names : List String} (nodup : names.Nodup) (count : String → Nat)
    {name : String} (unseen : name ∉ names → count name = 0) :
    increment name (names.map fun other => (other, count other)) =
      (if name ∈ names then names else names ++ [name]).map fun other =>
        (other, if other = name then count other + 1 else count other) := by
  induction names with
  | nil => simp [increment, unseen]
  | cons first rest ih =>
    rw [nodup_cons] at nodup
    by_cases same : first = name
    · subst same
      have others : rest.map (fun other => (other, count other)) =
          rest.map fun other => (other, if other = first then count other + 1 else count other) :=
        map_congr_left fun other mem => by
          rw [if_neg (ne_of_mem_of_not_mem mem nodup.1)]
      simp [increment, others]
    · have later := ih nodup.2 fun new => unseen (by simp [new, Ne.symm same])
      rw [map_cons, increment, if_neg (by simpa using same), later]
      by_cases known : name ∈ rest
      · simp [known, same]
      · simp [known, same, Ne.symm same]

/-- The table has every name once, where it first occurs, with how often it does. -/
theorem tally_eq :
    tally names = names.eraseDups.map fun name => (name, names.count name) := by
  induction names using List.reverseRecOn with
  | nil => rfl
  | append_singleton rest name ih =>
    have unseen (new : name ∉ rest.eraseDups) : rest.count name = 0 :=
      count_eq_zero.mpr fun mem => new (mem_eraseDups.mpr mem)
    rw [tally, foldl_append, foldl_cons, foldl_nil, ← tally, ih,
      increment_map (nodup_eraseDups_names rest) _ unseen, eraseDups_concat]
    simp only [mem_eraseDups, count_append, count_singleton, beq_iff_eq]
    refine map_congr_left fun other _ => ?_
    by_cases same : other = name
    · simp [same]
    · simp [same, Ne.symm same]

theorem sum_tally : ((tally names).map Prod.snd).sum = names.length := by
  have distinct : names.eraseDups.Perm names.dedup :=
    (perm_ext_iff_of_nodup (nodup_eraseDups_names names) names.nodup_dedup).mpr fun name => by
      rw [mem_eraseDups, mem_dedup]
  rw [tally_eq, map_map, ← sum_map_count_dedup_eq_length names]
  exact (distinct.map _).sum_eq

/-! ## Ranking -/

/-- The entry that a ranking has first of two: the one with the greater count, else the one whose
name occurs first. -/
def Precedes (first second : String × Nat) : Prop :=
  second.2 < first.2 ∨ first.2 = second.2 ∧ names.idxOf first.1 < names.idxOf second.1

theorem ranking_perm : (ranking names).Perm (tally names) :=
  mergeSort_perm _ _

theorem count_trans (a b c : String × Nat) (left : decide (b.2 ≤ a.2) = true)
    (right : decide (c.2 ≤ b.2) = true) : decide (c.2 ≤ a.2) = true := by
  simp only [decide_eq_true_eq] at *
  omega

theorem count_total (a b : String × Nat) :
    (decide (b.2 ≤ a.2) || decide (a.2 ≤ b.2)) = true := by
  simp only [Bool.or_eq_true, decide_eq_true_eq]
  omega

theorem filter_ranking (count : Nat) :
    (ranking names).filter (·.2 == count) = (tally names).filter (·.2 == count) := by
  have equal : ((tally names).filter (·.2 == count)).Pairwise fun first second =>
      decide (second.2 ≤ first.2) = true := by
    refine pairwise_filter.mpr (pairwise_of_forall ?_)
    intro first second firstCount secondCount
    simp_all
  have kept := (sublist_mergeSort count_trans count_total equal filter_sublist).filter
    (·.2 == count)
  rw [filter_filter] at kept
  simp only [Bool.and_self] at kept
  exact (kept.eq_of_length ((ranking_perm names).filter _).length_eq.symm).symm

theorem ranking_inOrder : (ranking names).Pairwise (Precedes names) := by
  have sorted := pairwise_mergeSort count_trans count_total (tally names)
  have listed : (tally names).Pairwise fun first second =>
      names.idxOf first.1 < names.idxOf second.1 := by
    rw [tally_eq, pairwise_map]
    exact eraseDups_inOrder names
  refine pairwise_iff_forall_sublist.mpr fun {first second} sub => ?_
  have notLess : second.2 ≤ first.2 := by
    simpa using pairwise_iff_forall_sublist.mp sorted sub
  rcases notLess.lt_or_eq with less | same
  · exact .inl less
  · refine .inr ⟨same.symm, pairwise_iff_forall_sublist.mp listed ?_⟩
    have among := sub.filter (·.2 == first.2)
    rw [filter_ranking] at among
    simp only [same, filter_cons, beq_self_eq_true, if_true, filter_nil] at among
    exact among.trans filter_sublist

/-- A ranking of names, and the top of it for every limit. -/
structure IsRanking (names : List String) (top : Int → List (String × Nat))
    (ranked : List (String × Nat)) : Prop where
  nodup : (ranked.map Prod.fst).Nodup
  mem : ∀ name, name ∈ ranked.map Prod.fst ↔ name ∈ names
  count : ∀ entry ∈ ranked, entry.2 = names.count entry.1
  ordered : ranked.Pairwise (Precedes names)
  total : (ranked.map Prod.snd).sum = names.length
  shown : ∀ limit, top limit =
    if 0 ≤ limit then ranked.take limit.toNat else ranked.rdrop (-limit).toNat
  leftOut : ∀ limit, 0 ≤ limit → ∀ name ∈ names, name ∉ (top limit).map Prod.fst →
    ∀ entry ∈ top limit, names.count name ≤ entry.2

/-- What is shown of the counts is their ranking, cut off at the limit. -/
theorem isRanking_mostFrequent :
    IsRanking names (mostFrequent · names) (ranking names) := by
  have perm := ranking_perm names
  have keys : ((ranking names).map Prod.fst).Perm names.eraseDups := by
    have mapped := perm.map Prod.fst
    rwa [tally_eq, map_map, Function.comp_def, map_id'] at mapped
  have counted : ∀ entry ∈ ranking names, entry.2 = names.count entry.1 := by
    intro entry entryMem
    rw [perm.mem_iff, tally_eq] at entryMem
    rcases mem_map.mp entryMem with ⟨name, _, rfl⟩
    rfl
  have mem (name : String) : name ∈ (ranking names).map Prod.fst ↔ name ∈ names := by
    rw [keys.mem_iff, mem_eraseDups]
  refine ⟨keys.nodup_iff.mpr (nodup_eraseDups_names names), mem, counted, ranking_inOrder names, ?_,
    fun limit => Value.takeTo_eq limit _, ?_⟩
  · rw [(perm.map _).sum_eq, sum_tally]
  · intro limit nonneg name nameMem missing entry entryMem
    simp only [mostFrequent, Value.takeTo_eq, if_pos nonneg] at missing entryMem
    rcases mem_map.mp ((mem name).mpr nameMem) with ⟨other, otherMem, rfl⟩
    -- What is not among the first ones comes after all of them.
    have ordered := ranking_inOrder names
    rw [← take_append_drop limit.toNat (ranking names)] at ordered otherMem
    have later : other ∈ (ranking names).drop limit.toNat :=
      (mem_append.mp otherMem).resolve_left fun first =>
        missing (mem_map_of_mem first)
    have precedes := (pairwise_append.mp ordered).2.2 entry entryMem other later
    rw [← counted other (mem_of_mem_drop later)]
    rcases precedes with less | ⟨same, _⟩
    · exact less.le
    · exact same.ge

/-! ## Statistics -/

/-- The set of the names has as many as the ranking. -/
theorem length_eraseDups_names :
    names.eraseDups.length = (ranking names).length := by
  rw [(ranking_perm names).length_eq, tally_eq, length_map]

theorem key_unique_callers (records : List CallRecord) :
    (callStatistics records).key "unique_callers" =
      .ok (.nat (ranking (records.map (·.caller))).length) := by
  rw [← length_eraseDups_names, callStatistics]
  split <;> exact Value.key_ofFields rfl

theorem key_unique_callees (records : List CallRecord) :
    (callStatistics records).key "unique_callees" =
      .ok (.nat (ranking (records.map (·.callee))).length) := by
  rw [← length_eraseDups_names, callStatistics]
  split <;> exact Value.key_ofFields rfl

/--
For every source there is a list of the callees and one of the callers, each name once with its
number of records, by falling count and for equal counts by first occurrence; the rankings are cuts
of these two lists, so that no name that a limit leaves out has a greater count than one that is
shown. The counts of either list add up to the total of the statistics, and their lengths are the
numbers of names in them. A source without a syntax tree has no records and no statistics.
-/
theorem rankings_count_every_record (detector : CallDetector) (code : String) :
    ∃ (records : List CallRecord) (called callers : List (String × Nat)) (stats : Value),
      (detector.detect code).1.records = records ∧
      IsRanking (records.map (·.callee)) (mostCalled · records) called ∧
      IsRanking (records.map (·.caller)) (mostCallsFrom · records) callers ∧
      (detector.detect code).2.key "stats" = .ok stats ∧
      ((∃ tree, parse code = .ok tree) ∧
          stats.key "total_calls" = .ok (.nat (called.map Prod.snd).sum) ∧
          stats.key "total_calls" = .ok (.nat (callers.map Prod.snd).sum) ∧
          stats.key "unique_callees" = .ok (.nat called.length) ∧
          stats.key "unique_callers" = .ok (.nat callers.length) ∨
        (∃ fault, parse code = .error fault) ∧ records = [] ∧ stats = .ofFields []) := by
  have ranked (kind : CallRecord → String) (records : List CallRecord) :
      IsRanking (records.map kind) (mostFrequent · (records.map kind))
        (ranking (records.map kind)) :=
    isRanking_mostFrequent _
  cases parsed : parse code with
  | error fault =>
    have detected : detector.detect code =
        ({ currentFunction := detector.currentFunction }, callReport none) := by
      rw [CallDetector.detect, outlineOf, parsed]
      rfl
    rw [detected]
    exact ⟨_, _, _, _, rfl, ranked _ [], ranked _ [], Value.key_ofFields rfl,
      .inr ⟨⟨fault, rfl⟩, rfl, rfl⟩⟩
  | ok tree =>
    have outlined := outlineOf_of_parse parsed
    have recorded : (detector.detect code).1.records = callRecords tree.outline := by
      rw [CallDetector.detect, outlined]
    rw [recorded, report_detect outlined]
    refine ⟨_, _, _, _, rfl, ranked _ _, ranked _ _, Value.key_ofFields rfl,
      .inl ⟨⟨tree, rfl⟩, ?_, ?_, key_unique_callees _, key_unique_callers _⟩⟩
    · rw [(ranked _ _).total, List.length_map, key_total_calls]
    · rw [(ranked _ _).total, List.length_map, key_total_calls]

end ErpLens.Analysis
