/-!
# Steps over a list that can fail

These lemmas bring a pass over a list with a step that can fail down to the pass without faults.
-/

open List

namespace ErpLens

variable {ε α β : Type} {items : List α}

theorem ok_bind (value : α) (next : α → Except ε β) :
    (Except.ok value >>= next) = next value := rfl

theorem bind_eq_ok {first : Except ε α} {next : α → Except ε β} {result : β} :
    (first >>= next) = .ok result ↔ ∃ value, first = .ok value ∧ next value = .ok result := by
  cases first with
  | error fault => simp [bind, Except.bind]
  | ok value => simp [bind, Except.bind]

/-- What is computed from a result shows that there is one. -/
theorem exists_ok_of_map_toOption {outcome : Except ε α} {compute : α → β} {value : β}
    (computed : outcome.toOption.map compute = some value) :
    ∃ result, outcome = .ok result ∧ compute result = value := by
  cases outcome with
  | error fault => cases computed
  | ok result => exact ⟨result, rfl, Option.some.inj computed⟩

theorem mapM_eq_ok {read : α → Except ε β} {result : α → β}
    (reads : ∀ item ∈ items, read item = .ok (result item)) :
    items.mapM read = .ok (items.map result) := by
  induction items with
  | nil => rfl
  | cons item rest ih =>
    have later := ih fun other other_mem => reads other (by simp [other_mem])
    rw [mapM_cons, reads item (by simp), later]
    rfl

theorem exists_mapM_eq_ok_iff {read : α → Except ε β} :
    (∃ results, items.mapM read = .ok results) ↔
      ∀ item ∈ items, ∃ result, read item = .ok result := by
  induction items with
  | nil => simp [pure, Except.pure]
  | cons item rest ih =>
    rw [mapM_cons, forall_mem_cons, ← ih]
    cases read item with
    | error fault => simp [bind, Except.bind]
    | ok result =>
      cases rest.mapM read <;> simp [bind, Except.bind, pure, Except.pure]

theorem filterAuxM_eq_ok {test : α → Except ε Bool} {keep : α → Bool}
    (kept : List α) (reads : ∀ item ∈ items, test item = .ok (keep item)) :
    items.filterAuxM test kept = .ok ((items.filter keep).reverse ++ kept) := by
  induction items generalizing kept with
  | nil => rfl
  | cons item rest ih =>
    have later (kept : List α) := ih kept fun other other_mem => reads other (by simp [other_mem])
    rw [List.filterAuxM, reads item (by simp), ok_bind, later]
    cases keeps : keep item <;> simp [keeps]

theorem filterM_eq_ok {test : α → Except ε Bool} {keep : α → Bool}
    (reads : ∀ item ∈ items, test item = .ok (keep item)) :
    items.filterM test = .ok (items.filter keep) := by
  rw [List.filterM, filterAuxM_eq_ok [] reads, ok_bind, append_nil, reverse_reverse]
  rfl

theorem exists_findM? {test : α → Except ε Bool}
    (reads : ∀ item ∈ items, ∃ answer, test item = .ok answer) :
    ∃ found, items.findM? test = .ok found ∧ ∀ item, found = some item → item ∈ items := by
  induction items with
  | nil => exact ⟨none, rfl, by simp⟩
  | cons item rest ih =>
    rw [forall_mem_cons] at reads
    rcases reads.1 with ⟨answer, tested⟩
    rw [List.findM?, tested, ok_bind]
    cases answer with
    | true => exact ⟨some item, rfl, by simp⟩
    | false =>
      rcases ih reads.2 with ⟨found, searched, fromRest⟩
      refine ⟨found, searched, fun other isOther => ?_⟩
      exact mem_cons_of_mem _ (fromRest other isOther)

theorem forM_eq_ok_iff {check : α → Except ε Unit} :
    forM items check = .ok () ↔ ∀ item ∈ items, check item = .ok () := by
  induction items with
  | nil => simp [pure, Except.pure]
  | cons item rest ih =>
    rw [forM_cons, forall_mem_cons, ← ih, bind_eq_ok]
    constructor
    · rintro ⟨_, passes, later⟩
      exact ⟨passes, later⟩
    · rintro ⟨passes, later⟩
      exact ⟨(), passes, later⟩

theorem forIn_eq_ok {step : α → Unit → Except ε (ForInStep Unit)}
    (goesOn : ∀ item ∈ items, step item () = .ok (.yield ())) :
    forIn items () step = .ok () := by
  induction items with
  | nil => rfl
  | cons item rest ih =>
    rw [forall_mem_cons] at goesOn
    rw [forIn_cons, goesOn.1, ok_bind]
    exact ih goesOn.2

/-- A pass whose every step succeeds and leads on from what was reached before succeeds, and reaches
what belongs to all its items. -/
theorem exists_foldlM {step : β → α → Except ε β} {motive : List α → β → Prop}
    {start : β} (first : motive [] start)
    (next : ∀ before item after state, items = before ++ item :: after → motive before state →
      ∃ new, step state item = .ok new ∧ motive (before ++ [item]) new) :
    ∃ last, items.foldlM step start = .ok last ∧ motive items last := by
  suffices later : ∀ after before state, items = before ++ after → motive before state →
      ∃ last, after.foldlM step state = .ok last ∧ motive items last from
    later items [] start rfl first
  intro after
  induction after with
  | nil =>
    intro before state split reached
    rw [append_nil] at split
    exact ⟨state, rfl, split ▸ reached⟩
  | cons item rest ih =>
    intro before state split reached
    rcases next before item rest state split reached with ⟨new, stepped, reachedNew⟩
    rw [foldlM_cons, stepped, ok_bind]
    exact ih (before ++ [item]) new (by rw [split, append_assoc]; rfl) reachedNew

end ErpLens
