import ErpLens.Proofs.Outcomes
import ErpLens.Stock.Item
import Mathlib.Algebra.BigOperators.Group.List.Basic
import Mathlib.Data.List.Forall2
import Mathlib.Data.List.Pairwise

/-!
# Choices of one value per attribute

Variants are built attribute by attribute. Seen from the first attribute, each of its values is
followed by all choices for the others, so the choices come in lexicographic order.
-/

open List

namespace ErpLens.Stock

variable {β κ : Type}

/-- The choices of one value from each list, by the first list first. -/
def choicesFrom : List (List β) → List (List β)
  | [] => [[]]
  | values :: rest => values.flatMap fun value => (choicesFrom rest).map (value :: ·)

/-- Extending choices attribute by attribute is putting every choice for all these attributes behind
each of them. -/
theorem foldl_extendChoices (attributes : List (κ × List β)) (choices : List (List (κ × β))) :
    attributes.foldl extendChoices choices = choices.flatMap fun choice =>
      (choicesFrom (attributes.map Prod.snd)).map fun values =>
        choice ++ (attributes.map Prod.fst).zip values := by
  induction attributes generalizing choices with
  | nil => simp [choicesFrom]
  | cons property rest ih =>
    rw [foldl_cons, ih, extendChoices, flatMap_assoc]
    simp only [map_cons, choicesFrom, map_flatMap, flatMap_map, map_map]
    simp [Function.comp_def]

theorem allChoices_eq {attributes : List (κ × List β)} (nonempty : attributes ≠ []) :
    allChoices attributes =
      (choicesFrom (attributes.map Prod.snd)).map ((attributes.map Prod.fst).zip ·) := by
  cases attributes with
  | nil => exact absurd rfl nonempty
  | cons property rest =>
    rw [allChoices, foldl_extendChoices]
    simp [choicesFrom, map_flatMap, flatMap_map, Function.comp_def]

/-- The choices are the lists with one value from each. -/
theorem mem_choicesFrom {lists : List (List β)} {choice : List β} :
    choice ∈ choicesFrom lists ↔ List.Forall₂ (· ∈ ·) choice lists := by
  induction lists generalizing choice with
  | nil => simp [choicesFrom]
  | cons values rest ih =>
    cases choice with
    | nil => simp [choicesFrom]
    | cons value others => simp [choicesFrom, ih]

theorem length_choicesFrom (lists : List (List β)) :
    (choicesFrom lists).length = (lists.map List.length).prod := by
  induction lists with
  | nil => rfl
  | cons values rest ih => simp [choicesFrom, length_flatMap, ih]

/-- Lexicographic order: at the first list where two choices differ, the value of the one stands
before the value of the other. -/
inductive Earlier : List (List β) → List β → List β → Prop
  | here {values : List β} {value other : β} (before : List.Sublist [value, other] values)
      (rest : List (List β)) (choice otherChoice : List β) :
      Earlier (values :: rest) (value :: choice) (other :: otherChoice)
  | later {rest : List (List β)} {choice otherChoice : List β}
      (earlier : Earlier rest choice otherChoice) (values : List β) (value : β) :
      Earlier (values :: rest) (value :: choice) (value :: otherChoice)

theorem pairwise_choicesFrom (lists : List (List β)) :
    (choicesFrom lists).Pairwise (Earlier lists) := by
  induction lists with
  | nil => simp [choicesFrom]
  | cons values rest ih =>
    rw [choicesFrom, pairwise_flatMap]
    constructor
    · intro value _
      rw [pairwise_map]
      exact ih.imp fun earlier => .later earlier values value
    · rw [pairwise_iff_forall_sublist]
      intro value other before choice choiceMem otherChoice otherMem
      rcases mem_map.mp choiceMem with ⟨_, _, rfl⟩
      rcases mem_map.mp otherMem with ⟨_, _, rfl⟩
      exact .here before rest _ _

/-- Two choices differ at some place. -/
def Differ (choice other : List Value) : Prop :=
  ∃ (place : Nat) (value otherValue : Value), choice[place]? = some value ∧
    other[place]? = some otherValue ∧ Value.same value otherValue = false

theorem Earlier.differ {lists : List (List Value)} {choice other : List Value}
    (earlier : Earlier lists choice other)
    (distinct : ∀ values ∈ lists,
      values.Pairwise fun value other => Value.same value other = false) :
    Differ choice other := by
  induction earlier with
  | here before rest _ _ =>
    have different := pairwise_iff_forall_sublist.mp (distinct _ mem_cons_self) before
    exact ⟨0, _, _, rfl, rfl, different⟩
  | later _ values _ ih =>
    rw [forall_mem_cons] at distinct
    rcases ih distinct.2 with ⟨place, value, otherValue, found, otherFound, different⟩
    exact ⟨place + 1, value, otherValue, found, otherFound, different⟩

/-! ## Dictionaries -/

theorem putEntry_of_new {key : Value} {entries : Entries}
    (new : ∀ entry ∈ entries, Value.same entry.1 key = false) (value : Value) :
    Value.putEntry key value entries = entries ++ [(key, value)] := by
  induction entries with
  | nil => rfl
  | cons entry rest ih =>
    rw [forall_mem_cons] at new
    simp [Value.putEntry, new.1, ih new.2]

theorem ofEntries_of_distinct {entries : Entries}
    (distinct : (entries.map Prod.fst).Pairwise fun key other => Value.same key other = false) :
    Value.ofEntries entries = .dict .plain entries := by
  rw [pairwise_map] at distinct
  suffices put : ∀ before : Entries,
      (before ++ entries).Pairwise (fun entry other => Value.same entry.1 other.1 = false) →
      entries.foldl (fun found entry => Value.putEntry entry.1 entry.2 found) before =
        before ++ entries from
    congrArg (Value.dict .plain) (put [] distinct)
  clear distinct
  induction entries with
  | nil => simp
  | cons entry rest ih =>
    intro before distinct
    have new : ∀ earlier ∈ before, Value.same earlier.1 entry.1 = false := fun earlier earlierMem =>
      (pairwise_append.mp distinct).2.2 earlier earlierMem entry mem_cons_self
    rw [foldl_cons, putEntry_of_new new, ih, append_assoc]
    · rfl
    · rwa [append_assoc]

theorem variants_eq {attributes : List (Value × List Value)} (kind : DictKind)
    (nonempty : attributes ≠ []) :
    variants (.dict kind (attributes.map fun property => (property.1, .list property.2))) =
      .ok (.list ((allChoices attributes).map Value.ofEntries)) := by
  have truth : Value.truth (.dict kind (attributes.map fun property =>
      (property.1, Value.list property.2))) = true := by
    simpa [Value.truth] using nonempty
  rw [variants, truth]
  simp only [Value.entries, ok_bind, mapM_map]
  rw [@mapM_eq_ok _ _ _ _ _ id, map_id]
  · rfl
  · exact fun property _ => rfl

/-- For attributes that have distinct values, there is a variant for each choice of one value per
attribute, and nothing else; as many as the numbers of values multiplied. The choices come in
lexicographic order, the first attribute varying slowest, and no two of them are the same. -/
theorem variants_are_all_choices {attributes : List (Value × List Value)} (kind : DictKind)
    (nonempty : attributes ≠ [])
    (keys : (attributes.map Prod.fst).Pairwise fun name other => Value.same name other = false)
    (distinct : ∀ property ∈ attributes,
      property.2.Pairwise fun value other => Value.same value other = false) :
    ∃ choices : List (List Value),
      variants (.dict kind (attributes.map fun property => (property.1, .list property.2))) =
        .ok (.list (choices.map fun choice =>
          .dict .plain ((attributes.map Prod.fst).zip choice))) ∧
      (∀ choice, choice ∈ choices ↔ List.Forall₂ (· ∈ ·) choice (attributes.map Prod.snd)) ∧
      choices.length = (attributes.map fun property => property.2.length).prod ∧
      choices.Pairwise (Earlier (attributes.map Prod.snd)) ∧ choices.Pairwise Differ := by
  refine ⟨choicesFrom (attributes.map Prod.snd), ?_, fun _ => mem_choicesFrom, ?_,
    pairwise_choicesFrom _, ?_⟩
  · rw [variants_eq _ nonempty, allChoices_eq nonempty, List.map_map]
    congr 2
    apply List.map_congr_left
    intro choice choiceMem
    have sameLength := (mem_choicesFrom.mp choiceMem).length_eq
    rw [List.length_map] at sameLength
    apply ofEntries_of_distinct
    rwa [List.map_fst_zip (by simp [sameLength])]
  · rw [length_choicesFrom, List.map_map]
    rfl
  · refine (pairwise_choicesFrom _).imp fun earlier => earlier.differ ?_
    rw [List.forall_mem_map]
    exact distinct

/-- Two colours and three sizes. -/
def shirtAttributes : List (Value × List Value) :=
  [(.str "Colour", [.str "red", .str "blue"]), (.str "Size", [.str "S", .str "M", .str "L"])]

theorem shirt_variants_are_all_choices :
    ∃ choices : List (List Value),
      variants (.dict .plain (shirtAttributes.map fun property => (property.1, .list property.2))) =
        .ok (.list (choices.map fun choice =>
          .dict .plain ((shirtAttributes.map Prod.fst).zip choice))) ∧
      choices.length = 6 ∧ choices.Pairwise Differ := by
  have keys : (shirtAttributes.map Prod.fst).Pairwise
      fun name other => Value.same name other = false := by simp [shirtAttributes, Value.same]
  have distinct : ∀ property ∈ shirtAttributes,
      property.2.Pairwise fun value other => Value.same value other = false := by
    simp [shirtAttributes, Value.same]
  rcases variants_are_all_choices .plain (by simp [shirtAttributes]) keys distinct with
    ⟨choices, returned, _, number, _, differ⟩
  exact ⟨choices, returned, number, differ⟩

end ErpLens.Stock
