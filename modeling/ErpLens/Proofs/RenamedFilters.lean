import ErpLens.Documents.Objects
import ErpLens.Proofs.Fields
import ErpLens.Proofs.Outcomes
import Mathlib

/-!
# Renaming and collecting in account filters

One pass over an account filter collects the texts which a field is compared with and one renames
them. Both select the same conditions.
-/

open List

namespace ErpLens

/-! ## Texts in values -/

namespace Value

/-- The texts that a value has, alone or in a list. -/
def texts : Value → List String
  | .str text => [text]
  | .list items => items.filterMap fun
      | .str text => some text
      | _ => none
  | _ => []

variable (change : String → String)

/-- A value with its text changed, if it is one. -/
def mapText : Value → Value
  | .str text => .str (change text)
  | other => other

/-- A value with all its texts changed. -/
def mapTexts : Value → Value
  | .list items => .list (items.map (mapText change))
  | value => mapText change value

theorem texts_mapTexts (value : Value) :
    (value.mapTexts change).texts = value.texts.map change := by
  cases value with
  | list items =>
    simp only [mapTexts, texts, filterMap_map, map_filterMap]
    apply filterMap_congr
    intro item _
    cases item <;> rfl
  | _ => rfl

theorem mapTexts_eq_self {change : String → String} {value : Value}
    (fixed : ∀ text ∈ value.texts, change text = text) : value.mapTexts change = value := by
  cases value with
  | str text => simp [mapTexts, mapText, fixed text (by simp [texts])]
  | list items =>
    have same : ∀ item ∈ items, mapText change item = item := by
      intro item itemMem
      cases item with
      | str text =>
        have listed : text ∈ (Value.list items).texts :=
          mem_filterMap.mpr ⟨.str text, itemMem, rfl⟩
        simp [mapText, fixed text listed]
      | _ => rfl
    simp [mapTexts, map_congr_left same]
  | _ => rfl

end Value

namespace Accounts.Template

/-! ## Filters -/

/-- A field, an operator and what the field is compared with. -/
structure Condition where
  field : String
  operator : String
  value : Value

namespace Condition

def toValue (condition : Condition) : Value :=
  .list [.str condition.field, .str condition.operator, condition.value]

/-- A condition on a field whose operator is not excluded. -/
def isMeant (field : String) (excluded : List String) (condition : Condition) : Bool :=
  condition.field == field &&
    !(excluded.map Text.lower).contains (Text.lower condition.operator)

theorem isMeant_withValue (field : String) (excluded : List String) (condition : Condition)
    (value : Value) :
    { condition with value }.isMeant field excluded = condition.isMeant field excluded :=
  rfl

end Condition

/-- A well-formed filter: a condition, or filters listed under logical operators. -/
inductive AccountFilter where
  | single (condition : Condition)
  | group (parts : List (String × List AccountFilter))

namespace AccountFilter

variable {filter : AccountFilter} {parts : List (String × List AccountFilter)}
  {part : String × List AccountFilter}

theorem sizeOf_lt_group (partMem : part ∈ parts)
    (filterMem : filter ∈ part.2) : sizeOf filter < sizeOf (group parts) := by
  rcases part with ⟨operator, filters⟩
  have inPart : sizeOf filter < sizeOf filters := sizeOf_lt_of_mem filterMem
  have inParts := sizeOf_lt_of_mem partMem
  simp only [Prod.mk.sizeOf_spec] at inParts
  simp only [group.sizeOf_spec]
  omega

def toValue (kind : DictKind) : AccountFilter → Value
  | .single condition => condition.toValue
  | .group parts => .dict kind (parts.map fun part =>
    (.str part.1, .list (part.2.map fun filter => filter.toValue kind)))
decreasing_by exact sizeOf_lt_group ‹_› ‹_›

/-- The conditions of a filter, from left to right. -/
def conditions : AccountFilter → List Condition
  | .single condition => [condition]
  | .group parts => parts.flatMap fun part => part.2.flatMap fun filter => filter.conditions
decreasing_by exact sizeOf_lt_group ‹_› ‹_›

/-- A filter with other values in its conditions. -/
def mapValues (change : Condition → Value) : AccountFilter → AccountFilter
  | .single condition => .single { condition with value := change condition }
  | .group parts => .group (parts.map fun part =>
    (part.1, part.2.map fun filter => filter.mapValues change))
decreasing_by exact sizeOf_lt_group ‹_› ‹_›

theorem conditions_mapValues (change : Condition → Value) (filter : AccountFilter) :
    (filter.mapValues change).conditions =
      filter.conditions.map fun condition => { condition with value := change condition } := by
  induction filter using conditions.induct with
  | case1 condition => simp [mapValues, conditions]
  | case2 parts ih =>
    simp only [mapValues, conditions, flatMap_map, map_flatMap]
    apply flatMap_congr
    intro part partMem
    apply flatMap_congr
    intro filter filterMem
    exact ih part partMem filter filterMem

theorem mem_conditions_group (partMem : part ∈ parts) (filterMem : filter ∈ part.2)
    {condition : Condition}
    (conditionMem : condition ∈ filter.conditions) : condition ∈ (group parts).conditions := by
  simp only [conditions, mem_flatMap]
  exact ⟨part, partMem, filter, filterMem, conditionMem⟩

theorem mapValues_eq_self {change : Condition → Value}
    (fixed : ∀ condition ∈ filter.conditions, change condition = condition.value) :
    filter.mapValues change = filter := by
  induction filter using conditions.induct with
  | case1 condition => simp [mapValues, fixed condition (by simp [conditions])]
  | case2 parts ih =>
    have same : ∀ part ∈ parts,
        (part.1, part.2.map fun filter => filter.mapValues change) = part := by
      intro part partMem
      have sameFilters : ∀ filter ∈ part.2, filter.mapValues change = filter := by
        intro filter filterMem
        apply ih part partMem filter filterMem
        intro condition conditionMem
        exact fixed condition (mem_conditions_group partMem filterMem conditionMem)
      rw [map_congr_left sameFilters, map_id']
    simp [mapValues, map_congr_left same]

def texts (field : String) (excluded : List String) (filter : AccountFilter) : List String :=
  filter.conditions.flatMap fun condition =>
    if condition.isMeant field excluded then condition.value.texts else []

def mapTexts (field : String) (excluded : List String) (change : String → String)
    (filter : AccountFilter) : AccountFilter :=
  filter.mapValues fun condition =>
    if condition.isMeant field excluded then condition.value.mapTexts change else condition.value

variable (field : String) (excluded : List String) (change : String → String)

theorem texts_mapTexts (filter : AccountFilter) :
    (filter.mapTexts field excluded change).texts field excluded =
      (filter.texts field excluded).map change := by
  simp only [texts, mapTexts, conditions_mapValues, flatMap_map, map_flatMap]
  apply flatMap_congr
  intro condition _
  rw [Condition.isMeant_withValue]
  by_cases isMeant : condition.isMeant field excluded = true
  · simp [isMeant, Value.texts_mapTexts]
  · simp [isMeant]

theorem mapTexts_eq_self (fixed : ∀ text ∈ filter.texts field excluded, change text = text) :
    filter.mapTexts field excluded change = filter := by
  apply mapValues_eq_self
  intro condition conditionMem
  split
  · rename_i isMeant
    apply Value.mapTexts_eq_self
    intro text textMem
    apply fixed
    simp only [texts, mem_flatMap]
    exact ⟨condition, conditionMem, by simpa [isMeant] using textMem⟩
  · rfl

end AccountFilter

/-! ## Both passes over the value of a filter -/

/-- Which conditions are meant, as the passes are told. -/
def selectionOf (field : String) (excluded : List String) : Selection where
  field := .str field
  excluded := excluded.map fun operator => .str (Text.lower operator)

/-- New names as a table. -/
def namesValue (kind : DictKind) (names : List (String × String)) : Value :=
  .dict kind (names.map fun name => (.str name.1, .str name.2))

/-- The new name of a text, itself if it has none. -/
def newName (names : List (String × String)) (text : String) : String :=
  (names.lookup text).getD text

theorem applies_selectionOf (field : String) (excluded : List String) (condition : Condition) :
    (selectionOf field excluded).applies (.str condition.field) (.str condition.operator) =
      .ok (condition.isMeant field excluded) := by
  have occurs : Value.occursIn (.str (Text.lower condition.operator))
      (selectionOf field excluded).excluded =
        (excluded.map Text.lower).contains (Text.lower condition.operator) := by
    rw [Bool.eq_iff_iff]
    simp [Value.occursIn, selectionOf, Value.same_str]
  have sameField : (Value.str condition.field == (selectionOf field excluded).field) =
      (condition.field == field) := Value.same_str _ _
  simp only [Selection.applies, bne, sameField, Value.asText, ok_bind, occurs, Condition.isMeant]
  cases condition.field == field <;> rfl

theorem comparedTexts_eq (value : Value) : comparedTexts value = value.texts.map .str := by
  cases value with
  | list items =>
    simp only [comparedTexts, Value.texts, map_filterMap, ← filterMap_eq_filter]
    apply filterMap_congr
    intro item _
    cases item <;> rfl
  | _ => rfl

theorem findEntry_names (names : List (String × String)) (text : String) :
    Value.findEntry (.str text) (names.map fun name => (.str name.1, .str name.2)) =
      (names.lookup text).map .str := by
  induction names with
  | nil => rfl
  | cons name rest ih =>
    rcases name with ⟨old, new⟩
    simp only [map_cons, Value.findEntry, Value.same_str, beq_iff_eq, ih, lookup_cons_ite,
      eq_comm (a := old)]
    split <;> rfl

theorem renameText_namesValue (kind : DictKind) (names : List (String × String)) (value : Value) :
    renameText (namesValue kind names) value = .ok (value.mapText (newName names)) := by
  cases value with
  | str text =>
    simp only [renameText, namesValue, Value.getD, findEntry_names, Value.mapText, newName]
    cases names.lookup text <;> rfl
  | _ => rfl

theorem renameValue_namesValue (kind : DictKind) (names : List (String × String)) (value : Value) :
    renameValue (namesValue kind names) value = .ok (value.mapTexts (newName names)) := by
  cases value with
  | str text => exact renameText_namesValue kind names (.str text)
  | list items =>
    have each : ∀ item ∈ items,
        renameText (namesValue kind names) item = .ok (item.mapText (newName names)) := by
      intro item _
      exact renameText_namesValue kind names item
    rw [renameValue, mapM_eq_ok each]
    rfl
  | _ => rfl

section Passes

variable {selection : Selection} {α : Type}

theorem collectAll_map {items : List α} {value : α → Value} {found : α → List Value}
    (each : ∀ item ∈ items, collect selection (value item) = .ok (found item)) :
    collectAll selection (items.map value) = .ok (items.flatMap found) := by
  induction items with
  | nil => rfl
  | cons item rest ih =>
    rw [forall_mem_cons] at each
    simp only [map_cons, collectAll, each.1, ih each.2, flatMap_cons]
    rfl

theorem collectEntries_map {entries : List α} (key : α → Value)
    {parts found : α → List Value}
    (each : ∀ entry ∈ entries, collectAll selection (parts entry) = .ok (found entry)) :
    collectEntries selection (entries.map fun entry => (key entry, .list (parts entry))) =
      .ok (entries.flatMap found) := by
  induction entries with
  | nil => rfl
  | cons entry rest ih =>
    rw [forall_mem_cons] at each
    simp only [map_cons, collectEntries, each.1, ih each.2, flatMap_cons]
    rfl

theorem renameAll_map {names : Value} {items : List α} {value renamed : α → Value}
    (each : ∀ item ∈ items, rename selection names (value item) = .ok (renamed item)) :
    renameAll selection names (items.map value) = .ok (items.map renamed) := by
  induction items with
  | nil => rfl
  | cons item rest ih =>
    rw [forall_mem_cons] at each
    simp only [map_cons, renameAll, each.1, ih each.2]
    rfl

theorem renameEntries_map {names : Value} {entries : List α} (key : α → Value)
    {parts renamed : α → List Value}
    (each : ∀ entry ∈ entries, renameAll selection names (parts entry) = .ok (renamed entry)) :
    renameEntries selection names (entries.map fun entry => (key entry, .list (parts entry))) =
      .ok (entries.map fun entry => (key entry, .list (renamed entry))) := by
  induction entries with
  | nil => rfl
  | cons entry rest ih =>
    rw [forall_mem_cons] at each
    simp only [map_cons, renameEntries, renameParts, each.1, ih each.2]
    rfl

end Passes

variable (field : String)

/-- Collecting gives the texts of the conditions that are meant. -/
theorem collect_toValue (excluded : List String) (kind : DictKind) (filter : AccountFilter) :
    collect (selectionOf field excluded) (filter.toValue kind) =
      .ok ((filter.texts field excluded).map .str) := by
  induction filter using AccountFilter.conditions.induct with
  | case1 condition =>
    simp only [AccountFilter.toValue, Condition.toValue, collect, applies_selectionOf, ok_bind,
      comparedTexts_eq, AccountFilter.texts, AccountFilter.conditions, flatMap_singleton]
    split <;> rfl
  | case2 parts ih =>
    simp only [AccountFilter.toValue, collect, AccountFilter.texts, AccountFilter.conditions,
      flatMap_assoc, map_flatMap]
    apply collectEntries_map
    intro part partMem
    apply collectAll_map
    intro filter filterMem
    rw [ih part partMem filter filterMem, AccountFilter.texts, map_flatMap]

/-- Renaming changes the texts of the conditions that are meant. -/
theorem rename_toValue (excluded : List String) (kind nameKind : DictKind)
    (names : List (String × String)) (filter : AccountFilter) :
    rename (selectionOf field excluded) (namesValue nameKind names) (filter.toValue kind) =
      .ok ((filter.mapTexts field excluded (newName names)).toValue .plain) := by
  induction filter using AccountFilter.conditions.induct with
  | case1 condition =>
    simp only [AccountFilter.toValue, Condition.toValue, rename, applies_selectionOf, ok_bind,
      renameValue_namesValue, AccountFilter.mapTexts, AccountFilter.mapValues]
    split <;> rfl
  | case2 parts ih =>
    have renamed := renameEntries_map (fun part => Value.str part.1) fun part partMem =>
      renameAll_map fun filter filterMem => ih part partMem filter filterMem
    simp only [AccountFilter.toValue, rename, renamed, ok_bind, AccountFilter.mapTexts,
      AccountFilter.mapValues, map_map, Function.comp_def]
    rfl

/-! ## Objects that collect and rename -/

theorem lowerOperators_strs (operators : List String) :
    lowerOperators (.strs operators) =
      .ok (.list (operators.map fun operator => .str (Text.lower operator))) := by
  have lowered : ((operators.map Value.str).mapM fun operator => do
      return Value.str (Text.lower (← operator.asText "lower"))) =
        .ok (operators.map fun operator => .str (Text.lower operator)) := by
    rw [mapM_map]
    apply mapM_eq_ok
    intro operator _
    rfl
  cases operators with
  | nil => rfl
  | cons first rest =>
    simp only [lowerOperators, Value.strs, Value.items, ok_bind, lowered]
    rfl

theorem ofValue_extractor (excluded : List String) :
    (Documents.make "FormulaFieldExtractor" [.str field, .strs excluded] >>= Selection.ofValue) =
      .ok (selectionOf field excluded) := by
  have made : Documents.make "FormulaFieldExtractor" [.str field, .strs excluded] =
      (lowerOperators (.strs excluded)).bind fun operators =>
        .ok (.object "FormulaFieldExtractor"
          [("field_name", .str field), ("exclude_operators", operators)]) := rfl
  rw [made, lowerOperators_strs]
  rfl

theorem renameWith_updater (excluded : List String) (names : Value) :
    ∃ updater, Documents.make "FormulaFieldUpdater" [.str field, names, .strs excluded] =
        .ok updater ∧
      ∀ filter, renameWith updater filter = rename (selectionOf field excluded) names filter := by
  have made : Documents.make "FormulaFieldUpdater" [.str field, names, .strs excluded] =
      (lowerOperators (.strs excluded)).bind fun operators =>
        .ok (.object "FormulaFieldUpdater" [("field_name", .str field), ("value_mapping", names),
          ("exclude_operators", operators)]) := rfl
  rw [made, lowerOperators_strs]
  exact ⟨_, rfl, fun filter => rfl⟩

/--
For every well-formed filter, every field, all excluded operators and all new names: what is
collected from the renamed filter is what is collected from the filter, renamed. Renaming changes
these texts and nothing else, so a filter stays as it is if none of them gets another name. Groups
of any kind come back as plain dictionaries.
-/
theorem rename_commutes_with_collect (filter : AccountFilter) (kind nameKind : DictKind)
    (field : String) (excluded : List String) (names : List (String × String)) :
    ∃ (selection : Selection) (updater renamed : Value),
      (Documents.make "FormulaFieldExtractor" [.str field, .strs excluded] >>=
        Selection.ofValue) = .ok selection ∧
      Documents.make "FormulaFieldUpdater"
        [.str field, namesValue nameKind names, .strs excluded] = .ok updater ∧
      renameWith updater (filter.toValue kind) = .ok renamed ∧
      collect selection (filter.toValue kind) = .ok ((filter.texts field excluded).map .str) ∧
      collect selection renamed =
        .ok (((filter.texts field excluded).map (newName names)).map .str) ∧
      renamed = (filter.mapTexts field excluded (newName names)).toValue .plain ∧
      ((∀ text ∈ filter.texts field excluded, newName names text = text) →
        renamed = filter.toValue .plain) := by
  rcases renameWith_updater field excluded (namesValue nameKind names) with
    ⟨updater, made, renames⟩
  refine ⟨selectionOf field excluded, updater, _, ofValue_extractor field excluded, made, ?_, ?_,
    ?_, rfl, ?_⟩
  · rw [renames, rename_toValue]
  · exact collect_toValue field excluded kind filter
  · rw [collect_toValue, AccountFilter.texts_mapTexts]
  · intro fixed
    rw [AccountFilter.mapTexts_eq_self field excluded (newName names) fixed]

end Accounts.Template

end ErpLens
