import ErpLens.Proofs.DecodedLines
import ErpLens.Proofs.Outcomes

/-!
# Lines of the records of a table

Units are numbered as if each record stood on one line and no line were empty. A number is right
exactly if the header or a record with fields starts on every line before.
-/

open List

namespace ErpLens.Messages

/-! ## Records with their lines -/

/-- A record with the line it starts on. -/
structure PlacedRecord where
  line : Nat
  fields : List String
deriving DecidableEq

/-- The records of lines, each with the line on which it starts: `first` is the line of the record
that is being read, and `next` the line that comes next. -/
def placedFrom (reader : RecordReader) (first next : Nat) :
    List (List Char) → List PlacedRecord
  | [] =>
    if !reader.field.isEmpty || reader.state == .inQuotes then
      [{ line := first, fields := (reader.saveField .startRecord).fields.reverse }]
    else []
  | line :: rest =>
    match reader.line line with
    | none => []
    | some reader =>
      if reader.state == .startRecord then
        { line := first, fields := reader.fields.reverse } ::
          placedFrom {} (next + 1) (next + 1) rest
      else placedFrom reader first (next + 1) rest

/-- The records of a table with their lines. -/
def placedRecords (text : String) : List PlacedRecord :=
  placedFrom {} 1 1 (Text.cutAfter (· == '\n') text.toList)

theorem map_fields_placedFrom (reader : RecordReader) (first next : Nat)
    (lines : List (List Char)) :
    (placedFrom reader first next lines).map PlacedRecord.fields =
      (recordsFrom reader lines).records := by
  fun_induction placedFrom reader first next lines with
  | case1 reader first next isOpen => simp [recordsFrom, isOpen]
  | case2 reader first next closed => simp [recordsFrom, closed]
  | case3 reader first next line rest broken => simp [recordsFrom, broken]
  | case4 reader first next line rest reader' read ended ih =>
    simp [recordsFrom, read, ended, ih, Records.cons]
  | case5 reader first next line rest reader' read going ih =>
    simp [recordsFrom, read, going, ih]

theorem first_le_of_mem_placedFrom {reader : RecordReader} {first next : Nat}
    {lines : List (List Char)} (later : first ≤ next) :
    ∀ record ∈ placedFrom reader first next lines, first ≤ record.line := by
  fun_induction placedFrom reader first next lines with
  | case1 | case2 | case3 => simp
  | case4 reader first next line rest reader' read ended ih =>
    intro record mem
    rcases mem_cons.mp mem with rfl | inRest
    · exact le_rfl
    · have := ih le_rfl record inRest
      omega
  | case5 reader first next line rest reader' read going ih => exact ih (by omega)

theorem placedFrom_increasing {reader : RecordReader} {first next : Nat}
    {lines : List (List Char)} (later : first ≤ next) :
    (placedFrom reader first next lines).Pairwise (·.line < ·.line) := by
  fun_induction placedFrom reader first next lines with
  | case1 | case2 | case3 => simp
  | case4 reader first next line rest reader' read ended ih =>
    refine .cons ?_ (ih le_rfl)
    intro record mem
    have := first_le_of_mem_placedFrom le_rfl record mem
    simp only
    omega
  | case5 reader first next line rest reader' read going ih => exact ih (by omega)

/-! ## Numbers and lines -/

/-- Of increasing lines from `first` on, the one at index `k` comes at least `k` lines later, and
just `k` lines later exactly if there is one on every line before it. -/
theorem line_eq_iff {lines : List Nat} (increasing : lines.Pairwise (· < ·)) {first : Nat}
    (later : ∀ line ∈ lines, first ≤ line) {k line : Nat} (here : lines[k]? = some line) :
    first + k ≤ line ∧
      (line = first + k ↔ ∀ n, first ≤ n → n < line → n ∈ lines) := by
  induction lines generalizing first k with
  | nil => simp at here
  | cons start rest ih =>
    obtain ⟨above, increasing⟩ := pairwise_cons.mp increasing
    have startLater := later start mem_cons_self
    have atFirst : first ∈ start :: rest → start = first := by
      intro mem
      rcases mem_cons.mp mem with same | inRest
      · exact same.symm
      · have := above first inRest
        omega
    cases k with
    | zero =>
      obtain rfl : start = line := by simpa using here
      refine ⟨startLater, by omega, ?_⟩
      intro full
      by_contra apart
      exact apart (atFirst (full first le_rfl (by omega)))
    | succ k =>
      obtain ⟨far, exact⟩ := ih increasing (fun line mem => above line mem) (by simpa using here)
      refine ⟨by omega, ?_, ?_⟩
      · intro near n atLeast before
        rcases Nat.eq_or_lt_of_le (show start ≤ n by omega) with rfl | after
        · exact mem_cons_self
        · exact mem_cons_of_mem _ (exact.mp (by omega) n after before)
      · intro full
        have same := atFirst (full first le_rfl (by omega))
        have := exact.mpr fun n after before =>
          (mem_cons.mp (full n (by omega) before)).resolve_left (by omega)
        omega

/-- The records with fields. -/
def filled (rows : List PlacedRecord) : List PlacedRecord :=
  rows.filter (!·.fields.isEmpty)

/-- The record at index `k` after the header starts on line `k + 2` exactly if the header or a
record with fields starts on every line before it. -/
theorem filled_line_eq_iff {text : String} {header : PlacedRecord} {rows : List PlacedRecord}
    (placed : placedRecords text = header :: rows) {k : Nat} {row : PlacedRecord}
    (here : (filled rows)[k]? = some row) :
    row.line = k + 2 ↔
      ∀ n, 1 ≤ n → n < row.line → ∃ other ∈ header :: filled rows, other.line = n := by
  have kept : (header :: filled rows).Sublist (placedRecords text) := by
    rw [placed]
    exact .cons_cons _ filter_sublist
  have increasing : ((header :: filled rows).map PlacedRecord.line).Pairwise (· < ·) :=
    pairwise_map.mpr ((placedFrom_increasing le_rfl).sublist kept)
  have positive : ∀ line ∈ (header :: filled rows).map PlacedRecord.line, 1 ≤ line := by
    intro line mem
    obtain ⟨record, isKept, rfl⟩ := mem_map.mp mem
    exact first_le_of_mem_placedFrom le_rfl record (kept.subset isKept)
  have atNext : ((header :: filled rows).map PlacedRecord.line)[k + 1]? = some row.line := by
    simp [here]
  have counted := (line_eq_iff increasing positive atNext).2
  simp only [mem_map] at counted
  rw [← counted]
  omega

/-! ## The units of a table -/

theorem exists_fieldNamed {name : String} {header : List String} (mem : name ∈ header)
    (row : List String) : ∃ value, fieldNamed name header row = some value := by
  fun_induction fieldNamed name header row with
  | case1 => simp at mem
  | case2 key keys ih | case3 key keys value values ih =>
    rcases mem_cons.mp mem with rfl | below
    · cases fieldNamed name keys _ <;> simp
    · obtain ⟨value, found⟩ := ih below
      exact ⟨value, by simp [found]⟩

theorem numberRecords_eq (line : Nat) (messages : List Value) :
    numberRecords line messages = (messages.zipIdx line).map fun message =>
      { line := some message.2, message := message.1, comments := ["Title of an incoterm"] } := by
  induction messages generalizing line with
  | nil => rfl
  | cons message rest ih => simp [numberRecords, ih]

/-- The title of a record, or nothing if the record is too short for it. -/
def titleOf (header row : PlacedRecord) : Option String :=
  (fieldNamed "title" header.fields row.fields).join

theorem incoterms_encode {text : String} {header : PlacedRecord} {rows : List PlacedRecord}
    (placed : placedRecords text = header :: rows) (hasTitle : "title" ∈ header.fields) :
    incoterms (Text.encodeUtf8 text) =
      if (records text).broken then .error .malformedTable
      else .ok (numberRecords 2 ((filled rows).map fun row => .optStr (titleOf header row))) := by
  have read : (records text).records = header.fields :: rows.map PlacedRecord.fields := by
    rw [records, ← map_fields_placedFrom {} 1 1, ← placedRecords, placed]
    rfl
  have titles : ((rows.map PlacedRecord.fields).filter fun row => !row.isEmpty) =
      (filled rows).map PlacedRecord.fields := by
    rw [filled, filter_map]
    rfl
  have named : ((filled rows).map PlacedRecord.fields).mapM (titleIn header.fields) =
      .ok ((filled rows).map fun row => .optStr (titleOf header row)) := by
    rw [mapM_map]
    apply mapM_eq_ok
    intro row _
    obtain ⟨title, found⟩ := exists_fieldNamed hasTitle row.fields
    simp [titleIn, titleOf, found]
  rw [incoterms, textOf_eq_ok_iff.mpr rfl]
  simp only [ok_bind, read, titles, named]
  cases (records text).broken <;> rfl

/-- A table with titles gives one unit for each record with fields after the header, in their
order, numbered from two. The number is the line on which the record starts exactly if the header or
a record with fields starts on every line before it: empty lines and line ends between quotes put
the two apart. -/
theorem incoterms_number_records {text : String} {header : PlacedRecord}
    {rows : List PlacedRecord} (placed : placedRecords text = header :: rows)
    (hasTitle : "title" ∈ header.fields) (whole : (records text).broken = false) :
    ∃ units, incoterms (Text.encodeUtf8 text) = .ok units ∧
      units.length = (filled rows).length ∧
      ∀ (k : Nat) row, (filled rows)[k]? = some row →
        ∃ unit, units[k]? = some unit ∧ unit.line = some (k + 2) ∧
          unit.message = .optStr (titleOf header row) ∧
          unit.comments = ["Title of an incoterm"] ∧
          (unit.line = some row.line ↔
            ∀ n, 1 ≤ n → n < row.line → ∃ other ∈ header :: filled rows, other.line = n) := by
  rw [incoterms_encode placed hasTitle, whole, numberRecords_eq]
  refine ⟨_, rfl, by simp, ?_⟩
  intro k row here
  refine ⟨⟨some (k + 2), .optStr (titleOf header row), ["Title of an incoterm"]⟩, ?_, rfl, rfl,
    rfl, ?_⟩
  · simp [here, Nat.add_comm]
  · rw [← filled_line_eq_iff placed here, Option.some.injEq, eq_comm]

/-- A table whose first title goes over two lines. -/
def longTitle : String :=
  "title,code\n\"On\nboard\",A\nFree,B\n"

theorem longTitle_number_records :
    ∃ units, incoterms (Text.encodeUtf8 longTitle) = .ok units ∧ units.length = 2 ∧
      ∃ unit, units[1]? = some unit ∧ unit.line = some 3 ∧ unit.line ≠ some 4 := by
  have placed : placedRecords longTitle =
      [⟨1, ["title", "code"]⟩, ⟨2, ["On\nboard", "A"]⟩, ⟨4, ["Free", "B"]⟩] := by
    decide +kernel
  obtain ⟨units, read, count, each⟩ :=
    incoterms_number_records placed (by decide) (by decide +kernel)
  obtain ⟨unit, here, number, -⟩ := each 1 ⟨4, ["Free", "B"]⟩ rfl
  exact ⟨units, read, count, unit, here, number, by simp [number]⟩

/-- After an empty line the number of a unit is not the line of its record. -/
theorem incoterms_after_empty_line :
    incoterms (Text.encodeUtf8 "title\n\na\n") =
        .ok [⟨some 2, .str "a", ["Title of an incoterm"]⟩] ∧
      placedRecords "title\n\na\n" = [⟨1, ["title"]⟩, ⟨2, []⟩, ⟨3, ["a"]⟩] := by
  have placed : placedRecords "title\n\na\n" = [⟨1, ["title"]⟩, ⟨2, []⟩, ⟨3, ["a"]⟩] := by
    decide +kernel
  have whole : (records "title\n\na\n").broken = false := by decide +kernel
  refine ⟨?_, placed⟩
  rw [incoterms_encode placed (by decide), whole]
  rfl

end ErpLens.Messages
