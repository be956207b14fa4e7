import ErpLens.Proofs.FileTrees
import ErpLens.Retrieval.Chunk
import Mathlib

/-!
# Windows of a source

A source is cut into windows that start every few lines. The step is the size less the overlap, and
neither is checked: overlaps above the size give no windows, and negative ones leave gaps.
-/

open List

namespace ErpLens.Text

theorem joinLines_lines (text : String) : joinLines (lines text) = text := by
  apply String.toList_injective
  rw [joinLines, String.toList_intercalate, lines, map_map, splitAt_eq_splitOn]
  simp [Function.comp_def]

theorem lineFeed_not_mem_of_mem_lines {text line : String} (mem : line ∈ lines text) :
    '\n' ∉ line.toList := by
  rcases mem_map.mp mem with ⟨piece, pieceMem, rfl⟩
  simpa using not_mem_of_mem_splitAt pieceMem

theorem mem_toList_joinLines {parts : List String} {part : String} {c : Char}
    (partMem : part ∈ parts) (mem : c ∈ part.toList) : c ∈ (joinLines parts).toList := by
  rw [joinLines, String.toList_intercalate]
  induction parts with
  | nil => simp at partMem
  | cons first rest ih =>
    rcases mem_cons.mp partMem with rfl | inRest
    · cases rest with
      | nil => simpa using mem
      | cons second others => simp [mem]
    · have later := ih inRest
      have more : rest.map String.toList ≠ [] := by
        simpa using ne_nil_of_mem inRest
      rw [map_cons, intercalate_cons_of_ne_nil more]
      exact mem_append_right _ later

/-- A text is not blank. -/
def HasContent (text : String) : Prop :=
  ∃ c ∈ text.toList, isBlank c = false

theorem isBlankText_eq_false_iff {text : String} : isBlankText text = false ↔ HasContent text := by
  simp [isBlankText, HasContent]

theorem HasContent.joinLines {parts : List String} {part : String} (content : HasContent part)
    (partMem : part ∈ parts) : HasContent (joinLines parts) := by
  rcases content with ⟨c, mem, notBlank⟩
  exact ⟨c, mem_toList_joinLines partMem mem, notBlank⟩

end ErpLens.Text

namespace ErpLens.Retrieval

/-! ## One window -/

/-- The lines between two numbers. -/
def linesFromTo (lines : List String) (first last : Nat) : List String :=
  (lines.drop (first - 1)).take (last + 1 - first)

/-- The number of the last line of a window. -/
def lastOfWindow (lines : List String) (size start : Nat) : Nat :=
  min (start + size) lines.length

variable {lines : List String} {size start : Nat}

theorem between_eq (inside : start < lines.length) :
    Value.between start (start + size) lines =
      linesFromTo lines (start + 1) (lastOfWindow lines size start) := by
  have low : Value.bound lines.length start = start := by
    rw [Value.bound, if_neg (by omega)]
    omega
  have high : Value.bound lines.length (start + size) = lastOfWindow lines size start := by
    rw [Value.bound, if_neg (by omega), lastOfWindow]
    omega
  rw [Value.between, low, high, drop_take, linesFromTo]
  congr 1
  omega

theorem window_eq (inside : start < lines.length) :
    window lines size start =
      ⟨Text.joinLines (linesFromTo lines (start + 1) (lastOfWindow lines size start)), start + 1,
        lastOfWindow lines size start⟩ := by
  rw [window, between_eq inside, lastOfWindow]
  simp

theorem mem_linesFromTo {number first last : Nat} {line : String}
    (found : lines[number]? = some line) (after : first ≤ number + 1) (before : number < last)
    (positive : 0 < first) : line ∈ linesFromTo lines first last := by
  refine mem_of_getElem? (i := number + 1 - first) ?_
  rw [linesFromTo, getElem?_take_of_lt (by omega), getElem?_drop, ← found]
  congr 1
  omega

/-! ## All windows -/

theorem mem_windowStarts {count step : Nat} (positive : 0 < step) :
    start ∈ windowStarts count step ↔ step ∣ start ∧ start < count := by
  have bound (index : Nat) : index < (count + step - 1) / step ↔ index * step < count := by
    rw [Nat.lt_div_iff_mul_lt positive]
    omega
  simp only [windowStarts, mem_map, mem_range, bound]
  constructor
  · rintro ⟨index, inside, rfl⟩
    exact ⟨Nat.dvd_mul_left step index, inside⟩
  · rintro ⟨⟨index, rfl⟩, inside⟩
    rw [Nat.mul_comm] at inside
    exact ⟨index, inside, Nat.mul_comm index step⟩

variable {step : Nat}

theorem windowStarts_increasing (count : Nat) (positive : 0 < step) :
    (windowStarts count step).Pairwise (· < ·) := by
  rw [windowStarts, pairwise_map]
  refine pairwise_lt_range.imp fun earlier => ?_
  exact Nat.mul_lt_mul_of_pos_right earlier positive

/-- A line lies in a window if the window that starts at or before it is long enough; where the
step is longer than the windows, there are lines between them. -/
theorem exists_windowStart_iff {count step number : Nat} (positive : 0 < step)
    (inside : number < count) :
    (∃ start ∈ windowStarts count step, start ≤ number ∧ number < start + size) ↔
      number % step < size := by
  simp only [mem_windowStarts positive]
  constructor
  · rintro ⟨_, ⟨⟨index, rfl⟩, _⟩, after, before⟩
    obtain ⟨rest, rfl⟩ := Nat.exists_eq_add_of_le after
    rw [Nat.mul_add_mod]
    have less := Nat.mod_le rest step
    omega
  · intro reached
    have split := Nat.div_add_mod number step
    exact ⟨step * (number / step), ⟨Nat.dvd_mul_right _ _, by omega⟩, by omega, by omega⟩

/-! ## What is kept -/

/-- The windows that are not blank. -/
def contentWindows (lines : List String) (size step : Nat) : List Chunk :=
  ((windowStarts lines.length step).map (window lines size)).filter fun chunk =>
    !Text.isBlankText chunk.text

variable (code : String)

theorem chunks_of_less {size : Nat} {overlap : Int} (less : overlap < size) :
    chunks code size overlap =
      .ok (contentWindows (Text.lines code) size (size - overlap).toNat) := by
  rw [chunks, if_neg (by omega), if_neg (by omega)]
  rfl

theorem chunks_eq {size overlap : Nat} (less : overlap < size) :
    chunks code size overlap = .ok (contentWindows (Text.lines code) size (size - overlap)) := by
  have step : ((size : Int) - overlap).toNat = size - overlap := by omega
  rw [chunks_of_less code (by omega), step]

theorem mem_contentWindows (positive : 0 < step) {chunk : Chunk} :
    chunk ∈ contentWindows lines size step ↔
      ∃ start, step ∣ start ∧ start < lines.length ∧ chunk = window lines size start ∧
        Text.HasContent chunk.text := by
  simp only [contentWindows, mem_filter, mem_map, mem_windowStarts positive,
    Bool.not_eq_true', Text.isBlankText_eq_false_iff]
  constructor
  · rintro ⟨⟨start, ⟨multiple, inside⟩, rfl⟩, content⟩
    exact ⟨start, multiple, inside, rfl, content⟩
  · rintro ⟨start, multiple, inside, rfl, content⟩
    exact ⟨⟨start, ⟨multiple, inside⟩, rfl⟩, content⟩

/-- A chunk has the lines between its numbers. -/
structure Chunk.IsRunOf (lines : List String) (chunk : Chunk) : Prop where
  first : 1 ≤ chunk.startLine
  ordered : chunk.startLine ≤ chunk.endLine
  last : chunk.endLine ≤ lines.length
  text : chunk.text =
    Text.joinLines (linesFromTo lines chunk.startLine.toNat chunk.endLine.toNat)

theorem isRunOf_window (inside : start < lines.length) (positive : 0 < size) :
    (window lines size start).IsRunOf lines := by
  rw [window_eq inside]
  have bounds : start + 1 ≤ lastOfWindow lines size start ∧
      lastOfWindow lines size start ≤ lines.length := by
    rw [lastOfWindow]
    omega
  constructor
  · dsimp only
    omega
  · dsimp only
    omega
  · dsimp only
    omega
  · rfl

theorem exists_mem_contentWindows_iff {step number : Nat} {line : String} (positive : 0 < step)
    (found : lines[number]? = some line) (content : Text.HasContent line) :
    (∃ chunk ∈ contentWindows lines size step,
        chunk.startLine ≤ number + 1 ∧ (number + 1 : Int) ≤ chunk.endLine) ↔
      number % step < size := by
  have inside : number < lines.length := (List.getElem?_eq_some_iff.mp found).1
  rw [← exists_windowStart_iff positive inside]
  constructor
  · rintro ⟨chunk, chunkMem, after, before⟩
    rcases (mem_contentWindows positive).mp chunkMem with ⟨start, multiple, startInside, rfl, _⟩
    dsimp only [window] at after before
    exact ⟨start, (mem_windowStarts positive).mpr ⟨multiple, startInside⟩, by omega, by omega⟩
  · rintro ⟨start, started, after, before⟩
    rcases (mem_windowStarts positive).mp started with ⟨multiple, startInside⟩
    have beforeLast : number < lastOfWindow lines size start := by
      rw [lastOfWindow]
      omega
    have shown : line ∈ linesFromTo lines (start + 1) (lastOfWindow lines size start) :=
      mem_linesFromTo found (by omega) beforeLast (by omega)
    refine ⟨window lines size start, (mem_contentWindows positive).mpr ?_, ?_⟩
    · refine ⟨start, multiple, startInside, rfl, ?_⟩
      rw [window_eq startInside]
      exact content.joinLines shown
    · rw [window_eq startInside]
      dsimp only
      omega

theorem exists_mem_contentWindows {step number : Nat} {line : String} (positive : 0 < step)
    (longEnough : step ≤ size) (found : lines[number]? = some line)
    (content : Text.HasContent line) :
    ∃ chunk ∈ contentWindows lines size step,
      chunk.startLine ≤ number + 1 ∧ (number + 1 : Int) ≤ chunk.endLine :=
  (exists_mem_contentWindows_iff positive found content).mpr
    ((Nat.mod_lt number positive).trans_le longEnough)

theorem contentWindows_increasing (positive : 0 < step) :
    (contentWindows lines size step).Pairwise fun earlier later =>
      earlier.startLine < later.startLine := by
  refine Pairwise.filter _ (pairwise_map.mpr ?_)
  refine (windowStarts_increasing lines.length positive).imp fun earlier => ?_
  dsimp only [window]
  omega

theorem text_window (inside : start < lines.length) :
    (window lines size start).text = Text.joinLines ((lines.drop start).take size) := by
  have run : linesFromTo lines (start + 1) (lastOfWindow lines size start) =
      (lines.drop start).take size := by
    rw [linesFromTo, lastOfWindow, Nat.add_sub_cancel, take_eq_take_iff, length_drop]
    omega
  rw [window_eq inside, run]

theorem exists_startLine_iff (positive : 0 < step) (multiple : step ∣ start)
    (inside : start < lines.length) :
    (∃ chunk ∈ contentWindows lines size step, chunk.startLine = start + 1) ↔
      Text.HasContent (Text.joinLines ((lines.drop start).take size)) := by
  rw [← text_window inside]
  constructor
  · rintro ⟨chunk, chunkMem, starts⟩
    rcases (mem_contentWindows positive).mp chunkMem with ⟨other, -, -, rfl, content⟩
    have same : other = start := by
      dsimp only [window] at starts
      omega
    exact same ▸ content
  · intro content
    refine ⟨window lines size start, (mem_contentWindows positive).mpr ?_, rfl⟩
    exact ⟨start, multiple, inside, rfl, content⟩

/--
Cutting a source into overlapping windows loses and changes nothing. The lines of the source are its
text, cut at the line ends. Every chunk is the run of lines that its numbers say, the first lines
grow from chunk to chunk in multiples of the step, every line with content lies in a chunk, and a
window is left out exactly if it has no content.
-/
theorem chunks_keep_every_line (code : String) {size overlap : Int} (nonneg : 0 ≤ overlap)
    (less : overlap < size) :
    Text.joinLines (Text.lines code) = code ∧ (∀ line ∈ Text.lines code, '\n' ∉ line.toList) ∧
    ∃ found, chunks code size overlap = .ok found ∧
      (∀ chunk ∈ found, chunk.IsRunOf (Text.lines code) ∧
        chunk.startLine ≡ 1 [ZMOD size - overlap]) ∧
      (found.Pairwise fun earlier later => earlier.startLine < later.startLine) ∧
      (∀ (number : Nat) (line : String), (Text.lines code)[number]? = some line →
        Text.HasContent line →
        ∃ chunk ∈ found, chunk.startLine ≤ number + 1 ∧ (number + 1 : Int) ≤ chunk.endLine) ∧
      ∀ start : Nat, start < (Text.lines code).length → size - overlap ∣ start →
        ((∃ chunk ∈ found, chunk.startLine = start + 1) ↔
          Text.HasContent
            (Text.joinLines (((Text.lines code).drop start).take size.toNat))) := by
  refine ⟨Text.joinLines_lines code, fun line => Text.lineFeed_not_mem_of_mem_lines, ?_⟩
  obtain ⟨overlap, rfl⟩ := Int.eq_ofNat_of_zero_le nonneg
  obtain ⟨size, rfl⟩ := Int.eq_ofNat_of_zero_le (nonneg.trans less.le)
  have less : overlap < size := by omega
  have positive : 0 < size - overlap := by omega
  have step : (size : Int) - overlap = (size - overlap : Nat) := by omega
  rw [step]
  refine ⟨_, chunks_eq code less, ?_, contentWindows_increasing positive, ?_, ?_⟩
  · intro chunk chunkMem
    rcases (mem_contentWindows positive).mp chunkMem with ⟨start, multiple, inside, rfl, -⟩
    refine ⟨isRunOf_window inside (by omega), ?_⟩
    have remainder : (start : Int) ≡ 0 [ZMOD (size - overlap : Nat)] :=
      Int.modEq_zero_iff_dvd.mpr (Int.natCast_dvd_natCast.mpr multiple)
    exact remainder.add_right 1
  · intro number line found content
    exact exists_mem_contentWindows positive (by omega) found content
  · intro start inside multiple
    exact exists_startLine_iff positive (Int.natCast_dvd_natCast.mp multiple) inside

/-- Two lines with content far apart, the second one in front of an empty last line. -/
def gappedSource : String := "x\n\n\n\n\ny\n"

theorem chunks_keep_every_line_of_gapped_source :
    (chunks gappedSource 3 1).toOption = some [⟨"x\n\n", 1, 3⟩, ⟨"\ny\n", 5, 7⟩] ∧
      ∃ found, chunks gappedSource 3 1 = .ok found ∧
        (∀ chunk ∈ found, chunk.IsRunOf (Text.lines gappedSource)) ∧
        ∃ chunk ∈ found, chunk.startLine ≤ 6 ∧ 6 ≤ chunk.endLine := by
  refine ⟨by decide +kernel, ?_⟩
  have kept := @chunks_keep_every_line gappedSource 3 1 (by decide) (by decide)
  rcases kept with ⟨-, -, found, cut, runs, -, covered, -⟩
  refine ⟨found, cut, fun chunk chunkMem => (runs chunk chunkMem).1, ?_⟩
  exact covered 5 "y" (by decide +kernel) ⟨'y', by decide +kernel, by decide +kernel⟩

/-! ## What is lost -/

/-- A line is in one of the chunks. -/
def Covers (found : List Chunk) (number : Nat) : Prop :=
  ∃ chunk ∈ found, chunk.startLine ≤ number + 1 ∧ (number + 1 : Int) ≤ chunk.endLine

/-- A line that is not blank. -/
def HasContentAt (number : Nat) : Prop :=
  ∃ line, (Text.lines code)[number]? = some line ∧ Text.HasContent line

theorem exists_chunks_covers_iff {size : Nat} {overlap : Int} (different : overlap ≠ size) :
    ∃ found, chunks code size overlap = .ok found ∧
      ∀ number, HasContentAt code number →
        (Covers found number ↔ overlap < size ∧ (number : Int) % (size - overlap) < size) := by
  rcases lt_or_gt_of_ne different with less | greater
  · obtain ⟨step, stepEq⟩ := Int.eq_ofNat_of_zero_le (show 0 ≤ (size : Int) - overlap by omega)
    refine ⟨_, chunks_of_less code less, ?_⟩
    rintro number ⟨line, found, content⟩
    rw [Covers, stepEq, Int.toNat_natCast, exists_mem_contentWindows_iff (by omega) found content,
      ← Int.natCast_emod, Int.ofNat_lt]
    exact (and_iff_right less).symm
  · refine ⟨[], ?_, fun number _ => ?_⟩
    · rw [chunks, if_neg (by omega), if_pos (by omega)]
    · simp [Covers, greater.not_gt]

def lateSource (before : Nat) : String :=
  String.ofList (List.replicate before '\n' ++ ['x'])

theorem hasContentAt_lateSource (before : Nat) : HasContentAt (lateSource before) before := by
  have pieces : Text.splitAt '\n' (List.replicate before '\n' ++ ['x']) =
      List.replicate before [] ++ [['x']] := by
    induction before with
    | zero => rfl
    | succ before ih => simp [replicate_succ, Text.splitAt, ih]
  refine ⟨"x", ?_, 'x', by decide, by decide +kernel⟩
  rw [Text.lines, lateSource, String.toList_ofList, pieces]
  simp

/--
There are four cases. With an overlap equal to the size cutting a source fails. With a greater one
there are no chunks at all. With a smaller one a line with content lies in a chunk exactly if its
place within the step is below the size, as it always is for an overlap that is not negative. So
for overlaps from zero to the size, and only for these, no source loses content without a fault.
-/
theorem chunks_lose_lines_between_windows {size : Int} (positive : 1 ≤ size) (overlap : Int) :
    (overlap = size → ∀ code,
      chunks code size overlap = .error (.badValue "range() arg 3 must not be zero")) ∧
    (overlap ≠ size → ∀ code, ∃ found, chunks code size overlap = .ok found ∧
      ∀ number, HasContentAt code number →
        (Covers found number ↔ overlap < size ∧ (number : Int) % (size - overlap) < size)) ∧
    ((∀ code found, chunks code size overlap = .ok found →
        ∀ number, HasContentAt code number → Covers found number) ↔
      0 ≤ overlap ∧ overlap ≤ size) := by
  obtain ⟨size, rfl⟩ := Int.eq_ofNat_of_zero_le (a := size) (by omega)
  have fails (same : overlap = size) (code : String) :
      chunks code size overlap = .error (.badValue "range() arg 3 must not be zero") := by
    rw [chunks, if_pos (by omega)]
  refine ⟨fails, fun different code => exists_chunks_covers_iff code different, ?_, ?_⟩
  · intro kept
    have inside (number : Nat) (different : overlap ≠ size) :
        overlap < size ∧ (number : Int) % (size - overlap) < size := by
      have content := hasContentAt_lateSource number
      rcases exists_chunks_covers_iff (lateSource number) different with ⟨found, cut, covered⟩
      exact (covered number content).mp (kept _ found cut number content)
    by_cases same : overlap = size
    · omega
    · -- Below zero the line after the first window would be lost.
      have less := (inside 0 same).1
      refine ⟨Int.not_lt.mp fun negative => ?_, less.le⟩
      have reached := (inside size same).2
      rw [Int.emod_eq_of_lt (by omega) (by omega)] at reached
      exact lt_irrefl _ reached
  · rintro ⟨nonneg, atMost⟩ code found cut number content
    have different : overlap ≠ size := by
      rintro rfl
      rw [fails rfl] at cut
      cases cut
    rcases exists_chunks_covers_iff code different with ⟨others, othersCut, covered⟩
    obtain rfl : found = others := Except.ok.inj (cut.symm.trans othersCut)
    have below := Int.emod_lt_of_pos (number : Int) (show 0 < (size : Int) - overlap by omega)
    exact (covered number content).mpr ⟨by omega, by omega⟩

/-- Windows of two lines with a gap of one line: the third line lies in none, the fourth does. -/
theorem chunks_lose_lines_between_windows_with_gap :
    ∃ found, chunks "a\nb\nc\nd" 2 (-1) = .ok found ∧ ¬Covers found 2 ∧ Covers found 3 := by
  have content (number : Nat) (line : String)
      (found : (Text.lines "a\nb\nc\nd")[number]? = some line)
      (notBlank : Text.isBlankText line = false) : HasContentAt "a\nb\nc\nd" number :=
    ⟨line, found, Text.isBlankText_eq_false_iff.mp notBlank⟩
  have cases := @chunks_lose_lines_between_windows 2 (by decide) (-1)
  rcases cases.2.1 (by decide) "a\nb\nc\nd" with ⟨found, cut, covered⟩
  refine ⟨found, cut, fun covers => ?_, ?_⟩
  · have inside := (covered 2 (content 2 "c" (by decide +kernel) (by decide +kernel))).mp covers
    revert inside
    decide
  · exact (covered 3 (content 3 "d" (by decide +kernel) (by decide +kernel))).mpr (by decide)

/-- With an overlap beyond the size the only line is lost. -/
theorem overlap_beyond_size_loses_content :
    (chunks "x" 1 2).toOption = some [] ∧ HasContentAt "x" 0 := by
  refine ⟨by decide +kernel, ?_⟩
  exact hasContentAt_lateSource 0

end ErpLens.Retrieval
