import ErpLens.Text.Blank

/-!
# Lines

Texts as lines. A line ends at `\n`; texts read from files have their other line ends turned into
`\n` first.
-/

namespace ErpLens.Text

/-- Turns `\r\n` and a lone `\r` into `\n`. -/
def unifyNewlines : List Char → List Char
  | '\r' :: '\n' :: rest => '\n' :: unifyNewlines rest
  | '\r' :: rest => '\n' :: unifyNewlines rest
  | c :: rest => c :: unifyNewlines rest
  | [] => []

def splitAt (separator : Char) : List Char → List (List Char)
  | [] => [[]]
  | c :: rest =>
    if c = separator then [] :: splitAt separator rest
    else
      match splitAt separator rest with
      | [] => [[c]]
      | piece :: pieces => (c :: piece) :: pieces

/-- Cuts a list after each end of a line; the last line may lack its end. -/
def cutAfter {α : Type} (isEnd : α → Bool) : List α → List (List α)
  | [] => []
  | item :: rest =>
    if isEnd item then [item] :: cutAfter isEnd rest
    else
      match cutAfter isEnd rest with
      | [] => [[item]]
      | line :: more => (item :: line) :: more

/-- The lines of a text, without their ends. A text that ends in a line end has a last empty
line. -/
def lines (text : String) : List String :=
  (splitAt '\n' text.toList).map String.ofList

def joinLines (parts : List String) : String :=
  "\n".intercalate parts

theorem splitAt_ne_nil (separator : Char) (chars : List Char) : splitAt separator chars ≠ [] := by
  cases chars with
  | nil => simp [splitAt]
  | cons c rest =>
    simp only [splitAt]
    split
    · simp
    · split <;> simp

theorem not_mem_of_mem_splitAt {separator : Char} {chars piece : List Char}
    (mem : piece ∈ splitAt separator chars) : separator ∉ piece := by
  induction chars generalizing piece with
  | nil => simp_all [splitAt]
  | cons c rest ih =>
    rw [splitAt] at mem
    split at mem
    · rcases List.mem_cons.mp mem with rfl | inRest
      · simp
      · exact ih inRest
    · rename_i notSeparator
      split at mem
      · simpa [List.mem_singleton.mp mem] using Ne.symm notSeparator
      · rename_i first others split
        rcases List.mem_cons.mp mem with rfl | inRest
        · have apart := @ih first (by simp [split])
          simpa [Ne.symm notSeparator] using apart
        · exact ih (by simp [split, inRest])

/-- Replaces each tab by the blanks up to the next column that is a multiple of `width`; `column`
is where the text starts. -/
def expandTabs (width : Nat) : Nat → List Char → List Char
  | _, [] => []
  | column, c :: rest =>
    if c = '\t' then
      let gap := width - column % width
      List.replicate gap ' ' ++ expandTabs width (column + gap) rest
    else if c = '\n' ∨ c = '\r' then c :: expandTabs width 0 rest
    else c :: expandTabs width (column + 1) rest

def indentation? (line : List Char) : Option Nat :=
  let content := trimStart line
  if content.isEmpty then none else some (line.length - content.length)

/-- Lays out a documentation text: tabs become blanks, the first line loses its indentation, the
others lose the indentation that all of them share, and empty lines at both ends go. -/
def cleanDocument (text : String) : String :=
  match splitAt '\n' (expandTabs 8 0 text.toList) with
  | [] => ""
  | first :: others =>
    let shared := (others.filterMap indentation?).min?.getD 0
    let body := trimStart first :: others.map (·.drop shared)
    let body := (body.reverse.dropWhile (·.isEmpty)).reverse
    joinLines ((body.dropWhile (·.isEmpty)).map String.ofList)

end ErpLens.Text
