import ErpLens.Text.Lines
import ErpLens.Value.Access

/-!
# Chunks of a source

A source is cut into windows of lines that overlap. Windows that hold only blanks are left out.
-/

namespace ErpLens.Retrieval

/-- Lines `startLine` to `endLine` of a source, counted from one. -/
structure Chunk where
  text : String
  startLine : Int
  endLine : Int
deriving Repr, DecidableEq

def Chunk.toValue (chunk : Chunk) : Value :=
  .ofFields [("text", .str chunk.text), ("start_line", .int chunk.startLine),
    ("end_line", .int chunk.endLine)]

def window (lines : List String) (size : Int) (start : Nat) : Chunk where
  text := Text.joinLines (Value.between start (start + size) lines)
  startLine := start + 1
  endLine := min (start + size) lines.length

def windowStarts (count step : Nat) : List Nat :=
  (List.range ((count + step - 1) / step)).map (· * step)

def defaultSize : Int := 500

def defaultOverlap : Int := 50

/-- Cuts a source into windows of `size` lines, of which neighbours share `overlap` lines. With an
overlap beyond the size there is no window, and with one equal to it no way to go on. -/
def chunks (code : String) (size overlap : Int) : Outcome (List Chunk) :=
  let lines := Text.lines code
  let step := size - overlap
  if step = 0 then .error (.badValue "range() arg 3 must not be zero")
  else if step < 0 then .ok []
  else
    .ok (((windowStarts lines.length step.toNat).map (window lines size)).filter fun chunk =>
      !Text.isBlankText chunk.text)

end ErpLens.Retrieval
