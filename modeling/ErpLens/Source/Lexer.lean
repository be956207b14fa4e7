import ErpLens.Text.Compose
import ErpLens.Text.CharKind
import ErpLens.Text.Lines
import ErpLens.Source.Number

/-!
# From characters to tokens

The lexer goes through the source in steps. At the start of a line a step measures the indentation
and drops lines that hold nothing but a comment; inside a line it reads one token or skips blanks, a
comment or a joined line end.

Indentation is measured twice, with tabs counting up to the next multiple of eight and with tabs
counting one. A line fits its block only if both measures say so, so that a source never depends on
the width of a tab.
-/

namespace ErpLens.Source.Lexer

structure State where
  line : Nat := 1
  brackets : List Char := []
  indents : List (Nat × Nat) := []
  atLineStart : Bool := true

def maxBrackets : Nat := 200

def maxIndents : Nat := 99

/-! ## Indentation -/

/-- The indentation of a line: its two measures, the first measure of a joined line it starts with
(zero if there is none), the number of line ends passed and what follows. -/
structure Margin where
  column : Nat
  narrow : Nat
  joined : Nat
  passed : Nat
  rest : List Char

/-- Measures the indentation. A form feed starts the count anew; a joined line end keeps the first
count. -/
def margin (column narrow joined passed : Nat) : List Char → Option Margin
  | ' ' :: rest => margin (column + 1) (narrow + 1) joined passed rest
  | '\t' :: rest => margin ((column / 8 + 1) * 8) (narrow + 1) joined passed rest
  | '\x0c' :: rest => margin 0 0 joined passed rest
  | '\\' :: '\n' :: rest =>
    if rest.isEmpty then none
    else margin column narrow (if joined = 0 then column else joined) (passed + 1) rest
  | '\\' :: _ => none
  | rest => some ⟨column, narrow, joined, passed, rest⟩

/-- Closes blocks until the indentation is that of an open one. Both measures must agree. -/
def closeBlocks (column narrow : Nat) : List (Nat × Nat) → Nat → Option (Nat × List (Nat × Nat))
  | [], count => if column = 0 ∧ narrow = 0 then some (count, []) else none
  | (wide, thin) :: outer, count =>
    if column < wide then closeBlocks column narrow outer (count + 1)
    else if column = wide ∧ narrow = thin then some (count, (wide, thin) :: outer)
    else none

def layout (column narrow line : Nat) (indents : List (Nat × Nat)) :
    Option (List Token × List (Nat × Nat)) :=
  let (wide, thin) := indents.headD (0, 0)
  if wide < column then
    if indents.length + 1 ≤ maxIndents ∧ thin < narrow then
      some ([⟨.indent, line, line⟩], (column, narrow) :: indents)
    else none
  else
    (closeBlocks column narrow indents 0).map fun (count, open_) =>
      (List.replicate count ⟨.dedent, line, line⟩, open_)

/-! ## Strings -/

structure Marks where
  bytes : Bool := false
  unicode : Bool := false
  raw : Bool := false
  formatted : Bool := false

def Marks.add (marks : Marks) (c : Char) : Option Marks :=
  let fixed := marks.bytes || marks.unicode || marks.formatted
  if c == 'b' || c == 'B' then if fixed then none else some { marks with bytes := true }
  else if c == 'u' || c == 'U' then
    if fixed || marks.raw then none else some { marks with unicode := true }
  else if c == 'r' || c == 'R' then
    if marks.raw || marks.unicode then none else some { marks with raw := true }
  else if c == 'f' || c == 'F' then if fixed then none else some { marks with formatted := true }
  else none

def Marks.scan (marks : Marks) : List Char → Option (Marks × List Char)
  | [] => none
  | c :: rest =>
    if c == '\'' || c == '"' then some (marks, c :: rest)
    else
      match marks.add c with
      | none => none
      | some more => more.scan rest

/-- The characters up to the quote that ends a string on one line, and what follows. An escaped
character never ends it. -/
def shortBody (quote : Char) : List Char → Option (List Char × List Char)
  | [] => none
  | '\\' :: c :: rest => (shortBody quote rest).map fun (body, after) => ('\\' :: c :: body, after)
  | c :: rest =>
    if c == quote then some ([], rest)
    else if c == '\n' then none
    else (shortBody quote rest).map fun (body, after) => (c :: body, after)

def longBody (quote : Char) : List Char → Option (List Char × List Char)
  | [] => none
  | '\\' :: c :: rest => (longBody quote rest).map fun (body, after) => ('\\' :: c :: body, after)
  | c :: rest =>
    if c == quote && rest.take 2 == [quote, quote] then some ([], rest.drop 2)
    else (longBody quote rest).map fun (body, after) => (c :: body, after)

def stringBody : List Char → Option (List Char × List Char)
  | quote :: a :: b :: rest =>
    if a == quote && b == quote then longBody quote rest
    else shortBody quote (a :: b :: rest)
  | quote :: rest => shortBody quote rest
  | [] => none

/-! ## Names and signs -/

def signs : List String :=
  ["**=", "...", "//=", "<<=", ">>=", "!=", "%=", "&=", "**", "*=", "+=", "-=", "->", "//", "/=",
    ":=", "<<", "<=", "==", ">=", ">>", "@=", "^=", "|=", "%", "&", "(", ")", "*", "+", ",", "-",
    ".", "/", ":", ";", "<", "=", ">", "@", "[", "]", "^", "\x7b", "|", "\x7d", "~"]

def sign? (chars : List Char) : Option String :=
  signs.find? fun sign => sign.toList.isPrefixOf chars

def opener? (sign : String) : Option Char :=
  if sign == ")" then some '('
  else if sign == "]" then some '['
  else if sign == "\x7d" then some '\x7b'
  else none

def bracketsAfter (sign : String) (brackets : List Char) : Option (List Char) :=
  if sign == "(" || sign == "[" || sign == "\x7b" then
    if brackets.length < maxBrackets then some (sign.toList.headD '(' :: brackets) else none
  else
    match opener? sign, brackets with
    | none, _ => some brackets
    | some opener, innermost :: outer => if innermost == opener then some outer else none
    | some _, [] => none

def word (chars : List Char) : Option Lexeme :=
  let text := String.ofList chars
  if keywords.contains text then some (.keyword text)
  else if Text.Identifier.isIdentifier chars then
    let normal := String.ofList (Text.Compose.normalForm chars)
    some (.name normal (normal == text))
  else none

/-! ## Steps -/

def newlines (chars : List Char) : Nat :=
  chars.count '\n'

def scanToken (state : State) (chars : List Char) : Option (Token × State × List Char) :=
  match chars with
  | [] => none
  | c :: tail =>
    match Marks.scan {} chars with
    | some (marks, quoted) =>
      (stringBody quoted).map fun (body, rest) =>
        let endLine := state.line + newlines body
        let literal : StringLiteral :=
          ⟨marks.bytes, marks.raw, marks.formatted, c == 'u', body⟩
        (⟨.string literal, state.line, endLine⟩, { state with line := endLine }, rest)
    | none =>
      let here (lexeme : Lexeme) : Token := ⟨lexeme, state.line, state.line⟩
      if c.isAlpha || c == '_' || 128 ≤ c.toNat then
        let letters := chars.takeWhile Number.isNameChar
        (word letters).map fun lexeme =>
          (here lexeme, state, chars.dropWhile Number.isNameChar)
      else if c.isDigit || (c == '.' && (tail.headD ' ').isDigit) then
        (Number.scan chars).map fun (value, rest) => (here (.number value), state, rest)
      else
        match sign? chars with
        | none => none
        | some sign =>
          (bracketsAfter sign state.brackets).map fun brackets =>
            (here (.op sign), { state with brackets }, chars.drop sign.length)

def stepInLine (state : State) (chars : List Char) :
    Option (List Token × State × List Char) :=
  match chars with
  | [] => none
  | '\n' :: rest =>
    let next := { state with line := state.line + 1, atLineStart := true }
    let out : List Token :=
      if state.brackets.isEmpty then [⟨.newline, state.line, state.line⟩] else []
    some (out, next, rest)
  | '\\' :: '\n' :: rest =>
    if rest.isEmpty then none else some ([], { state with line := state.line + 1 }, rest)
  | '#' :: rest => some ([], state, rest.dropWhile (· != '\n'))
  | c :: rest =>
    if c == ' ' || c == '\t' || c == '\x0c' then some ([], state, rest)
    else (scanToken state chars).map fun (token, next, rest) => ([token], next, rest)

def stepAtStart (state : State) (chars : List Char) :
    Option (List Token × State × List Char) :=
  match margin 0 0 0 0 chars with
  | none => none
  | some found =>
    let line := state.line + found.passed
    match found.rest with
    | '\n' :: rest => some ([], { state with line := line + 1 }, rest)
    | '#' :: rest =>
      some ([], { state with line := line + 1 }, (rest.dropWhile (· != '\n')).drop 1)
    | rest =>
      let inside := { state with line, atLineStart := false }
      if state.brackets.isEmpty then
        let column := if found.joined = 0 then found.column else found.joined
        let narrow := if found.joined = 0 then found.narrow else found.joined
        (layout column narrow line state.indents).map fun (out, indents) =>
          (out, { inside with indents }, rest)
      else some ([], inside, rest)

def step (state : State) (chars : List Char) : Option (List Token × State × List Char) :=
  if state.atLineStart then stepAtStart state chars else stepInLine state chars

def remaining (state : State) (chars : List Char) : Nat :=
  2 * chars.length + if state.atLineStart then 1 else 0

def run : Nat → State → List Char → Array Token → Option (Array Token)
  | 0, _, _, _ => none
  | steps + 1, state, chars, found =>
    if chars.isEmpty then
      if state.brackets.isEmpty then
        let closing := state.indents.map fun _ => (⟨.dedent, state.line, state.line⟩ : Token)
        some (found ++ closing |>.push ⟨.finish, state.line, state.line⟩)
      else none
    else
      match step state chars with
      | none => none
      | some (out, next, rest) => run steps next rest (found ++ out)

/-- The tokens of a source whose first line has the number `line`. Line ends are unified and the
last line is ended first. A source that is not made of tokens has none. -/
def tokenize (line : Nat) (source : List Char) : Option (List Token) :=
  let chars := Text.unifyNewlines source
  let chars := if chars.getLast? == some '\n' then chars else chars ++ ['\n']
  let start : State := { line }
  (run (remaining start chars + 1) start chars #[]).map Array.toList

end ErpLens.Source.Lexer
