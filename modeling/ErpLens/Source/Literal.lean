import ErpLens.Text.CharName
import ErpLens.Source.Expr

/-!
# Reading string literals

The value of a literal from the characters between its quotes. A formatted string is cut into its
literal pieces and its replacement fields, whose expressions stay text, with the line they start on,
for the grammar to read.
-/

namespace ErpLens.Source.Literal

/-! ## Escapes -/

def hexEscape : Nat → Nat → List Char → Option (Nat × List Char)
  | 0, value, rest => some (value, rest)
  | count + 1, value, c :: rest =>
    match Text.hexValue? c with
    | some digit => hexEscape count (value * 16 + digit) rest
    | none => none
  | _ + 1, _, [] => none

def octalEscape : Nat → Nat → List Char → Nat × List Char
  | 0, value, rest => (value, rest)
  | count + 1, value, c :: rest =>
    if '0' ≤ c ∧ c ≤ '7' then octalEscape count (value * 8 + (c.toNat - 48)) rest
    else (value, c :: rest)
  | _ + 1, value, [] => (value, [])

def letterEscape? (c : Char) : Option Nat :=
  match c with
  | '\\' => some 92
  | '\'' => some 39
  | '"' => some 34
  | 'a' => some 7
  | 'b' => some 8
  | 'f' => some 12
  | 'n' => some 10
  | 'r' => some 13
  | 't' => some 9
  | 'v' => some 11
  | _ => none

def braced? : List Char → Option (List Char × List Char)
  | '\x7b' :: rest =>
    let name := rest.takeWhile (· != '\x7d')
    let after := rest.dropWhile (· != '\x7d')
    if after.isEmpty then none else some (name, after.drop 1)
  | _ => none

/-- The escape after a backslash: the code points it stands for, and what follows. An escape that
means nothing stands for itself, backslash included; a broken one is an error. -/
def escape (inBytes : Bool) : List Char → Option (List Nat × List Char)
  | [] => some ([92], [])
  | c :: rest =>
    if c == '\n' then some ([], rest)
    else
      match letterEscape? c with
      | some code => some ([code], rest)
      | none =>
        if '0' ≤ c ∧ c ≤ '7' then
          let (value, after) := octalEscape 2 (c.toNat - 48) rest
          some ([if inBytes then value % 256 else value], after)
        else if c == 'x' then (hexEscape 2 0 rest).map fun (value, after) => ([value], after)
        else if inBytes then some ([92, c.toNat], rest)
        else if c == 'u' then (hexEscape 4 0 rest).map fun (value, after) => ([value], after)
        else if c == 'U' then
          (hexEscape 8 0 rest).bind fun (value, after) =>
            if value ≤ 0x10ffff then some ([value], after) else none
        else if c == 'N' then
          (braced? rest).bind fun (name, after) =>
            (Text.CharName.code? (String.ofList name)).map fun code => ([code], after)
        else some ([92, c.toNat], rest)

def unescapeWith (inBytes : Bool) : Nat → List Char → Option (List Nat)
  | _, [] => some []
  | 0, _ :: _ => none
  | fuel + 1, '\\' :: rest =>
    (escape inBytes rest).bind fun (codes, after) =>
      (unescapeWith inBytes fuel after).map (codes ++ ·)
  | fuel + 1, c :: rest => (unescapeWith inBytes fuel rest).map (c.toNat :: ·)

def codes (isRaw inBytes : Bool) (chars : List Char) : Option (List Nat) :=
  if isRaw then some (chars.map Char.toNat) else unescapeWith inBytes chars.length chars

/-! ## Formatted strings -/

/-- A piece of a formatted string. A field holds the text of its expression and the line that it
starts on. -/
inductive Piece where
  | text (codes : List Nat)
  | field (source : List Char) (line : Nat) (conversion : Option Conversion)
      (spec : Option (List Piece))

def mergePieces : List Piece → List Piece
  | .text a :: rest =>
    match mergePieces rest with
    | .text b :: more => .text (a ++ b) :: more
    | more => if a.isEmpty then more else .text a :: more
  | piece :: rest => piece :: mergePieces rest
  | [] => []

/-- The literal characters at the start of a formatted string, up to a brace that means something.
`doubled` says that a doubled brace ended them, and stands for one brace. Inside a format
specification braces are never doubled. -/
structure LiteralRun where
  chars : List Char
  doubled : Bool
  rest : List Char

def LiteralRun.cons (chars : List Char) (run : LiteralRun) : LiteralRun :=
  { run with chars := chars ++ run.chars }

/-- Reads literal characters. A single closing brace outside a specification is an error. -/
def literalRun (isRaw inSpec : Bool) : Nat → List Char → Option LiteralRun
  | _, [] => some ⟨[], false, []⟩
  | 0, _ :: _ => none
  | fuel + 1, c :: rest =>
    if c == '\\' && !isRaw && !rest.isEmpty then
      match rest with
      | 'N' :: '\x7b' :: after =>
        let name := after.takeWhile (· != '\x7d')
        let left := after.dropWhile (· != '\x7d')
        (literalRun isRaw inSpec fuel (left.drop 1)).map
          (·.cons ('\\' :: 'N' :: '\x7b' :: name ++ left.take 1))
      | 'N' :: d :: after =>
        (literalRun isRaw inSpec fuel after).map (·.cons ['\\', 'N', d])
      | d :: after =>
        if d == '\x7b' || d == '\x7d' then (brace fuel d after).map (·.cons ['\\'])
        else (literalRun isRaw inSpec fuel after).map (·.cons ['\\', d])
      | [] => none
    else if c == '\x7b' || c == '\x7d' then brace fuel c rest
    else (literalRun isRaw inSpec fuel rest).map (·.cons [c])
where
  brace (_fuel : Nat) (c : Char) (rest : List Char) : Option LiteralRun :=
    if inSpec then some ⟨[], false, c :: rest⟩
    else if rest.head? == some c then some ⟨[c], true, rest.drop 1⟩
    else if c == '\x7d' then none
    else some ⟨[], false, c :: rest⟩

/-- How the text of an expression is scanned: the quote of the string we are in with whether it is
a long one, and the open brackets. -/
structure FieldScan where
  quote : Option (Char × Bool) := none
  brackets : List Char := []

/-- The text of an expression up to the character that ends it, which stays. Backslashes and
comments may not stand in an expression. -/
def expressionText (scan : FieldScan) : Nat → List Char → Option (List Char × List Char)
  | _, [] => none
  | 0, _ :: _ => none
  | fuel + 1, c :: rest =>
    let keep (next : FieldScan) (taken : List Char) (rest : List Char) :=
      (expressionText next fuel rest).map fun (text, after) => (taken ++ text, after)
    if c == '\\' then none
    else
      match scan.quote with
      | some (quote, isLong) =>
        if c == quote then
          if isLong then
            if rest.take 2 == [c, c] then keep { scan with quote := none } [c, c, c] (rest.drop 2)
            else keep scan [c] rest
          else keep { scan with quote := none } [c] rest
        else keep scan [c] rest
      | none =>
        if c == '\'' || c == '"' then
          if rest.take 2 == [c, c] then
            keep { scan with quote := some (c, true) } [c, c, c] (rest.drop 2)
          else keep { scan with quote := some (c, false) } [c] rest
        else if c == '[' || c == '\x7b' || c == '(' then
          if scan.brackets.length < 200 then
            keep { scan with brackets := c :: scan.brackets } [c] rest
          else none
        else if c == '#' then none
        else if scan.brackets.isEmpty &&
            (c == '!' || c == ':' || c == '\x7d' || c == '=' || c == '>' || c == '<') then
          if rest.head? == some '=' && (c == '!' || c == '=' || c == '<' || c == '>') then
            keep scan [c, '='] (rest.drop 1)
          else if c == '<' || c == '>' then keep scan [c] rest
          else some ([], c :: rest)
        else if c == ']' || c == '\x7d' || c == ')' then
          match scan.brackets with
          | [] => none
          | innermost :: outer =>
            let fits := (innermost == '(' && c == ')') || (innermost == '[' && c == ']') ||
              (innermost == '\x7b' && c == '\x7d')
            if fits then keep { scan with brackets := outer } [c] rest else none
        else keep scan [c] rest

def isFieldBlank (c : Char) : Bool :=
  c == ' ' || c == '\t' || c == '\n' || c == '\x0c'

def isAsciiBlank (c : Char) : Bool :=
  isFieldBlank c || c == '\x0b' || c == '\r'

def conversion? : List Char → Option (Option Conversion × List Char)
  | '!' :: mark :: next :: rest =>
    if next == ':' || next == '\x7d' then
      if mark == 's' then some (some .str, next :: rest)
      else if mark == 'r' then some (some .repr, next :: rest)
      else if mark == 'a' then some (some .ascii, next :: rest)
      else none
    else none
  | '!' :: _ => none
  | rest => some (none, rest)

/-- The pieces of a formatted string from a place on, until its end or, in a specification, until
the brace that closes it. `depth` counts the specifications we are in, `line` is the current line.
-/
def pieces (isRaw : Bool) (depth : Nat) : Nat → Nat → List Char → Option (List Piece × List Char)
  | 0, _, _ => none
  | fuel + 1, line, chars =>
    match literalRun isRaw (depth != 0) chars.length chars with
    | none => none
    | some run =>
      match codes isRaw false run.chars with
      | none => none
      | some literal =>
        let first := if literal.isEmpty then [] else [Piece.text literal]
        let line := line + run.chars.count '\n'
        if run.doubled then
          (pieces isRaw depth fuel line run.rest).map fun (more, rest) => (first ++ more, rest)
        else
          match run.rest with
          | '\x7b' :: after =>
            if 2 ≤ depth then none
            else
              (field fuel line after).bind fun (found, line, rest) =>
                (pieces isRaw depth fuel line rest).map fun (more, rest) =>
                  (first ++ found ++ more, rest)
          | rest => some (first, rest)
where
  /-- A replacement field after its opening brace: its pieces, the line it ends on and what
  follows. With `=` the text of the expression comes first. -/
  field (fuel line : Nat) (chars : List Char) : Option (List Piece × Nat × List Char) :=
    match expressionText {} chars.length chars with
    | none => none
    | some (source, rest) =>
      if source.all isFieldBlank then none
      else
        let endLine := line + source.count '\n'
        let (shown, rest, endLine) :=
          match rest with
          | '=' :: after =>
            let blanks := after.takeWhile isAsciiBlank
            ([Piece.text ((source ++ '=' :: blanks).map Char.toNat)], after.dropWhile isAsciiBlank,
              endLine + blanks.count '\n')
          | _ => ([], rest, endLine)
        match conversion? rest with
        | none => none
        | some (conversion, rest) =>
          match rest with
          | '\x7d' :: after =>
            let conversion := if shown.isEmpty || conversion.isSome then conversion else some .repr
            some (shown ++ [.field source line conversion none], endLine, after)
          | ':' :: specification =>
            match fuel with
            | 0 => none
            | fuel + 1 =>
              match pieces isRaw (depth + 1) fuel endLine specification with
              | some (spec, '\x7d' :: after) =>
                let used := specification.length - after.length
                let endLine := endLine + (specification.take used).count '\n'
                some (shown ++ [.field source line conversion (some (mergePieces spec))], endLine, after)
              | _ => none
          | _ => none

def formatPieces (isRaw : Bool) (line : Nat) (body : List Char) : Option (List Piece) :=
  match pieces isRaw 0 (2 * body.length + 2) line body with
  | some (found, []) => some found
  | _ => none

end ErpLens.Source.Literal
