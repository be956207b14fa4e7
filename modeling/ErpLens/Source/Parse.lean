import ErpLens.Source.Grammar.Statements

/-!
# Parsing a source

Ties the rules of the grammar together and reads a whole source. How deep phrases may nest is
bounded by the length of the source, since every level takes at least one character.
-/

namespace ErpLens.Source

namespace Grammar

/-- One round of the grammar: what each rule reads, given a way to read what nests in it. -/
def rule (rules : Rules) : Rules
  | .expression => expression rules
  | .disjunction => disjunction rules
  | .inversion => inversion rules
  | .bitOr => bitOr rules
  | .factor => factor rules
  | .primary => primary rules
  | .pattern => pattern rules
  | .block => block rules

/-- The rules for phrases that nest less than `depth` deep. -/
def run : Nat → Rules
  | 0, _, _ => none
  | depth + 1, phrase, stream => rule (run depth) phrase stream

def file (rules : Rules) : Reader Module := do
  let body ← Reader.many (statement rules)
  match ← Reader.peek with
  | .finish => return ⟨body.flatten⟩
  | _ => failure

def wholeExpression (rules : Rules) : Reader Expr := do
  let (values, comma) ← Reader.commaList (rules .expression)
  let _ ← Reader.many Reader.newline
  match ← Reader.peek with
  | .finish =>
    match values with
    | [value] => return if comma then .tuple [value] else value
    | _ => return .tuple values
  | _ => failure

end Grammar

inductive SyntaxFault where
  | nullCharacter
  | malformed
deriving Repr, DecidableEq

def parse (source : String) : Except SyntaxFault Module :=
  let chars := source.toList
  if chars.contains '\x00' then .error .nullCharacter
  else
    match Lexer.tokenize 1 chars with
    | none => .error .malformed
    | some tokens =>
      match Grammar.file (Grammar.run (8 * (chars.length + 2))) (.ofTokens 1 tokens) with
      | some (tree, _) => .ok tree
      | none => .error .malformed

def parseExpression? (source : String) : Option Expr :=
  let chars := source.toList
  if chars.contains '\x00' then none
  else do
    let tokens ← Lexer.tokenize 1 chars
    let (tree, _) ← Grammar.wholeExpression (Grammar.run (8 * (chars.length + 2))) (.ofTokens 1 tokens)
    return tree

end ErpLens.Source
