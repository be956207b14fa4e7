import ErpLens.Text.Digit
import ErpLens.Text.Lines
import ErpLens.Value.Arithmetic

/-!
# Bank statements

The number of a statement is cut to the length that the format allows, rows without content are left
out, and the party of a transaction is looked for by its account or its name.

A statement number stands on a line of its own behind the tag `:28C:`, with at least six digits,
perhaps a sequence number behind a slash, and blanks.
-/

namespace ErpLens.Accounts.Bank

/-! ## Statement numbers -/

def numberTag : List Char := ":28C:".toList

def numberLength : Nat := 5

structure NumberField where
  digits : List Char
  sequence : List Char
  rest : List Char

def sequenceOf : List Char → List Char × List Char
  | '/' :: rest =>
    let digits := rest.takeWhile Text.isDigit
    if digits.isEmpty then ([], '/' :: rest) else ('/' :: digits, rest.dropWhile Text.isDigit)
  | chars => ([], chars)

def longNumber? (chars : List Char) : Option NumberField :=
  if numberTag.isPrefixOf chars then
    let behind := chars.drop numberTag.length
    let digits := behind.takeWhile Text.isDigit
    let (sequence, rest) := sequenceOf (behind.dropWhile Text.isDigit)
    if digits.length ≤ numberLength then none else some ⟨digits, sequence, rest⟩
  else none

def NumberField.shortened (found : NumberField) : List Char :=
  numberTag ++ found.digits.drop (found.digits.length - numberLength) ++ found.sequence

/-- The longest run of blanks that ends at the end of a line or of the text, and what follows. -/
def blanksToLineEnd (chars : List Char) : Option (List Char × List Char) :=
  let blanks := chars.takeWhile Text.isBlank
  match chars.dropWhile Text.isBlank with
  | [] => some (blanks, [])
  | rest =>
    let lastLine := blanks.reverse.takeWhile (· != '\n')
    if lastLine.length = blanks.length then none
    else
      let kept := blanks.take (blanks.length - lastLine.length - 1)
      some (kept, '\n' :: lastLine.reverse ++ rest)

def numberAt? (chars : List Char) : Option (NumberField × List Char × List Char) := do
  let field ← longNumber? chars
  let (blanks, rest) ← blanksToLineEnd field.rest
  return (field, blanks, rest)

/-- Shortens the numbers of a text; `atLineStart` tells whether a line starts here. -/
def shortenFrom (atLineStart : Bool) (chars : List Char) : List Char :=
  match if atLineStart then numberAt? chars else none with
  | some (field, blanks, rest) =>
    if _shorter : rest.length < chars.length then
      field.shortened ++ blanks ++ shortenFrom (blanks.getLast? == some '\n') rest
    else chars
  | none =>
    match chars with
    | [] => []
    | c :: rest => c :: shortenFrom (c == '\n') rest
termination_by chars.length

def shortenNumbers (text : String) : String :=
  if Text.occursIn numberTag text.toList then String.ofList (shortenFrom true text.toList) else text

/-! ## Rows and parties -/

def isEmptyCell (cell : Value) : Bool :=
  cell == .str "" || cell == .null

def filledRows (rows : Value) : Outcome Value := do
  return .list (← (← rows.items).filterM fun row => return !(← row.items).all isEmptyCell)

def accountFilters (transaction party : Value) : Outcome Value := do
  let number ← transaction.field "bank_party_account_number"
  let iban ← transaction.field "bank_party_iban"
  let numberField := if party.isText "Employee" then "bank_ac_no" else "bank_account_no"
  return .ofFields ((if number.truth then [(numberField, number)] else []) ++
    (if iban.truth then [("iban", iban)] else []))

def scoreLimit : Value := .int 80

/-- The party of the best match, if it stands out, and whether to stop looking. Matches are a name,
a score and a party, the best first. -/
def closestParty (found : Value) : Outcome (Value × Bool) := do
  if !found.truth then return (.null, false)
  let first ← found.item (.int 0)
  let score ← first.item (.int 1)
  let isGood ← Value.greaterThan score scoreLimit
  if (← found.size) = 1 then
    if isGood then return (← first.item (.int 2), true) else return (.null, true)
  else if !isGood then return (.null, false)
  else if score == (← (← found.item (.int 1)).item (.int 1)) then return (.null, true)
  else return (← first.item (.int 2), true)

def matchMessage (inPart whole : Value) : Outcome (String × String) := do
  if !inPart.truth && !whole.truth then
    return ("No matches occurred via auto reconciliation", "blue")
  let wholeText ← if whole.truth then
      pure (toString (← whole.size) ++ " Transaction(s) Reconciled<br>")
    else pure ""
  let partText ← if inPart.truth then do
      let count ← inPart.size
      let noun := if count > 1 then "Transactions" else "Transaction"
      pure s!"{count} {noun} Partially Reconciled"
    else pure ""
  return (wholeText ++ partText, "green")

end ErpLens.Accounts.Bank
