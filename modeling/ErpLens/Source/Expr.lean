import ErpLens.Source.Token

/-!
# Expressions

The syntax of expressions, without the operands' layout. Of positions only the line of a call is
kept, since that is what reports name.
-/

namespace ErpLens.Source

inductive BoolOp where
  | and | or
deriving Repr, DecidableEq

inductive UnaryOp where
  | invert | not | plus | minus
deriving Repr, DecidableEq

inductive BinaryOp where
  | add | sub | mul | matMul | div | mod | shiftLeft | shiftRight | bitOr | bitXor | bitAnd
  | floorDiv | pow
deriving Repr, DecidableEq

inductive CompareOp where
  | equal | notEqual | less | lessEqual | greater | greaterEqual | is | isNot | isIn | notIn
deriving Repr, DecidableEq

/-- A literal value. Strings are code points, since an escape can name one that is no character. -/
inductive Constant where
  | none
  | bool (value : Bool)
  | ellipsis
  | number (value : Number)
  | string (codes : List Nat) (isMarked : Bool)
  | bytes (values : List Nat)
deriving Repr

inductive Conversion where
  | str | repr | ascii
deriving Repr, DecidableEq

mutual

inductive Expr where
  | boolOp (op : BoolOp) (values : List Expr)
  | named (target value : Expr)
  | binary (left : Expr) (op : BinaryOp) (right : Expr)
  | unary (op : UnaryOp) (operand : Expr)
  | lambda (params : Params) (body : Expr)
  | conditional (test body orelse : Expr)
  | dict (items : List DictItem)
  | set (elements : List Expr)
  | listComp (element : Expr) (clauses : List Comprehension)
  | setComp (element : Expr) (clauses : List Comprehension)
  | dictComp (key value : Expr) (clauses : List Comprehension)
  | generator (element : Expr) (clauses : List Comprehension)
  | await (value : Expr)
  | yield (value : Option Expr)
  | yieldFrom (value : Expr)
  | compare (left : Expr) (rest : List Comparison)
  | call (callee : Expr) (args : List Expr) (keywords : List KeywordArg) (line : Nat)
  | formatted (value : Expr) (conversion : Option Conversion) (spec : Option Expr)
  | joined (values : List Expr)
  | constant (value : Constant)
  | attribute (value : Expr) (attr : String)
  | subscript (value index : Expr)
  | starred (value : Expr)
  | name (id : String)
  | list (elements : List Expr)
  | tuple (elements : List Expr)
  | slice (lower upper step : Option Expr)

inductive DictItem where
  | pair (key value : Expr)
  | unpack (value : Expr)

inductive Comparison where
  | mk (op : CompareOp) (right : Expr)

inductive KeywordArg where
  | mk (arg : Option String) (value : Expr)

inductive Comprehension where
  | mk (target iter : Expr) (conditions : List Expr) (isAsync : Bool)

inductive Param where
  | mk (arg : String) (note : Option Expr)

/-- The parameters of a function. `defaults` belong to the last of the positional ones; each
keyword-only parameter has its own default or none. -/
inductive Params where
  | mk (posOnly positional : List Param) (varArg : Option Param) (keywordOnly : List Param)
      (keywordDefaults : List (Option Expr)) (keywordArg : Option Param) (defaults : List Expr)

end

namespace Params

def positional : Params → List Param
  | .mk _ positional _ _ _ _ _ => positional

def none : Params := .mk [] [] Option.none [] [] Option.none []

end Params

def Param.arg : Param → String
  | .mk arg _ => arg

instance : Inhabited Expr := ⟨.constant .none⟩

end ErpLens.Source
