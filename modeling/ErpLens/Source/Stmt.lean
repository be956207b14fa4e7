import ErpLens.Source.Expr

/-!
# Statements

The syntax of statements. Definitions, imports, handlers and calls carry the lines that reports
name; other statements carry none.
-/

namespace ErpLens.Source

structure Alias where
  name : String
  asName : Option String
deriving Repr, DecidableEq

inductive Pattern where
  | value (value : Expr)
  | singleton (value : Constant)
  | sequence (patterns : List Pattern)
  | mapping (keys : List Expr) (patterns : List Pattern) (rest : Option String)
  | classOf (callee : Expr) (patterns : List Pattern) (attrs : List String)
      (attrPatterns : List Pattern)
  | star (name : Option String)
  | capture (pattern : Option Pattern) (name : Option String)
  | alternatives (patterns : List Pattern)

structure FunctionHead where
  name : String
  params : Params
  decorators : List Expr
  returns : Option Expr
  isAsync : Bool
  line : Nat
  endLine : Nat

structure ClassHead where
  name : String
  bases : List Expr
  keywords : List KeywordArg
  decorators : List Expr
  line : Nat

structure WithItem where
  context : Expr
  target : Option Expr

mutual

inductive Stmt where
  | functionDef (head : FunctionHead) (body : List Stmt)
  | classDef (head : ClassHead) (body : List Stmt)
  | ret (value : Option Expr)
  | delete (targets : List Expr)
  | assign (targets : List Expr) (value : Expr)
  | augAssign (target : Expr) (op : BinaryOp) (value : Expr)
  | annAssign (target note : Expr) (value : Option Expr)
  | forLoop (target iter : Expr) (body orelse : List Stmt) (isAsync : Bool)
  | whileLoop (test : Expr) (body orelse : List Stmt)
  | branch (test : Expr) (body orelse : List Stmt)
  | withBlock (items : List WithItem) (body : List Stmt) (isAsync : Bool)
  | matchBlock (subject : Expr) (cases : List MatchCase)
  | raise (exc cause : Option Expr)
  | tryBlock (body : List Stmt) (handlers : List ExceptHandler) (orelse final : List Stmt)
  | assertion (test : Expr) (message : Option Expr)
  | importModules (names : List Alias) (line : Nat)
  | importNames (module : Option String) (names : List Alias) (line : Nat)
  | globals (names : List String)
  | nonlocals (names : List String)
  | expr (value : Expr)
  | pass
  | breakLoop
  | continueLoop

inductive ExceptHandler where
  | mk (type : Option Expr) (name : Option String) (body : List Stmt) (line : Nat)

inductive MatchCase where
  | mk (pattern : Pattern) (guard : Option Expr) (body : List Stmt)

end

structure Module where
  body : List Stmt

instance : Inhabited Stmt := ⟨.pass⟩

end ErpLens.Source
