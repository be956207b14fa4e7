import ErpLens.Source.Stmt
import ErpLens.Text.Lines
import ErpLens.Text.Quoted
import ErpLens.Tree

/-!
# Outlines

The outline of a source is its syntax tree with, at each node, what the analyses look at. All other
nodes are there too, since their place decides the level of what stands below them; only operators
and the contexts of names are left out.
-/

namespace ErpLens.Source

inductive Mark where
  | function (head : FunctionHead) (document : Option String)
  | classDef (head : ClassHead) (methods : List String) (document : Option String)
  | importModules (names : List Alias) (line : Nat)
  | importNames (module : Option String) (names : List Alias) (line : Nat)
  | handler (type : Option Expr) (line : Nat)
  | call (callee : Expr) (line : Nat)
  | other

abbrev Outline := Tree Mark

def Outline.plain (children : List Outline) : Outline :=
  .node .other children

open Outline (plain)

mutual

def Expr.outline : Expr → Outline
  | .boolOp _ values => plain (Expr.outlines values)
  | .named target value => plain [target.outline, value.outline]
  | .binary left _ right => plain [left.outline, right.outline]
  | .unary _ operand => plain [operand.outline]
  | .lambda params body => plain [params.outline, body.outline]
  | .conditional test body orelse => plain [test.outline, body.outline, orelse.outline]
  | .dict items => plain (DictItem.keyOutlines items ++ DictItem.valueOutlines items)
  | .set elements => plain (Expr.outlines elements)
  | .listComp element clauses => plain (element.outline :: Comprehension.outlines clauses)
  | .setComp element clauses => plain (element.outline :: Comprehension.outlines clauses)
  | .dictComp key value clauses =>
    plain (key.outline :: value.outline :: Comprehension.outlines clauses)
  | .generator element clauses => plain (element.outline :: Comprehension.outlines clauses)
  | .await value => plain [value.outline]
  | .yield value => plain (Expr.optionOutlines value)
  | .yieldFrom value => plain [value.outline]
  | .compare left rest => plain (left.outline :: Comparison.outlines rest)
  | .call callee args keywords line =>
    .node (.call callee line)
      (callee.outline :: (Expr.outlines args ++ KeywordArg.outlines keywords))
  | .formatted value _ spec => plain (value.outline :: Expr.optionOutlines spec)
  | .joined values => plain (Expr.outlines values)
  | .constant _ => plain []
  | .attribute value _ => plain [value.outline]
  | .subscript value index => plain [value.outline, index.outline]
  | .starred value => plain [value.outline]
  | .name _ => plain []
  | .list elements => plain (Expr.outlines elements)
  | .tuple elements => plain (Expr.outlines elements)
  | .slice lower upper step =>
    plain (Expr.optionOutlines lower ++ Expr.optionOutlines upper ++ Expr.optionOutlines step)

def Expr.outlines : List Expr → List Outline
  | [] => []
  | e :: rest => e.outline :: Expr.outlines rest

def Expr.optionOutlines : Option Expr → List Outline
  | none => []
  | some e => [e.outline]

def Expr.optionsOutlines : List (Option Expr) → List Outline
  | [] => []
  | e :: rest => Expr.optionOutlines e ++ Expr.optionsOutlines rest

def DictItem.keyOutlines : List DictItem → List Outline
  | [] => []
  | .pair key _ :: rest => key.outline :: DictItem.keyOutlines rest
  | .unpack _ :: rest => DictItem.keyOutlines rest

def DictItem.valueOutlines : List DictItem → List Outline
  | [] => []
  | .pair _ value :: rest => value.outline :: DictItem.valueOutlines rest
  | .unpack value :: rest => value.outline :: DictItem.valueOutlines rest

def Comparison.outlines : List Comparison → List Outline
  | [] => []
  | .mk _ right :: rest => right.outline :: Comparison.outlines rest

def KeywordArg.outlines : List KeywordArg → List Outline
  | [] => []
  | .mk _ value :: rest => plain [value.outline] :: KeywordArg.outlines rest

def Comprehension.outlines : List Comprehension → List Outline
  | [] => []
  | .mk target iter conditions _ :: rest =>
    plain (target.outline :: iter.outline :: Expr.outlines conditions) ::
      Comprehension.outlines rest

def Param.outline : Param → Outline
  | .mk _ note => plain (Expr.optionOutlines note)

def Param.outlines : List Param → List Outline
  | [] => []
  | param :: rest => param.outline :: Param.outlines rest

def Param.optionOutlines : Option Param → List Outline
  | none => []
  | some param => [param.outline]

def Params.outline : Params → Outline
  | .mk posOnly positional varArg keywordOnly keywordDefaults keywordArg defaults =>
    plain (Param.outlines posOnly ++ Param.outlines positional ++ Param.optionOutlines varArg ++
      Param.outlines keywordOnly ++ Expr.optionsOutlines keywordDefaults ++
      Param.optionOutlines keywordArg ++ Expr.outlines defaults)

end

mutual

def Pattern.outline : Pattern → Outline
  | .value literal => plain [literal.outline]
  | .singleton _ => plain []
  | .sequence patterns => plain (Pattern.outlines patterns)
  | .mapping keys patterns _ => plain (Expr.outlines keys ++ Pattern.outlines patterns)
  | .classOf callee patterns _ attrPatterns =>
    plain (callee.outline :: (Pattern.outlines patterns ++ Pattern.outlines attrPatterns))
  | .star _ => plain []
  | .capture none _ => plain []
  | .capture (some pattern) _ => plain [pattern.outline]
  | .alternatives patterns => plain (Pattern.outlines patterns)

def Pattern.outlines : List Pattern → List Outline
  | [] => []
  | pattern :: rest => pattern.outline :: Pattern.outlines rest

end

def WithItem.outline (item : WithItem) : Outline :=
  plain (item.context.outline :: Expr.optionOutlines item.target)

/-- The documentation that a body starts with: an expression that is a text and nothing else. -/
def document? : List Stmt → Option String
  | .expr (.constant (.string codes _)) :: _ =>
    some (Text.cleanDocument (Text.ofCodePoints codes))
  | _ => none

def methodNames (body : List Stmt) : List String :=
  body.filterMap fun
    | .functionDef head _ => if head.isAsync then none else some head.name
    | _ => none

mutual

def Stmt.outline : Stmt → Outline
  | .functionDef head body =>
    .node (.function head (document? body))
      (head.params.outline :: (Stmt.outlines body ++ Expr.outlines head.decorators ++
        Expr.optionOutlines head.returns))
  | .classDef head body =>
    .node (.classDef head (methodNames body) (document? body))
      (Expr.outlines head.bases ++ KeywordArg.outlines head.keywords ++ Stmt.outlines body ++
        Expr.outlines head.decorators)
  | .ret value => plain (Expr.optionOutlines value)
  | .delete targets => plain (Expr.outlines targets)
  | .assign targets value => plain (Expr.outlines targets ++ [value.outline])
  | .augAssign target _ value => plain [target.outline, value.outline]
  | .annAssign target note value =>
    plain (target.outline :: note.outline :: Expr.optionOutlines value)
  | .forLoop target iter body orelse _ =>
    plain (target.outline :: iter.outline :: (Stmt.outlines body ++ Stmt.outlines orelse))
  | .whileLoop test body orelse =>
    plain (test.outline :: (Stmt.outlines body ++ Stmt.outlines orelse))
  | .branch test body orelse =>
    plain (test.outline :: (Stmt.outlines body ++ Stmt.outlines orelse))
  | .withBlock items body _ => plain (items.map WithItem.outline ++ Stmt.outlines body)
  | .matchBlock subject cases => plain (subject.outline :: MatchCase.outlines cases)
  | .raise exc cause => plain (Expr.optionOutlines exc ++ Expr.optionOutlines cause)
  | .tryBlock body handlers orelse final =>
    plain (Stmt.outlines body ++ ExceptHandler.outlines handlers ++ Stmt.outlines orelse ++
      Stmt.outlines final)
  | .assertion test message => plain (test.outline :: Expr.optionOutlines message)
  | .importModules names line => .node (.importModules names line) []
  | .importNames module names line => .node (.importNames module names line) []
  | .globals _ => plain []
  | .nonlocals _ => plain []
  | .expr value => plain [value.outline]
  | .pass => plain []
  | .breakLoop => plain []
  | .continueLoop => plain []

def Stmt.outlines : List Stmt → List Outline
  | [] => []
  | stmt :: rest => stmt.outline :: Stmt.outlines rest

def ExceptHandler.outlines : List ExceptHandler → List Outline
  | [] => []
  | .mk type _ body line :: rest =>
    .node (.handler type line) (Expr.optionOutlines type ++ Stmt.outlines body) ::
      ExceptHandler.outlines rest

def MatchCase.outlines : List MatchCase → List Outline
  | [] => []
  | .mk pattern guard body :: rest =>
    plain (pattern.outline :: (Expr.optionOutlines guard ++ Stmt.outlines body)) ::
      MatchCase.outlines rest

end

def Module.outline (module : Module) : Outline :=
  plain (Stmt.outlines module.body)

end ErpLens.Source
