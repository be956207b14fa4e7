import ErpLens.Source.Stmt

/-!
# Call sites of a syntax tree

Where the calls of a source stand, read off the syntax itself, with the functions around each call,
innermost first.
-/

namespace ErpLens.Source

/-! ## Calls of expressions and patterns -/

/-- A call: what is called, and on which line. -/
structure Call where
  callee : Expr
  line : Nat

mutual

def Expr.calls : Expr → List Call
  | .boolOp _ values => Expr.listCalls values
  | .named target value => target.calls ++ value.calls
  | .binary left _ right => left.calls ++ right.calls
  | .unary _ operand => operand.calls
  | .lambda params body => params.calls ++ body.calls
  | .conditional test body orelse => test.calls ++ (body.calls ++ orelse.calls)
  | .dict items => DictItem.keyCalls items ++ DictItem.valueCalls items
  | .set elements => Expr.listCalls elements
  | .listComp element clauses => element.calls ++ Comprehension.listCalls clauses
  | .setComp element clauses => element.calls ++ Comprehension.listCalls clauses
  | .dictComp key value clauses =>
    key.calls ++ (value.calls ++ Comprehension.listCalls clauses)
  | .generator element clauses => element.calls ++ Comprehension.listCalls clauses
  | .await value => value.calls
  | .yield value => Expr.optionCalls value
  | .yieldFrom value => value.calls
  | .compare left rest => left.calls ++ Comparison.listCalls rest
  | .call callee args keywords line =>
    ⟨callee, line⟩ :: (callee.calls ++ (Expr.listCalls args ++ KeywordArg.listCalls keywords))
  | .formatted value _ spec => value.calls ++ Expr.optionCalls spec
  | .joined values => Expr.listCalls values
  | .constant _ => []
  | .attribute value _ => value.calls
  | .subscript value index => value.calls ++ index.calls
  | .starred value => value.calls
  | .name _ => []
  | .list elements => Expr.listCalls elements
  | .tuple elements => Expr.listCalls elements
  | .slice lower upper step =>
    Expr.optionCalls lower ++ Expr.optionCalls upper ++ Expr.optionCalls step

def Expr.listCalls : List Expr → List Call
  | [] => []
  | e :: rest => e.calls ++ Expr.listCalls rest

def Expr.optionCalls : Option Expr → List Call
  | none => []
  | some e => e.calls

def Expr.optionsCalls : List (Option Expr) → List Call
  | [] => []
  | e :: rest => Expr.optionCalls e ++ Expr.optionsCalls rest

def DictItem.keyCalls : List DictItem → List Call
  | [] => []
  | .pair key _ :: rest => key.calls ++ DictItem.keyCalls rest
  | .unpack _ :: rest => DictItem.keyCalls rest

def DictItem.valueCalls : List DictItem → List Call
  | [] => []
  | .pair _ value :: rest => value.calls ++ DictItem.valueCalls rest
  | .unpack value :: rest => value.calls ++ DictItem.valueCalls rest

def Comparison.listCalls : List Comparison → List Call
  | [] => []
  | .mk _ right :: rest => right.calls ++ Comparison.listCalls rest

def KeywordArg.listCalls : List KeywordArg → List Call
  | [] => []
  | .mk _ value :: rest => value.calls ++ KeywordArg.listCalls rest

def Comprehension.listCalls : List Comprehension → List Call
  | [] => []
  | .mk target iter conditions _ :: rest =>
    (target.calls ++ (iter.calls ++ Expr.listCalls conditions)) ++ Comprehension.listCalls rest

def Param.calls : Param → List Call
  | .mk _ note => Expr.optionCalls note

def Param.listCalls : List Param → List Call
  | [] => []
  | param :: rest => param.calls ++ Param.listCalls rest

def Param.optionCalls : Option Param → List Call
  | none => []
  | some param => param.calls

def Params.calls : Params → List Call
  | .mk posOnly positional varArg keywordOnly keywordDefaults keywordArg defaults =>
    Param.listCalls posOnly ++ Param.listCalls positional ++ Param.optionCalls varArg ++
      Param.listCalls keywordOnly ++ Expr.optionsCalls keywordDefaults ++
      Param.optionCalls keywordArg ++ Expr.listCalls defaults

end

mutual

def Pattern.calls : Pattern → List Call
  | .value literal => literal.calls
  | .singleton _ => []
  | .sequence patterns => Pattern.listCalls patterns
  | .mapping keys patterns _ => Expr.listCalls keys ++ Pattern.listCalls patterns
  | .classOf callee patterns _ attrPatterns =>
    callee.calls ++ (Pattern.listCalls patterns ++ Pattern.listCalls attrPatterns)
  | .star _ => []
  | .capture none _ => []
  | .capture (some pattern) _ => pattern.calls
  | .alternatives patterns => Pattern.listCalls patterns

def Pattern.listCalls : List Pattern → List Call
  | [] => []
  | pattern :: rest => pattern.calls ++ Pattern.listCalls rest

end

def WithItem.calls (item : WithItem) : List Call :=
  item.context.calls ++ Expr.optionCalls item.target

/-! ## Call sites of statements -/

/-- A call together with the names of the functions around it, innermost first. -/
structure CallSite where
  call : Call
  around : List String

def sitesAt (around : List String) (calls : List Call) : List CallSite :=
  calls.map fun call => ⟨call, around⟩

mutual

/-- The call sites of a statement that itself stands in the functions `around`. -/
def Stmt.sites (around : List String) : Stmt → List CallSite
  | .functionDef head body =>
    sitesAt (head.name :: around) head.params.calls ++
      (Stmt.listSites (head.name :: around) body ++
        sitesAt (head.name :: around) (Expr.listCalls head.decorators) ++
        sitesAt (head.name :: around) (Expr.optionCalls head.returns))
  | .classDef head body =>
    sitesAt around (Expr.listCalls head.bases ++ KeywordArg.listCalls head.keywords) ++
      Stmt.listSites around body ++ sitesAt around (Expr.listCalls head.decorators)
  | .ret value => sitesAt around (Expr.optionCalls value)
  | .delete targets => sitesAt around (Expr.listCalls targets)
  | .assign targets value => sitesAt around (Expr.listCalls targets ++ value.calls)
  | .augAssign target _ value => sitesAt around (target.calls ++ value.calls)
  | .annAssign target note value =>
    sitesAt around (target.calls ++ (note.calls ++ Expr.optionCalls value))
  | .forLoop target iter body orelse _ =>
    sitesAt around target.calls ++ (sitesAt around iter.calls ++
      (Stmt.listSites around body ++ Stmt.listSites around orelse))
  | .whileLoop test body orelse =>
    sitesAt around test.calls ++ (Stmt.listSites around body ++ Stmt.listSites around orelse)
  | .branch test body orelse =>
    sitesAt around test.calls ++ (Stmt.listSites around body ++ Stmt.listSites around orelse)
  | .withBlock items body _ =>
    sitesAt around (items.flatMap WithItem.calls) ++ Stmt.listSites around body
  | .matchBlock subject cases =>
    sitesAt around subject.calls ++ MatchCase.listSites around cases
  | .raise exc cause => sitesAt around (Expr.optionCalls exc ++ Expr.optionCalls cause)
  | .tryBlock body handlers orelse final =>
    Stmt.listSites around body ++ ExceptHandler.listSites around handlers ++
      Stmt.listSites around orelse ++ Stmt.listSites around final
  | .assertion test message => sitesAt around (test.calls ++ Expr.optionCalls message)
  | .importModules _ _ => []
  | .importNames _ _ _ => []
  | .globals _ => []
  | .nonlocals _ => []
  | .expr value => sitesAt around value.calls
  | .pass => []
  | .breakLoop => []
  | .continueLoop => []

def Stmt.listSites (around : List String) : List Stmt → List CallSite
  | [] => []
  | stmt :: rest => stmt.sites around ++ Stmt.listSites around rest

def ExceptHandler.listSites (around : List String) : List ExceptHandler → List CallSite
  | [] => []
  | .mk type _ body _ :: rest =>
    (sitesAt around (Expr.optionCalls type) ++ Stmt.listSites around body) ++
      ExceptHandler.listSites around rest

def MatchCase.listSites (around : List String) : List MatchCase → List CallSite
  | [] => []
  | .mk pattern guard body :: rest =>
    (sitesAt around pattern.calls ++
      (sitesAt around (Expr.optionCalls guard) ++ Stmt.listSites around body)) ++
      MatchCase.listSites around rest

end

structure Definition where
  head : FunctionHead
  body : List Stmt

namespace Definition

def name (definition : Definition) : String :=
  definition.head.name

def stmt (definition : Definition) : Stmt :=
  .functionDef definition.head definition.body

/-- The calls anywhere in a definition. -/
def calls (definition : Definition) : List Call :=
  (definition.stmt.sites []).map CallSite.call

end Definition

mutual

/-- The definitions in a statement, each before those within it. -/
def Stmt.definitions : Stmt → List Definition
  | .functionDef head body => ⟨head, body⟩ :: Stmt.listDefinitions body
  | .classDef _ body => Stmt.listDefinitions body
  | .forLoop _ _ body orelse _ => Stmt.listDefinitions body ++ Stmt.listDefinitions orelse
  | .whileLoop _ body orelse => Stmt.listDefinitions body ++ Stmt.listDefinitions orelse
  | .branch _ body orelse => Stmt.listDefinitions body ++ Stmt.listDefinitions orelse
  | .withBlock _ body _ => Stmt.listDefinitions body
  | .matchBlock _ cases => MatchCase.listDefinitions cases
  | .tryBlock body handlers orelse final =>
    Stmt.listDefinitions body ++ ExceptHandler.listDefinitions handlers ++
      Stmt.listDefinitions orelse ++ Stmt.listDefinitions final
  | _ => []

def Stmt.listDefinitions : List Stmt → List Definition
  | [] => []
  | stmt :: rest => stmt.definitions ++ Stmt.listDefinitions rest

def ExceptHandler.listDefinitions : List ExceptHandler → List Definition
  | [] => []
  | .mk _ _ body _ :: rest => Stmt.listDefinitions body ++ ExceptHandler.listDefinitions rest

def MatchCase.listDefinitions : List MatchCase → List Definition
  | [] => []
  | .mk _ _ body :: rest => Stmt.listDefinitions body ++ MatchCase.listDefinitions rest

end

/-- A part of a source that analyses report on: a definition, a class or an import, or a handler. -/
inductive Part where
  | stmt (stmt : Stmt)
  | handler (handler : ExceptHandler)

mutual

def Stmt.parts : Stmt → List Part
  | .functionDef head body => .stmt (.functionDef head body) :: Stmt.listParts body
  | .classDef head body => .stmt (.classDef head body) :: Stmt.listParts body
  | .importModules names line => [.stmt (.importModules names line)]
  | .importNames module names line => [.stmt (.importNames module names line)]
  | .forLoop _ _ body orelse _ => Stmt.listParts body ++ Stmt.listParts orelse
  | .whileLoop _ body orelse => Stmt.listParts body ++ Stmt.listParts orelse
  | .branch _ body orelse => Stmt.listParts body ++ Stmt.listParts orelse
  | .withBlock _ body _ => Stmt.listParts body
  | .matchBlock _ cases => MatchCase.listParts cases
  | .tryBlock body handlers orelse final =>
    Stmt.listParts body ++ ExceptHandler.listParts handlers ++
      Stmt.listParts orelse ++ Stmt.listParts final
  | _ => []

def Stmt.listParts : List Stmt → List Part
  | [] => []
  | stmt :: rest => stmt.parts ++ Stmt.listParts rest

def ExceptHandler.listParts : List ExceptHandler → List Part
  | [] => []
  | .mk type name body line :: rest =>
    .handler (.mk type name body line) :: Stmt.listParts body ++ ExceptHandler.listParts rest

def MatchCase.listParts : List MatchCase → List Part
  | [] => []
  | .mk _ _ body :: rest => Stmt.listParts body ++ MatchCase.listParts rest

end

def Module.parts (module : Module) : List Part :=
  Stmt.listParts module.body

def Module.definitions (module : Module) : List Definition :=
  Stmt.listDefinitions module.body

/-- All calls of a source with the functions around them. -/
def Module.callSites (module : Module) : List CallSite :=
  Stmt.listSites [] module.body

end ErpLens.Source
