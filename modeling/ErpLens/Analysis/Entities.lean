import ErpLens.Source.Outline
import ErpLens.Source.Parse
import ErpLens.Source.Printer
import ErpLens.Value.Basic

/-!
# Entities of a source

The classes, plain functions and imports of a source, in the level order of its outline. An
expression without a standard form stops the listing where it stands.
-/

namespace ErpLens.Analysis

open Source

structure ClassEntity where
  name : String
  line : Nat
  methods : List String
  bases : List String
  document : String
deriving Repr, DecidableEq

structure FunctionEntity where
  name : String
  line : Nat
  args : List String
  decorators : List String
  document : String
deriving Repr, DecidableEq

inductive ImportEntity where
  | whole (module : String) (asName : Option String) (line : Nat)
  | part (module name : String) (asName : Option String) (line : Nat)
deriving Repr, DecidableEq

inductive Entity where
  | class_ (entity : ClassEntity)
  | function (entity : FunctionEntity)
  | import_ (entity : ImportEntity)
deriving Repr, DecidableEq

namespace Entity

def class? : Entity → Option ClassEntity
  | class_ entity => some entity
  | _ => none

def function? : Entity → Option FunctionEntity
  | function entity => some entity
  | _ => none

def import? : Entity → Option ImportEntity
  | import_ entity => some entity
  | _ => none

end Entity

def defaultBases : List String := ["object"]

def markEntities : Mark → Except PrintFault (List Entity)
  | .classDef head methods document => do
    let bases ← head.bases.mapM Expr.text
    return [.class_
      { name := head.name
        line := head.line
        methods
        bases := if bases.isEmpty then defaultBases else bases
        document := document.getD "" }]
  | .function head document => do
    if head.isAsync then return []
    let decorators ← head.decorators.mapM Expr.text
    return [.function
      { name := head.name
        line := head.line
        args := head.params.positional.map Param.arg
        decorators
        document := document.getD "" }]
  | .importModules names line =>
    return names.map fun imported => .import_ (.whole imported.name imported.asName line)
  | .importNames module names line =>
    return names.map fun imported =>
      .import_ (.part (module.getD "") imported.name imported.asName line)
  | .handler _ _ | .call _ _ | .other => return []

def collect : List Mark → List Entity × Option PrintFault
  | [] => ([], none)
  | mark :: rest =>
    match markEntities mark with
    | .error fault => ([], some fault)
    | .ok found =>
      let (more, fault) := collect rest
      (found ++ more, fault)

/-- What is known of a file: its entities and, once a file was read, its path and number of lines.
-/
structure FileEntities where
  classes : List ClassEntity := []
  functions : List FunctionEntity := []
  imports : List ImportEntity := []
  source : Option (String × Nat) := none
deriving Repr, DecidableEq

def entitiesOf (outline : Outline) : FileEntities × Option PrintFault :=
  let (found, fault) := collect outline.walk
  ({ classes := found.filterMap Entity.class?
     functions := found.filterMap Entity.function?
     imports := found.filterMap Entity.import? }, fault)

/-! ## As values -/

def ClassEntity.fields (entity : ClassEntity) : Fields :=
  [("name", .str entity.name), ("line", .nat entity.line), ("methods", .strs entity.methods),
    ("method_count", .nat entity.methods.length), ("bases", .strs entity.bases),
    ("docstring", .str entity.document)]

def FunctionEntity.fields (entity : FunctionEntity) : Fields :=
  [("name", .str entity.name), ("line", .nat entity.line), ("args", .strs entity.args),
    ("arg_count", .nat entity.args.length), ("decorators", .strs entity.decorators),
    ("docstring", .str entity.document)]

def ImportEntity.fields : ImportEntity → Fields
  | .whole module asName line =>
    [("type", .str "import"), ("module", .str module), ("alias", .optStr asName),
      ("line", .nat line)]
  | .part module name asName line =>
    [("type", .str "from"), ("module", .str module), ("name", .str name),
      ("alias", .optStr asName), ("line", .nat line)]

def FileEntities.toValue (entities : FileEntities) : Value :=
  let source := match entities.source with
    | none => []
    | some (path, lines) => [("file_path", .str path), ("total_lines", .nat lines)]
  .ofFields ([
    ("classes", .list (entities.classes.map fun entity => .ofFields entity.fields)),
    ("functions", .list (entities.functions.map fun entity => .ofFields entity.fields)),
    ("imports", .list (entities.imports.map fun entity => .ofFields entity.fields)),
    ("decorators", .list [])] ++ source)

end ErpLens.Analysis
