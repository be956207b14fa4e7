import ErpLens.Value.Access

/-!
# Templates for printing

Which templates print the tables of a document. The compact form of the item table puts several
fields into the description and leaves their columns out.
-/

namespace ErpLens.Documents

def templatePath (name : String) : String :=
  "templates/print_formats/includes/" ++ name ++ ".html"

def template (name : String) : Value :=
  .str (templatePath name)

structure PrintSetup where
  templates : Fields := []
  childTemplates : Fields := []
  flags : Fields := []
  compact : Bool := false

def compactFields : List Value :=
  [.str "description", .str "qty", .str "rate", .str "amount"]

def bundleTemplate : String × Value :=
  ("serial_and_batch_bundle", template "serial_and_batch_bundle")

def itemSetup (compact : Bool) : PrintSetup where
  templates := [("items", template "items")]
  childTemplates :=
    [("items", .ofFields ([("qty", template "item_table_qty"), bundleTemplate] ++
        if compact then [("description", template "item_table_description")] else [])),
      ("packed_items", .ofFields [bundleTemplate]), ("supplied_items", .ofFields [bundleTemplate])]
  flags := [("compact_item_fields", .list compactFields)]
  compact

/-- Adds the templates of totals and, unless taxes are shown as a table, of taxes. A document whose
item table is not set up yet cannot take them. -/
def addTaxes (setup : Option PrintSetup) (inclusive : Value) (asTable : Bool) :
    Outcome PrintSetup :=
  match setup with
  | none => .error (.missingField "'Document' object has no attribute 'print_templates'")
  | some setup =>
    .ok { setup with
      flags := setup.flags ++ [("show_inclusive_tax_in_print", inclusive)]
      templates := setup.templates ++ [("total", template "total")] ++
        if asTable then [] else [("taxes", template "taxes")] }

def formatColumns (columns compact : List Value) : List Value :=
  let hidden := compact ++ [.str "image", .str "item_code", .str "item_name"]
  columns.filter fun column => !Value.occursIn column hidden

def PrintSetup.toValue (setup : PrintSetup) (columns : List Value) : Value :=
  .ofFields [("print_templates", .ofFields setup.templates),
    ("child_print_templates", .ofFields setup.childTemplates), ("flags", .ofFields setup.flags),
    ("columns", if setup.compact then .list (formatColumns columns compactFields) else .null)]

end ErpLens.Documents
