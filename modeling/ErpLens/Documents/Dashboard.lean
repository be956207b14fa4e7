import ErpLens.Reports.Column

/-!
# Dashboards

The dashboard of a document shows the documents that refer to it, in groups, and the field by which
they do.
-/

namespace ErpLens.Documents

structure Dashboard where
  document : String
  field : Option String := some (Reports.addressOf document)
  groups : List (String × List String) := []
  reports : List (String × List String) := []
  fields : List (String × String) := []
  /-- The kinds that this document itself refers to, with the table and field that hold them. -/
  inner : List (String × List String) := []
  /-- The kinds that refer to this document and that it refers to. -/
  innerAndOuter : List (String × List String) := []
  /-- The fields whose kind of document is in a second field. -/
  dynamic : List (String × List String) := []
  heatmap : Option String := none
  notMade : List String := []
  more : Fields := []

namespace Dashboard

def of (document : String) (groups : List (String × List String))
    (fields : List (String × String) := []) : Dashboard :=
  { document, groups, fields }

def filled (key : String) (items : List Value) : Fields :=
  if items.isEmpty then [] else [(key, .list items)]

def named (key : String) (values : Fields) : Fields :=
  if values.isEmpty then [] else [(key, .ofFields values)]

def texts (values : List (String × List String)) : Fields :=
  values.map fun (name, texts) => (name, .strs texts)

def groupValue (label : String) (items : List String) : Value :=
  .ofFields ((if label.isEmpty then [] else [("label", .str label)]) ++ [("items", .strs items)])

def toValue (dashboard : Dashboard) : Value :=
  .ofFields (
    (dashboard.field.toList.map fun field => ("fieldname", .str field)) ++
    filled "transactions" (dashboard.groups.map groupValue.uncurry) ++
    filled "reports" (dashboard.reports.map groupValue.uncurry) ++
    named "non_standard_fieldnames" (dashboard.fields.map fun (name, field) => (name, .str field)) ++
    named "internal_links" (texts dashboard.inner) ++
    named "internal_and_external_links" (texts dashboard.innerAndOuter) ++
    named "dynamic_links" (texts dashboard.dynamic) ++
    (dashboard.heatmap.toList.flatMap fun message =>
      [("heatmap", .bool true), ("heatmap_message", .str message)]) ++
    filled "disable_create_buttons" (dashboard.notMade.map .str) ++
    dashboard.more)

end Dashboard

end ErpLens.Documents
