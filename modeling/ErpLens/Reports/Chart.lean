import ErpLens.Value.Arithmetic

/-!
# Charts

A report may come with a chart: labels along an axis, and series of values over them.
-/

namespace ErpLens.Reports

structure Series where
  name : Value
  values : List Value

structure Chart where
  labels : List Value
  series : List Series
  options : Fields

namespace Series

def toValue (series : Series) : Value :=
  .ofFields [("name", series.name), ("values", .list series.values)]

def filled (name : String) (values : List Value) : List Series :=
  if values.isEmpty then [] else [⟨.str name, values⟩]

end Series

namespace Chart

def toValue (chart : Chart) : Value :=
  .ofFields (("data", .ofFields [("labels", .list chart.labels),
    ("datasets", .list (chart.series.map Series.toValue))]) :: chart.options)

def kind (name : String) : String × Value := ("type", .str name)

def colors (names : List String) : String × Value := ("colors", .strs names)

def amounts (currency : Value) : Fields :=
  [("fieldtype", .str "Currency"), ("options", .str "currency"), ("currency", currency)]

end Chart

end ErpLens.Reports
