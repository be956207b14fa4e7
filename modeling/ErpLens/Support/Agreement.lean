import ErpLens.Value.Basic

/-!
# Fields of service level agreements

The fields that a kind of document gets when service level agreements apply to it.
-/

namespace ErpLens.Support

structure FormField where
  name : String
  kind : String
  label : String := ""
  options : String := ""
  default_ : String := ""
  dependsOn : String := ""
  marks : List String := []

def FormField.toValue (field : FormField) : Value :=
  let texts := [("label", field.label), ("options", field.options), ("default", field.default_),
    ("depends_on", field.dependsOn)]
  .ofFields ([("fieldname", .str field.name), ("fieldtype", .str field.kind)] ++
    (texts.filter fun (_, text) => !text.isEmpty).map (fun (key, text) => (key, .str text)) ++
    field.marks.map fun mark => (mark, .int 1))

def agreementFields : List FormField := [
  { name := "service_level_section", kind := "Section Break", label := "Service Level",
    marks := ["collapsible"] },
  { name := "service_level_agreement", kind := "Link", label := "Service Level Agreement",
    options := "Service Level Agreement" },
  { name := "priority", kind := "Link", label := "Priority", options := "Issue Priority" },
  { name := "response_by", kind := "Datetime", label := "Response By", marks := ["read_only"] },
  { name := "first_responded_on", kind := "Datetime", label := "First Responded On",
    marks := ["no_copy", "read_only"] },
  { name := "on_hold_since", kind := "Datetime", label := "On Hold Since",
    marks := ["hidden", "read_only"] },
  { name := "total_hold_time", kind := "Duration", label := "Total Hold Time",
    marks := ["read_only"] },
  { name := "cb", kind := "Column Break", marks := ["read_only"] },
  { name := "agreement_status", kind := "Select", label := "Service Level Agreement Status",
    options := "First Response Due\nResolution Due\nFulfilled\nFailed",
    default_ := "First Response Due", marks := ["read_only"] },
  { name := "sla_resolution_by", kind := "Datetime", label := "Resolution By",
    marks := ["read_only"] },
  { name := "service_level_agreement_creation", kind := "Datetime",
    label := "Service Level Agreement Creation", marks := ["hidden", "read_only"] },
  { name := "sla_resolution_date", kind := "Datetime", label := "Resolution Date",
    dependsOn := "eval:!doc.__islocal", marks := ["no_copy", "read_only"] }]

def agreementForm : List Value := agreementFields.map FormField.toValue

end ErpLens.Support
