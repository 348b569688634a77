import CatalogSearch.Value.Basic
namespace CatalogSearch.Engine

inductive FieldType where
  | keyword
  | float
  | integer
  | text
  deriving DecidableEq

def FieldType.name : FieldType → String
  | keyword => "keyword"
  | float => "float"
  | integer => "integer"
  | text => "text"

structure FieldMapping where
  type : FieldType
  ignoreAbove : Option Int := none
  subfields : List (String × FieldType × Int) := []

inductive TemplateRule where
  | named (start : String)
  | anyText

def TemplateRule.fits (name : String) : TemplateRule → Bool
  | .named start => start.toList.isPrefixOf name.toList
  | .anyText => true

structure Template where
  name : String
  rule : TemplateRule
  mapping : FieldMapping

/-- Fields known by name, and templates for the fields that come up later. -/
structure IndexMapping where
  templates : List Template
  properties : List (String × FieldMapping)

def keywordSubfield : String := "keyword"

def namedTemplates : List Template := [
  ⟨"sort_fields", .named "sort_by_", { type := .keyword, ignoreAbove := some 256 }⟩,
  ⟨"price_fields", .named "price_", { type := .float }⟩,
  ⟨"position_fields", .named "position_category_", { type := .integer }⟩]

def textMapping : FieldMapping := { type := .text, subfields := [(keywordSubfield, .keyword, 256)] }

def catalogMapping : IndexMapping where
  templates := namedTemplates ++ [⟨"string_fields", .anyText, textMapping⟩]
  properties := [
    ("unique", { type := .keyword }),
    ("id", { type := .integer }),
    ("store_id", { type := .integer }),
    ("visibility", { type := .integer }),
    ("in_stock", { type := .integer }),
    ("categories", { type := .integer }),
    ("show_in_categories", { type := .integer }),
    ("price", { type := .float }),
    ("_options", { type := .text })]

def typeValue (type : FieldType) (ignoreAbove : Option Int) : List (String × Value) :=
  ("type", .text type.name) :: match ignoreAbove with
    | some n => [("ignore_above", .int n)]
    | none => []

def FieldMapping.toValue (m : FieldMapping) : Value :=
  .ofFields (typeValue m.type m.ignoreAbove ++
    if m.subfields.isEmpty then []
    else [("fields", .ofFields (m.subfields.map fun f => (f.1, .ofFields (typeValue f.2.1 (some f.2.2)))))])

def Template.toValue (t : Template) : Value :=
  let rule : String × Value := match t.rule with
    | .named start => ("match", .text (start ++ "*"))
    | .anyText => ("match_mapping_type", .text "string")
  .ofFields [(t.name, .ofFields [rule, ("mapping", t.mapping.toValue)])]

def IndexMapping.toValue (m : IndexMapping) : Value :=
  .ofFields [
    ("dynamic_templates", .list (m.templates.map Template.toValue)),
    ("properties", .ofFields (m.properties.map fun p => (p.1, p.2.toValue)))]

/-- How the engine indexes a text under a name: as its property says, else as the first template that fits. -/
def IndexMapping.ofText? (m : IndexMapping) (name : String) : Option FieldMapping :=
  match m.properties.lookup name with
  | some p => some p
  | none => (m.templates.find? fun t => t.rule.fits name).map Template.mapping

end CatalogSearch.Engine
