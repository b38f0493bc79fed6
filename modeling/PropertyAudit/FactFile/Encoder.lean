import PropertyAudit.ClassFacts
import PropertyAudit.Json.Printer

/-! Facts written as JSON, with every member present. -/
namespace PropertyAudit

mutual
def ValueType.toJson : ValueType → Json
  | .mixed => .object [("type", .string "mixed")]
  | .null => .object [("type", .string "null")]
  | .string => .object [("type", .string "string")]
  | .literal value => .object [("type", .string "constant_string"), ("value", .string value)]
  | .object name => .object [("type", .string "object"), ("class", .string name)]
  | .union members =>
    .object [("type", .string "union"), ("types", .array (ValueType.allToJson members))]

def ValueType.allToJson : List ValueType → List Json
  | [] => []
  | type :: types => type.toJson :: ValueType.allToJson types
end

def PropertyName.toJson : PropertyName → Json
  | .literal name => .object [("source", .string "literal"), ("name", .string name)]
  | .computed type => .object [("source", .string "computed"), ("type", type.toJson)]

def Owner.toJson : Owner → Json
  | .expression type => .object [("via", .string "expression"), ("type", type.toJson)]
  | .classReference name =>
    .object [("via", .string "class_reference"), ("class", .ofOption .string name)]

def Scope.toJson : Scope → Json
  | .inClass name => .object [("kind", .string "in_class"), ("class", .string name)]
  | .outside => .object [("kind", .string "global")]

def AccessKind.word : AccessKind → String
  | .read => "read"
  | .write => "write"

def Visibility.word : Visibility → String
  | .isPublic => "public"
  | .isProtected => "protected"
  | .isPrivate => "private"

def ClassKind.word : ClassKind → String
  | .concrete => "class"
  | .isInterface => "interface"
  | .isTrait => "trait"
  | .isEnum => "enum"

def lineToJson (line : UInt32) : Json := .integer line.toNat

def Hierarchy.Entry.toJson (entry : Hierarchy.Entry) : Json :=
  .object [("class", .string entry.name), ("parents", .ofStrings entry.parents)]

def Declaration.toJson (declaration : Declaration) : Json := .object [
  ("name", .string declaration.name),
  ("visibility", .string declaration.visibility.word),
  ("is_static", .boolean declaration.isStatic),
  ("has_default_value", .boolean declaration.hasDefault),
  ("is_promoted", .boolean declaration.isPromoted),
  ("doc_comment", .ofOption .string declaration.docComment),
  ("attributes", .ofStrings declaration.attributes),
  ("line", lineToJson declaration.line)]

def Access.toJson (access : Access) : Json := .object [
  ("kind", .string access.kind.word),
  ("name", access.name.toJson),
  ("owner", access.owner.toJson),
  ("line", .ofOption lineToJson access.line)]

def Assignments.toJson (assignments : Assignments) : Json :=
  .object (assignments.entries.map fun (method, properties) => (method, .ofStrings properties))

def ClassFacts.toJson (facts : ClassFacts) : Json := .object [
  ("name", .string facts.name),
  ("display_name", .ofOption .string facts.displayName?),
  ("kind", .string facts.kind.word),
  ("scope", facts.scope.toJson),
  ("file", .ofOption .string facts.file),
  ("properties", .array (facts.properties.map (·.toJson))),
  ("accesses", .array (facts.accesses.map (·.toJson))),
  ("constructors", .ofStrings facts.constructors),
  ("definite_assignments", facts.assignments.toJson)]

def FactFile.toJson (facts : FactFile) : Json := .object [
  ("hierarchy", .array (facts.hierarchy.map (·.toJson))),
  ("classes", .array (facts.classes.map (·.toJson)))]

end PropertyAudit
