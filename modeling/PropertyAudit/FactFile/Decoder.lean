import PropertyAudit.ClassFacts
import PropertyAudit.Json.Buffered

/-! Facts read from JSON. Members may stand in any order, unknown ones are ignored, and a member
that is missing has its default where it has one. -/
namespace PropertyAudit

open Json
open Json.Decoder (RecordField record required)

namespace ValueType

inductive Tag where
  | mixed
  | null
  | string
  | literal
  | object
  | union

def tags : List (String × Tag) := [
  ("mixed", .mixed), ("null", .null), ("string", .string), ("constant_string", .literal),
  ("object", .object), ("union", .union)]

/-- A type from its tag and the rest of its value, `nested` giving the members of a union. -/
def ofTag (nested : Json → Except Cause ValueType) (rest : Json) : Tag → Except Cause ValueType
  | .mixed => (fun _ => .mixed) <$> Buffered.nothing rest
  | .null => (fun _ => .null) <$> Buffered.nothing rest
  | .string => (fun _ => .string) <$> Buffered.nothing rest
  | .literal =>
    .literal <$>
      Buffered.single "struct variant Type::ConstantString" "value" Buffered.string none rest
  | .object =>
    .object <$> Buffered.single "struct variant Type::Object" "class" Buffered.string none rest
  | .union =>
    .union <$> Buffered.single "struct variant Type::Union" "types" (Buffered.list nested) none rest

/-- A type from a value of fewer than `levels` levels. -/
def ofJsonWithin : Nat → Json → Except Cause ValueType
  | 0, _ => .error .tooDeep
  | levels + 1, json => do
    let (tag, rest) ← Buffered.tagged "internally tagged enum Type" "type" tags json
    ofTag (ofJsonWithin levels) rest tag

def ofJson (json : Json) : Except Cause ValueType := ofJsonWithin (json.height + 1) json

end ValueType

namespace PropertyName

inductive Tag where
  | literal
  | computed

def decoder : Decoder PropertyName := fun depth => do
  let (tag, rest) ← Decoder.tagged "internally tagged enum NameSource" "source"
    [("literal", Tag.literal), ("computed", Tag.computed)] depth
  Reader.raiseError <| match tag with
    | .literal => .literal <$> Buffered.single "struct variant NameSource::Literal" "name"
        Buffered.string none rest
    | .computed => .computed <$> Buffered.single "struct variant NameSource::Computed" "type"
        ValueType.ofJson none rest

end PropertyName

namespace Owner

inductive Tag where
  | expression
  | classReference

def decoder : Decoder Owner := fun depth => do
  let (tag, rest) ← Decoder.tagged "internally tagged enum AccessOwner" "via"
    [("expression", Tag.expression), ("class_reference", Tag.classReference)] depth
  Reader.raiseError <| match tag with
    | .expression => .expression <$> Buffered.single "struct variant AccessOwner::Expression" "type"
        ValueType.ofJson none rest
    | .classReference =>
      .classReference <$> Buffered.single "struct variant AccessOwner::ClassReference" "class"
        (Buffered.optional Buffered.string) (some none) rest

end Owner

namespace Scope

inductive Tag where
  | inClass
  | outside

def decoder : Decoder Scope := fun depth => do
  let (tag, rest) ← Decoder.tagged "internally tagged enum ScopeContext" "kind"
    [("in_class", Tag.inClass), ("global", Tag.outside)] depth
  Reader.raiseError <| match tag with
    | .inClass => .inClass <$> Buffered.single "struct variant ScopeContext::InClass" "class"
        Buffered.string none rest
    | .outside => (fun _ => .outside) <$> Buffered.nothing rest

end Scope

def AccessKind.decoder : Decoder AccessKind :=
  Decoder.choice [("read", .read), ("write", .write)]

def Visibility.decoder : Decoder Visibility :=
  Decoder.choice [("public", .isPublic), ("protected", .isProtected), ("private", .isPrivate)]

def ClassKind.decoder : Decoder ClassKind :=
  Decoder.choice
    [("class", .concrete), ("interface", .isInterface), ("trait", .isTrait), ("enum", .isEnum)]

def strings : Decoder (List String) := Decoder.list Decoder.string

def Assignments.decoder : Decoder Assignments := fun depth => .ofList <$> Decoder.map strings depth

namespace Hierarchy.Entry

structure Draft where
  name : Option String := none
  parents : Option (List String) := none

def fields : List (RecordField Draft) := [
  .of "class" Decoder.string (·.name) (fun v d => { d with name := some v }) false,
  .of "parents" strings (·.parents) (fun v d => { d with parents := some v }) true]

def decoder : Decoder Entry := record "struct HierarchyEntry" fields {} fun draft => do
  return { name := ← required "class" draft.name, parents := draft.parents.getD [] }

end Hierarchy.Entry

namespace Declaration

structure Draft where
  name : Option String := none
  visibility : Option Visibility := none
  isStatic : Option Bool := none
  hasDefault : Option Bool := none
  isPromoted : Option Bool := none
  docComment : Option (Option String) := none
  attributes : Option (List String) := none
  line : Option UInt32 := none

def fields : List (RecordField Draft) := [
  .of "name" Decoder.string (·.name) (fun v d => { d with name := some v }) false,
  .of "visibility" Visibility.decoder (·.visibility)
    (fun v d => { d with visibility := some v }) true,
  .of "is_static" Decoder.boolean (·.isStatic) (fun v d => { d with isStatic := some v }) true,
  .of "has_default_value" Decoder.boolean (·.hasDefault)
    (fun v d => { d with hasDefault := some v }) true,
  .of "is_promoted" Decoder.boolean (·.isPromoted)
    (fun v d => { d with isPromoted := some v }) true,
  .of "doc_comment" (Decoder.optional Decoder.string) (·.docComment)
    (fun v d => { d with docComment := some v }) true,
  .of "attributes" strings (·.attributes) (fun v d => { d with attributes := some v }) true,
  .of "line" Decoder.word32 (·.line) (fun v d => { d with line := some v }) false]

def decoder : Decoder Declaration := record "struct MemberDeclaration" fields {} fun draft => do
  return {
    name := ← required "name" draft.name
    visibility := draft.visibility.getD .isPrivate
    isStatic := draft.isStatic.getD false
    hasDefault := draft.hasDefault.getD false
    isPromoted := draft.isPromoted.getD false
    docComment := draft.docComment.getD none
    attributes := draft.attributes.getD []
    line := ← required "line" draft.line }

end Declaration

namespace Access

structure Draft where
  kind : Option AccessKind := none
  name : Option PropertyName := none
  owner : Option Owner := none
  line : Option (Option UInt32) := none

def fields : List (RecordField Draft) := [
  .of "kind" AccessKind.decoder (·.kind) (fun v d => { d with kind := some v }) false,
  .of "name" PropertyName.decoder (·.name) (fun v d => { d with name := some v }) false,
  .of "owner" Owner.decoder (·.owner) (fun v d => { d with owner := some v }) false,
  .of "line" (Decoder.optional Decoder.word32) (·.line)
    (fun v d => { d with line := some v }) true]

def decoder : Decoder Access := record "struct AccessFact" fields {} fun draft => do
  return {
    kind := ← required "kind" draft.kind
    name := ← required "name" draft.name
    owner := ← required "owner" draft.owner
    line := draft.line.getD none }

end Access

namespace ClassFacts

structure Draft where
  name : Option String := none
  displayName : Option (Option String) := none
  kind : Option ClassKind := none
  scope : Option Scope := none
  file : Option (Option String) := none
  properties : Option (List Declaration) := none
  accesses : Option (List Access) := none
  constructors : Option (List String) := none
  assignments : Option Assignments := none

def fields : List (RecordField Draft) := [
  .of "name" Decoder.string (·.name) (fun v d => { d with name := some v }) false,
  .of "display_name" (Decoder.optional Decoder.string) (·.displayName)
    (fun v d => { d with displayName := some v }) true,
  .of "kind" ClassKind.decoder (·.kind) (fun v d => { d with kind := some v }) true,
  .of "scope" Scope.decoder (·.scope) (fun v d => { d with scope := some v }) false,
  .of "file" (Decoder.optional Decoder.string) (·.file)
    (fun v d => { d with file := some v }) true,
  .of "properties" (Decoder.list Declaration.decoder) (·.properties)
    (fun v d => { d with properties := some v }) true,
  .of "accesses" (Decoder.list Access.decoder) (·.accesses)
    (fun v d => { d with accesses := some v }) true,
  .of "constructors" strings (·.constructors) (fun v d => { d with constructors := some v }) true,
  .of "definite_assignments" Assignments.decoder (·.assignments)
    (fun v d => { d with assignments := some v }) true]

def decoder : Decoder ClassFacts := record "struct ClassUnderAnalysis" fields {} fun draft => do
  return {
    name := ← required "name" draft.name
    displayName? := draft.displayName.getD none
    kind := draft.kind.getD .concrete
    scope := ← required "scope" draft.scope
    file := draft.file.getD none
    properties := draft.properties.getD []
    accesses := draft.accesses.getD []
    constructors := draft.constructors.getD []
    assignments := draft.assignments.getD .empty }

end ClassFacts

namespace FactFile

structure Draft where
  hierarchy : Option (List Hierarchy.Entry) := none
  classes : Option (List ClassFacts) := none

def fields : List (RecordField Draft) := [
  .of "hierarchy" (Decoder.list Hierarchy.Entry.decoder) (·.hierarchy)
    (fun v d => { d with hierarchy := some v }) true,
  .of "classes" (Decoder.list ClassFacts.decoder) (·.classes)
    (fun v d => { d with classes := some v }) true]

def decoder : Decoder FactFile := record "struct FactFile" fields {} fun draft =>
  .ok { hierarchy := draft.hierarchy.getD [], classes := draft.classes.getD [] }

def ofBytes (bytes : List UInt8) : Except Located FactFile :=
  Decoder.document decoder Decoder.depthLimit bytes

def ofText (text : String) : Except Located FactFile := ofBytes (Text.bytes text)

end FactFile
end PropertyAudit
