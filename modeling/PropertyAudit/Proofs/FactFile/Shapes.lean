import Mathlib.Logic.Relation
import PropertyAudit.FactFile.Decoder
import PropertyAudit.Proofs.Json.Payloads

/-! What parts of a text stand for in a fact file, and in what texts of the same facts may differ: the order
of members, further members where they are ignored, and members that have their default. -/
namespace PropertyAudit

open Json

/-- What a tree may stand for. What is neither a record nor a tagged value nor holds one is plain. -/
inductive Shape where
  | plain
  | list (item : Shape)
  | factFile
  | entry
  | classFacts
  | declaration
  | access
  | scope
  | propertyName
  | owner
  | valueType

namespace Shape

/-! ### Records and tagged values -/

inductive Default where
  | null
  | no
  | word (word : String)
  | noItems
  | noMembers

/-- Whether the tree spells the default. A word may also stand as the name of a null member. -/
def Default.Is : Default → Source → Prop
  | .null, source => source = .scalar .null
  | .no, source => source = .scalar (.boolean false)
  | .word text, source => ∃ content : Content, content.string? = some text ∧
      (source = .scalar (.string content) ∨ source = .object [(content, .scalar .null)])
  | .noItems, source => source = .array []
  | .noMembers, source => source = .object []

structure Field where
  name : String
  shape : Shape
  default? : Option Default

inductive Form where
  | plain
  | list (item : Shape)
  | record (fields : List Field)
  | tagged (tag : String) (cases : List (String × Option Field))

def form : Shape → Form
  | plain => .plain
  | list item => .list item
  | factFile => .record [
      ⟨"hierarchy", list entry, some .noItems⟩, ⟨"classes", list classFacts, some .noItems⟩]
  | entry => .record [⟨"class", plain, none⟩, ⟨"parents", plain, some .noItems⟩]
  | classFacts => .record [
      ⟨"name", plain, none⟩, ⟨"display_name", plain, some .null⟩, ⟨"kind", plain, some (.word "class")⟩,
      ⟨"scope", scope, none⟩, ⟨"file", plain, some .null⟩,
      ⟨"properties", list declaration, some .noItems⟩, ⟨"accesses", list access, some .noItems⟩,
      ⟨"constructors", plain, some .noItems⟩, ⟨"definite_assignments", plain, some .noMembers⟩]
  | declaration => .record [
      ⟨"name", plain, none⟩, ⟨"visibility", plain, some (.word "private")⟩,
      ⟨"is_static", plain, some .no⟩, ⟨"has_default_value", plain, some .no⟩,
      ⟨"is_promoted", plain, some .no⟩, ⟨"doc_comment", plain, some .null⟩,
      ⟨"attributes", plain, some .noItems⟩, ⟨"line", plain, none⟩]
  | access => .record [
      ⟨"kind", plain, none⟩, ⟨"name", propertyName, none⟩, ⟨"owner", owner, none⟩,
      ⟨"line", plain, some .null⟩]
  | scope => .tagged "kind" [("in_class", some ⟨"class", plain, none⟩), ("global", none)]
  | propertyName => .tagged "source" [
      ("literal", some ⟨"name", plain, none⟩), ("computed", some ⟨"type", valueType, none⟩)]
  | owner => .tagged "via" [
      ("expression", some ⟨"type", valueType, none⟩),
      ("class_reference", some ⟨"class", plain, some .null⟩)]
  | valueType => .tagged "type" [
      ("mixed", none), ("null", none), ("string", none),
      ("constant_string", some ⟨"value", plain, none⟩), ("object", some ⟨"class", plain, none⟩),
      ("union", some ⟨"types", list valueType, none⟩)]

def fields (shape : Shape) : List Field :=
  match shape.form with
  | .plain | .list _ => []
  | .record fields => fields
  | .tagged _ cases => cases.filterMap (·.2)

def chosen? (cases : List (String × Option Field)) (source : Source) : Option (Option Field) :=
  source.found?.bind fun found => (scalarOf found).bind fun json =>
    (Buffered.caseName cases json).toOption

/-- Whether further members of that name are ignored: a record has no such field, nor has the case of a
tagged value that its tag names. -/
def Ignores (shape : Shape) (members : List (Content × Source)) (name : String) : Prop :=
  match shape.form with
  | .plain | .list _ => False
  | .record fields => ∀ field ∈ fields, field.name ≠ name
  | .tagged tag cases => name ≠ tag ∧ ∀ member ∈ members, member.1.string? = some tag →
      ∀ field, chosen? cases member.2 = some (some field) → field.name ≠ name

/-! ### Parts -/

/-- Whether an item of an array may stand for something of the inner shape. The first item of a tagged value
is its tag, the second one its field. -/
def Item (shape : Shape) (index : Nat) (inner : Shape) : Prop :=
  inner = plain ∨
    match shape.form with
    | .plain => False
    | .list item => inner = item
    | .record fields => ∃ field, fields[index]? = some field ∧ inner = field.shape
    | .tagged _ _ => index = 1 ∧ ∃ field ∈ shape.fields, inner = field.shape

def Member (shape : Shape) (name : Content) (inner : Shape) : Prop :=
  inner = plain ∨ ∃ field ∈ shape.fields, name.string? = some field.name ∧ inner = field.shape

end Shape

/-- A relation between the members of an object that stands for something of that shape and those of another
one. -/
abbrev Change := Shape → List (Content × Source) → List (Content × Source) → Prop

inductive Within (change : Change) : Shape → Source → Source → Prop where
  | here {shape : Shape} {members others : List (Content × Source)} : change shape members others →
      Within change shape (.object members) (.object others)
  | item {shape inner : Shape} (before after : List Source) {item other : Source} :
      shape.Item before.length inner → Within change inner item other →
      Within change shape (.array (before ++ item :: after)) (.array (before ++ other :: after))
  | member {shape inner : Shape} (before after : List (Content × Source)) {name : Content}
      {value other : Source} : shape.Member name inner → Within change inner value other →
      Within change shape (.object (before ++ (name, value) :: after))
        (.object (before ++ (name, other) :: after))

/-- Members in another order, or a further one that is ignored, with null, a truth value, a small integer or a
string as its value. -/
inductive Variation : Change where
  | reorder {shape : Shape} {members others : List (Content × Source)} : members.Perm others →
      Variation shape members others
  | insert {shape : Shape} {members : List (Content × Source)} {content : Content} {name : String}
      {token : Token} : content.string? = some name → shape.Ignores members name → token.IsSmall →
      Variation shape members ((content, .scalar token) :: members)

/-- Without a member that has its default. -/
inductive Omission : Change where
  | leaveOut {shape : Shape} {field : Shape.Field} {standard : Shape.Default}
      (before after : List (Content × Source)) {content : Content} {value : Source} :
      field ∈ shape.fields → field.default? = some standard → content.string? = some field.name →
      standard.Is value → Omission shape (before ++ (content, value) :: after) (before ++ after)

/-- Whether the other tree arises from that of a fact file by changing the order of members and putting in
ignored ones. -/
def Varied : Source → Source → Prop := Relation.ReflTransGen (Within Variation .factFile)

/-- Whether the other tree arises from that of a fact file by leaving out members that have their default. -/
def Shortened : Source → Source → Prop := Relation.ReflTransGen (Within Omission .factFile)

end PropertyAudit
