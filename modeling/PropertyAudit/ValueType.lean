import PropertyAudit.Hierarchy
import PropertyAudit.Trinary

/-! Inferred types of values, as far as the audit looks at them: unknown, null, text, text of a
known value, objects of a class, and unions of these. -/
namespace PropertyAudit

inductive ValueType where
  | mixed
  | null
  | string
  | literal (value : String)
  | object (name : String)
  | union (members : List ValueType)
deriving Repr

namespace ValueType

def isNull : ValueType → Bool
  | null => true
  | _ => false

mutual
/-- Whether nothing is known about some member. -/
def isMixed : ValueType → Bool
  | mixed => true
  | union members => anyMixed members
  | _ => false

def anyMixed : List ValueType → Bool
  | [] => false
  | type :: types => type.isMixed || anyMixed types
end

mutual
/-- The values of a type that consists of text of known value alone; of any other type, none. -/
def literals : ValueType → List String
  | literal value => [value]
  | union members => (literalsOfAll members).getD []
  | _ => []

def literalsOfAll : List ValueType → Option (List String)
  | [] => some []
  | type :: types =>
    match type.literals with
    | [] => none
    | values => (literalsOfAll types).map (values ++ ·)
end

/-- A union, unless it has exactly one member. -/
def unionOf : List ValueType → ValueType
  | [only] => only
  | members => union members

mutual
def withoutNull : ValueType → ValueType
  | union members => unionOf (membersWithoutNull members)
  | type => type

def membersWithoutNull : List ValueType → List ValueType
  | [] => []
  | type :: types =>
    if type.isNull then membersWithoutNull types
    else type.withoutNull :: membersWithoutNull types
end

mutual
/-- Whether each value of the type is an object of the class `name` or of one below it. -/
def isBelow (hierarchy : Hierarchy) (name : String) : ValueType → Trinary
  | mixed => .maybe
  | null | string | literal _ => .no
  | object candidate =>
    if candidate = name then .yes
    else if hierarchy.contains candidate then .ofBool (hierarchy.isSubclassOf candidate name)
    else .maybe
  | union members => (areBelow hierarchy name members).getD .no

/-- The common answer of all members, if there is any member. -/
def areBelow (hierarchy : Hierarchy) (name : String) : List ValueType → Option Trinary
  | [] => none
  | type :: types =>
    match areBelow hierarchy name types with
    | none => some (type.isBelow hierarchy name)
    | some answer => some ((type.isBelow hierarchy name).and answer)
end

/-- Whether each value of `other` has the type `receiver`; only objects have such values here. -/
def isSupertypeOf (receiver other : ValueType) (hierarchy : Hierarchy) : Trinary :=
  match receiver with
  | object name => other.isBelow hierarchy name
  | _ => .no

end ValueType
end PropertyAudit
