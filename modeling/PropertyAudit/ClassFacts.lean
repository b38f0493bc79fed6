import PropertyAudit.Access
import PropertyAudit.Assignments
import PropertyAudit.Declaration

/-! What is recorded of one class, and of all classes of one file. -/
namespace PropertyAudit

inductive ClassKind where
  | concrete
  | isInterface
  | isTrait
  | isEnum
deriving Repr, DecidableEq

inductive Scope where
  | inClass (name : String)
  | outside
deriving Repr, DecidableEq

structure ClassFacts where
  name : String
  displayName? : Option String
  kind : ClassKind
  scope : Scope
  file : Option String
  properties : List Declaration
  accesses : List Access
  constructors : List String
  assignments : Assignments
deriving Repr

namespace ClassFacts

def displayName (facts : ClassFacts) : String := facts.displayName?.getD facts.name

def privateProperties (facts : ClassFacts) : List Declaration :=
  facts.properties.filter (·.isPrivate)

def repeatedAfter (seen : List String) : List Declaration → List String
  | [] => []
  | declaration :: rest =>
    if seen.contains declaration.name then declaration.name :: repeatedAfter seen rest
    else repeatedAfter (declaration.name :: seen) rest

def repeatedProperties (facts : ClassFacts) : List String := repeatedAfter [] facts.properties

end ClassFacts

structure FactFile where
  hierarchy : List Hierarchy.Entry
  classes : List ClassFacts
deriving Repr

end PropertyAudit
