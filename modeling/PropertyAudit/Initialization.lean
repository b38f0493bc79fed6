import PropertyAudit.ClassFacts
import PropertyAudit.Extension

/-! Properties that no constructor is sure to assign. -/
namespace PropertyAudit

/-- Tells which properties of a class may be left without a value by the given constructors. -/
abbrev Oracle := ClassFacts → List String → List Extension → List String

namespace ClassFacts

/-- Instance properties that neither their declaration nor one of the methods gives a value. -/
def unassignedBy (facts : ClassFacts) (constructors : List String) : List Declaration :=
  let assigned := facts.assignments.assignedBy constructors
  facts.properties.filter fun declaration =>
    !declaration.isStatic && !declaration.assigns && !assigned.contains declaration.name

/-- The names of unassigned properties that no extension reports initialized, with the questions put
to extensions. -/
def uninitialized (facts : ClassFacts) (constructors : List String) (extensions : List Extension) :
    List String × List Extension.Question :=
  let answers := (facts.unassignedBy constructors).map fun declaration =>
    (declaration.name, Extension.isInitialized extensions facts.name declaration)
  ((answers.filter (!·.2.1)).map (·.1), answers.flatMap (·.2.2))

end ClassFacts

namespace Oracle

def definiteAssignment : Oracle := fun facts constructors extensions =>
  (facts.uninitialized constructors extensions).1

def nothingUninitialized : Oracle := fun _ _ _ => []

def always (names : List String) : Oracle := fun _ _ _ => names

end Oracle
end PropertyAudit
