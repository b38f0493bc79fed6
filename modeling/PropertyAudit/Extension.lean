import PropertyAudit.Usage
import PropertyAudit.Declaration

/-! Extensions know of reads and writes that no code shows, such as those of a serializer. Each is
asked about a property of a class; what one affirms, no other can take back. Answers come with the
questions that were put to find them. -/
namespace PropertyAudit

structure Extension where
  alwaysRead : String → Declaration → Bool
  alwaysWritten : String → Declaration → Bool
  initialized : String → Declaration → Bool

namespace Extension

inductive Question where
  | read (index : Nat)
  | written (index : Nat)
  | initialized (index : Nat)
deriving Repr, DecidableEq

/-- Asks the extensions from `index` on for what `found` lacks, until nothing is lacking. -/
def resolveFrom (name : String) (property : Declaration) :
    Nat → Usage → List Extension → Usage × List Question
  | _, found, [] => (found, [])
  | index, found, extension :: extensions =>
    let next : Usage :=
      ⟨found.read || extension.alwaysRead name property,
        found.written || extension.alwaysWritten name property⟩
    let asked := (if found.read then [] else [.read index]) ++
      (if found.written then [] else [.written index])
    if next.isComplete then (next, asked)
    else
      let (usage, questions) := resolveFrom name property (index + 1) next extensions
      (usage, asked ++ questions)

def resolve (extensions : List Extension) (name : String) (property : Declaration) :
    Usage × List Question := resolveFrom name property 0 .none extensions

def initializedFrom (name : String) (property : Declaration) :
    Nat → List Extension → Bool × List Question
  | _, [] => (false, [])
  | index, extension :: extensions =>
    if extension.initialized name property then (true, [.initialized index])
    else
      let (answer, questions) := initializedFrom name property (index + 1) extensions
      (answer, .initialized index :: questions)

def isInitialized (extensions : List Extension) (name : String) (property : Declaration) :
    Bool × List Question := initializedFrom name property 0 extensions

end Extension
end PropertyAudit
