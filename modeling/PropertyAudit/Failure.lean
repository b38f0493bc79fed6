import PropertyAudit.Disk
import PropertyAudit.Json.Fault

/-! Why an audit fails. A class whose facts do not allow an audit is no failure. -/
namespace PropertyAudit

inductive Failure where
  | unreadable (path : Path) (fault : IoFault)
  | malformed (path : Path) (fault : Json.Located)
  | missingRoot (root : Path)
  | outsideClass (name : String)

namespace Failure

def message : Failure → String
  | unreadable path fault => "I/O error at " ++ path.text ++ ": " ++ fault.message
  | malformed path fault => "Malformed fact file " ++ path.text ++ ": " ++ fault.message
  | missingRoot root => "Invalid argument: fact path does not exist: " ++ root.text
  | outsideClass name =>
    "Class analysis requested outside of a class scope (declared class: " ++ name ++ ")"

def isRecoverable : Failure → Bool
  | malformed _ _ => true
  | _ => false

def path? : Failure → Option Path
  | unreadable path _ | malformed path _ => some path
  | _ => none

end Failure
end PropertyAudit
