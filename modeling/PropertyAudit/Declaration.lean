/-! Declarations of properties. -/
namespace PropertyAudit

inductive Visibility where
  | isPublic
  | isProtected
  | isPrivate
deriving Repr, DecidableEq

structure Declaration where
  name : String
  visibility : Visibility
  isStatic : Bool
  hasDefault : Bool
  /-- Declared by a parameter of the constructor. -/
  isPromoted : Bool
  docComment : Option String
  attributes : List String
  line : UInt32
deriving Repr, DecidableEq

namespace Declaration

def isPrivate (declaration : Declaration) : Bool := declaration.visibility == .isPrivate

def assigns (declaration : Declaration) : Bool := declaration.hasDefault || declaration.isPromoted

end Declaration
end PropertyAudit
