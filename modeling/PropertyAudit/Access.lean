import PropertyAudit.ValueType

/-! Reads and writes of properties, as observed in code. -/
namespace PropertyAudit

inductive AccessKind where
  | read
  | write
deriving Repr, DecidableEq

inductive PropertyName where
  | literal (name : String)
  | computed (type : ValueType)
deriving Repr

/-- What the property is accessed through: a value, or a class by its name. Nothing stands for a
class reference that is itself computed. -/
inductive Owner where
  | expression (type : ValueType)
  | classReference (name : Option String)
deriving Repr

structure Access where
  kind : AccessKind
  name : PropertyName
  owner : Owner
  line : Option UInt32
deriving Repr

/-- The names the access may reach; none if it may reach any. -/
def PropertyName.candidates : PropertyName → List String
  | .literal name => [name]
  | .computed type => type.literals

end PropertyAudit
