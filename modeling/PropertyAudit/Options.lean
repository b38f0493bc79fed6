/-! What can be set for an audit, beside extensions. -/
namespace PropertyAudit

structure Options where
  /-- Texts that mark a property as read wherever they stand in its comment. -/
  alwaysReadTags : List String
  alwaysWrittenTags : List String
  /-- Whether a property that is read, never written and not initialized passes unreported. -/
  checkUninitialized : Bool
  /-- Methods that count as constructors of every class. -/
  additionalConstructors : List String
deriving Repr, DecidableEq

def Options.default : Options := ⟨[], [], false, []⟩

end PropertyAudit
