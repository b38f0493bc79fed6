import PropertyAudit.Options
import PropertyAudit.Rule
import PropertyAudit.Text.Matching

/-! What a settings file says. What it leaves out stays open. -/
namespace PropertyAudit

structure ReportSettings where
  format : Option String
deriving Repr, DecidableEq

structure Settings where
  alwaysReadTags : Option (List String)
  alwaysWrittenTags : Option (List String)
  checkUninitialized : Option Bool
  additionalConstructors : Option (List String)
  rules : Option (List Rule)
  report : Option ReportSettings
deriving Repr, DecidableEq

namespace Settings

def empty : Settings := ⟨none, none, none, none, none, none⟩

def options (settings : Settings) : Options where
  alwaysReadTags := settings.alwaysReadTags.getD []
  alwaysWrittenTags := settings.alwaysWrittenTags.getD []
  checkUninitialized := settings.checkUninitialized.getD false
  additionalConstructors := settings.additionalConstructors.getD []

/-- The extensions of the rules in order, or the number of the first that cannot be read. -/
def extensions (settings : Settings) : Except Nat (List Extension) :=
  Rule.extensions (settings.rules.getD [])

def wantsJson (settings : Settings) : Bool :=
  ((settings.report.bind (·.format)).map (Text.equalsIgnoringCase · "json")).getD false

end Settings
end PropertyAudit
