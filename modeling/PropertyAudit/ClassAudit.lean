import PropertyAudit.Correlation
import PropertyAudit.Failure
import PropertyAudit.Initialization
import PropertyAudit.Verdict

/-! The audit of one class. -/
namespace PropertyAudit

inductive AuditOutcome where
  | analyzed
  | unsupported (kind : ClassKind)
  | noPrivateProperties
  /-- An access that may reach any name silences the class; its line is kept. -/
  | abandoned (line : Option UInt32)
deriving Repr, DecidableEq

structure ClassAudit where
  name : String
  outcome : AuditOutcome
  /-- The verdict on each private property, in the order of their declarations. -/
  verdicts : List (String × Verdict)
  diagnostics : List Diagnostic
  counts : VerdictCounts
deriving Repr

namespace ClassAudit

def silent (name : String) (outcome : AuditOutcome) : ClassAudit := ⟨name, outcome, [], [], .zero⟩

def verdictOf? (audit : ClassAudit) (property : String) : Option Verdict :=
  audit.verdicts.lookup property

end ClassAudit

/-- What is the same for all classes of an audit. -/
structure Auditor where
  options : Options
  extensions : List Extension
  oracle : Oracle

namespace Auditor

def addNew (known : List String) : List String → List String
  | [] => known
  | name :: names => addNew (if known.contains name then known else known ++ [name]) names

/-- The constructors of the class itself, then those of the options that are not among them. -/
def constructors (auditor : Auditor) (facts : ClassFacts) : List String :=
  addNew facts.constructors auditor.options.additionalConstructors

def uninitialized (auditor : Auditor) (facts : ClassFacts) : Option (List String) :=
  if auditor.options.checkUninitialized then
    some (auditor.oracle facts (auditor.constructors facts) auditor.extensions)
  else none

def conclude (auditor : Auditor) (facts : ClassFacts) (table : PropertyTable) : ClassAudit :=
  let verdicts := table.verdicts (auditor.uninitialized facts)
  { name := facts.name
    outcome := .analyzed
    verdicts := verdicts.map fun (record, verdict) => (record.name, verdict)
    diagnostics := verdicts.filterMap fun (record, verdict) => facts.diagnostic? record verdict
    counts := .ofVerdicts (verdicts.map (·.2)) }

/-- The audit of one class. It fails only for a class met outside the scope of any class. -/
def audit (auditor : Auditor) (hierarchy : Hierarchy) (facts : ClassFacts) :
    Except Failure ClassAudit :=
  match facts.scope, facts.kind with
  | .outside, _ => .error (.outsideClass facts.name)
  | .inClass _, .concrete =>
    let table := PropertyTable.ofClass auditor.options auditor.extensions facts
    if table.isEmpty then .ok (.silent facts.name .noPrivateProperties)
    else
      match table.correlate facts hierarchy with
      | (.abandoned line, _) => .ok (.silent facts.name (.abandoned line))
      | (.applied _ _, table) => .ok (auditor.conclude facts table)
  | .inClass _, kind => .ok (.silent facts.name (.unsupported kind))

end Auditor
end PropertyAudit
