import PropertyAudit.PropertyTable

/-! Verdicts on properties, and how they are reported. -/
namespace PropertyAudit

inductive Verdict where
  | unused
  | writeOnly
  | readOnly
  | ok
  /-- Read and never written, yet left open by the constructors: something else is presumed to set
  it. -/
  | presumedInitialized
deriving Repr, DecidableEq

namespace Verdict

def word : Verdict → String
  | unused => "unused"
  | writeOnly => "write-only"
  | readOnly => "read-only"
  | ok => "ok"
  | presumedInitialized => "presumed-initialized"

/-- How a report names the verdict; nothing for those that are not reported. -/
def phrase? : Verdict → Option String
  | unused => some "an unused"
  | writeOnly => some "a write-only"
  | readOnly => some "a read-only"
  | ok | presumedInitialized => none

def isReported : Verdict → Bool
  | unused | writeOnly | readOnly => true
  | ok | presumedInitialized => false

/-- The verdicts reported are the ones that there is a phrase for. -/
theorem isSome_phrase? (verdict : Verdict) : verdict.phrase?.isSome = verdict.isReported := by
  cases verdict <;> rfl

end Verdict

/-- The verdict on a property. `uninitialized` holds names when it matters which properties the
constructors leave open. -/
def Usage.verdict (usage : Usage) (name : String) (uninitialized : Option (List String)) :
    Verdict :=
  match usage.read, usage.written with
  | false, false => .unused
  | false, true => .writeOnly
  | true, false => if uninitialized.any (·.contains name) then .presumedInitialized else .readOnly
  | true, true => .ok

def Declaration.message? (declaration : Declaration) (display : String) (verdict : Verdict) :
    Option String :=
  verdict.phrase?.map fun phrase =>
    "Class " ++ display ++ " has " ++ phrase ++
      (if declaration.isStatic then " static property $" else " property $") ++
      declaration.name ++ "."

/-- There is a message just for what is reported. -/
theorem Declaration.isSome_message? (declaration : Declaration) (display : String) (verdict : Verdict) :
    (declaration.message? display verdict).isSome = verdict.isReported := by
  rw [message?, Option.isSome_map, Verdict.isSome_phrase?]

structure Diagnostic where
  message : String
  line : UInt32
  className : String
  property : String
  verdict : Verdict
  file : Option String
deriving Repr, DecidableEq

structure VerdictCounts where
  total : Nat
  unused : Nat
  writeOnly : Nat
  readOnly : Nat
  presumedInitialized : Nat
  ok : Nat
deriving Repr, DecidableEq

namespace VerdictCounts

def zero : VerdictCounts := ⟨0, 0, 0, 0, 0, 0⟩

def record (counts : VerdictCounts) (verdict : Verdict) : VerdictCounts :=
  let counts := { counts with total := counts.total + 1 }
  match verdict with
  | .unused => { counts with unused := counts.unused + 1 }
  | .writeOnly => { counts with writeOnly := counts.writeOnly + 1 }
  | .readOnly => { counts with readOnly := counts.readOnly + 1 }
  | .presumedInitialized => { counts with presumedInitialized := counts.presumedInitialized + 1 }
  | .ok => { counts with ok := counts.ok + 1 }

def ofVerdicts (verdicts : List Verdict) : VerdictCounts := verdicts.foldl record zero

def add (a b : VerdictCounts) : VerdictCounts where
  total := a.total + b.total
  unused := a.unused + b.unused
  writeOnly := a.writeOnly + b.writeOnly
  readOnly := a.readOnly + b.readOnly
  presumedInitialized := a.presumedInitialized + b.presumedInitialized
  ok := a.ok + b.ok

theorem add_zero (a : VerdictCounts) : a.add zero = a := rfl

def reported (counts : VerdictCounts) : Nat := counts.unused + counts.writeOnly + counts.readOnly

end VerdictCounts

namespace PropertyTable

def verdicts (table : PropertyTable) (uninitialized : Option (List String)) :
    List (PropertyRecord × Verdict) :=
  table.records.map fun record => (record, record.usage.verdict record.name uninitialized)

end PropertyTable

def ClassFacts.diagnostic? (facts : ClassFacts) (record : PropertyRecord) (verdict : Verdict) :
    Option Diagnostic :=
  (record.declaration.message? facts.displayName verdict).map fun message => {
    message
    line := record.declaration.line
    className := facts.name
    property := record.name
    verdict
    file := facts.file }

end PropertyAudit
