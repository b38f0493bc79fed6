import PropertyAudit.FactFile.Gather
import PropertyAudit.Plan

/-! Audits of all classes of some fact files, summed up in the order of files and class names. -/
namespace PropertyAudit

structure Survey where
  root : Path
  /-- Files met, those skipped included. -/
  filesScanned : Nat
  filesSkipped : Nat
  classesAnalyzed : Nat
  classesAbandoned : Nat
  classesUnsupported : Nat
  diagnostics : List Diagnostic
  counts : VerdictCounts
deriving Repr

inductive SurveyFault where
  | settings (fault : SettingsFault)
  | facts (failure : Failure)
  | gathering (root : Path) (failure : Failure)

def SurveyFault.message : SurveyFault → String
  | .settings fault => fault.message
  | .facts failure => failure.message
  | .gathering root failure =>
    "Failed to gather fact files from " ++ root.text ++ ": " ++ failure.message

namespace Survey

def start (root : Path) (filesScanned : Nat) : Survey := ⟨root, filesScanned, 0, 0, 0, 0, [], .zero⟩

def add (survey : Survey) (audit : ClassAudit) : Survey :=
  let survey := match audit.outcome with
    | .analyzed => { survey with classesAnalyzed := survey.classesAnalyzed + 1 }
    | .abandoned _ => { survey with classesAbandoned := survey.classesAbandoned + 1 }
    | .unsupported _ => { survey with classesUnsupported := survey.classesUnsupported + 1 }
    | .noPrivateProperties => survey
  { survey with
    counts := survey.counts.add audit.counts
    diagnostics := survey.diagnostics ++ audit.diagnostics }

def reportedPercentage (survey : Survey) : Decimal.Binary64 :=
  if survey.counts.total = 0 then .zero
  else
    let percentage? := do
      let share ← (← Decimal.Binary64.ofNat? survey.counts.reported).div?
        (← Decimal.Binary64.ofNat? survey.counts.total)
      share.mul? (← Decimal.Binary64.ofNat? 100)
    percentage?.getD .zero

end Survey

namespace ClassFacts

/-- The facts with a file: their own, or else the one they were read from. -/
def labelled (facts : ClassFacts) (path : Path) : ClassFacts :=
  { facts with file := some (facts.file.getD path.text) }

def sortKey (facts : ClassFacts) : String × String := (facts.file.getD "", facts.name)

end ClassFacts

def keyLe (a b : String × String) : Bool := a.1 < b.1 || a.1 == b.1 && !(b.2 < a.2)

theorem keyLe_total (a b : String × String) : keyLe a b || keyLe b a := by
  by_cases first : a.1 < b.1
  · simp [keyLe, first]
  · by_cases second : b.1 < a.1
    · simp [keyLe, second]
    · have same : a.1 = b.1 := Std.le_antisymm (String.not_lt.1 second) (String.not_lt.1 first)
      rcases String.le_total a.2 b.2 with le | le
      · simp [keyLe, same, String.not_lt.2 le]
      · simp [keyLe, same, String.not_lt.2 le]

theorem keyLe_trans {a b c : String × String} (ab : keyLe a b) (bc : keyLe b c) : keyLe a c := by
  simp only [keyLe, Bool.or_eq_true, decide_eq_true_eq, Bool.and_eq_true, beq_iff_eq,
    Bool.not_eq_true', decide_eq_false_iff_not, String.not_lt] at ab bc ⊢
  rcases ab with ab | ⟨ab, second⟩
  · rcases bc with bc | ⟨bc, _⟩
    · exact .inl (String.lt_trans ab bc)
    · exact .inl (bc ▸ ab)
  · rcases bc with bc | ⟨bc, third⟩
    · exact .inl (ab ▸ bc)
    · exact .inr ⟨ab.trans bc, String.le_trans second third⟩

namespace Plan

/-- The classes that the plan does not ignore, each with its file. -/
def classesOf (plan : Plan) (files : List (Path × FactFile)) : List ClassFacts :=
  files.flatMap fun (path, facts) =>
    (facts.classes.filter (!plan.ignores ·.name)).map (·.labelled path)

def hierarchyOf (files : List (Path × FactFile)) : Hierarchy :=
  .ofEntries (files.flatMap (·.2.hierarchy))

/-- Each class with its audit, in the order of the classes. -/
def auditAll (auditor : Auditor) (hierarchy : Hierarchy) (classes : List ClassFacts) :
    Except Failure (List (ClassFacts × ClassAudit)) :=
  classes.mapM fun facts => do return (facts, ← auditor.audit hierarchy facts)

def surveyFiles (plan : Plan) (disk : Disk) (files : List (Path × FactFile)) :
    Except SurveyFault Survey := do
  let auditor ← (plan.auditor disk).mapError .settings
  let audits ← (auditAll auditor (hierarchyOf files) (plan.classesOf files)).mapError .facts
  let ordered := audits.mergeSort fun a b => keyLe a.1.sortKey b.1.sortKey
  return ordered.foldl (fun survey (_, audit) => survey.add audit)
    (Survey.start plan.root files.length)

/-- Loads fact files in order. Malformed ones are counted and left out; any other failure ends it.
-/
def loadAll (disk : Disk) : List Path → Except Failure (List (Path × FactFile) × Nat)
  | [] => .ok ([], 0)
  | path :: paths =>
    match FactFile.load disk path with
    | .ok facts => do
      let (loaded, skipped) ← loadAll disk paths
      .ok ((path, facts) :: loaded, skipped)
    | .error failure =>
      if failure.isRecoverable then do
        let (loaded, skipped) ← loadAll disk paths
        .ok (loaded, skipped + 1)
      else .error failure

def survey (plan : Plan) (disk : Disk) : Except SurveyFault Survey := do
  let paths ← (FactFile.gather disk plan.root).mapError (.gathering plan.root)
  let (loaded, skipped) ← (loadAll disk paths).mapError .facts
  let survey ← plan.surveyFiles disk loaded
  return { survey with filesSkipped := skipped, filesScanned := survey.filesScanned + skipped }

end Plan
end PropertyAudit
