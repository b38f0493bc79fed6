import PropertyAudit.ClassAudit
import PropertyAudit.Proofs.Correlation.Contributions
import PropertyAudit.Proofs.PropertyTable.Evidence

/-! How the audit of a class ends, and the table it ends with. Two classes may be told apart by their
audits only through the first access that may reach any name and the evidence for each first
declaration of a private property. -/
namespace PropertyAudit

def ClassFacts.withAccesses (facts : ClassFacts) (accesses : List Access) : ClassFacts :=
  { facts with accesses }

namespace PropertyTable

theorem correlate_eq (table : PropertyTable) (facts : ClassFacts) (hierarchy : Hierarchy) :
    table.correlate facts hierarchy =
      match facts.accesses.find? (·.isUnbounded) with
      | some access => (.abandoned access.line, table)
      | none =>
        let contributions := facts.accesses.flatMap fun access =>
          (access.resolve hierarchy facts.name).contributions
        (.applied (contributions.countP (table.contains ·.property))
          (facts.accesses.countP fun access => (access.resolve hierarchy facts.name).isSkipped),
          table.markAll contributions) := by
  rw [correlate, ClassFacts.contributions, ClassFacts.contributionsOf_eq]
  cases facts.accesses.find? (·.isUnbounded) with
  | some access => rfl
  | none => simp only [List.countP_eq_length_filter]

end PropertyTable

namespace Auditor

variable {auditor : Auditor} {hierarchy : Hierarchy} {facts : ClassFacts}
  {declaration : Declaration}

def totalUsage (auditor : Auditor) (hierarchy : Hierarchy) (facts : ClassFacts)
    (declaration : Declaration) : Usage :=
  (PropertyTable.initialUsage auditor.options auditor.extensions facts.name declaration).1.merge
    (PropertyTable.evidenceFor declaration.name (facts.accesses.flatMap fun access =>
      (access.resolve hierarchy facts.name).contributions))

def finalTable (auditor : Auditor) (hierarchy : Hierarchy) (facts : ClassFacts) : PropertyTable :=
  (PropertyTable.ofClass auditor.options auditor.extensions facts).markAll
    (facts.accesses.flatMap fun access => (access.resolve hierarchy facts.name).contributions)

theorem records_finalTable (auditor : Auditor) (hierarchy : Hierarchy) (facts : ClassFacts) :
    (auditor.finalTable hierarchy facts).records =
      (Declaration.firsts facts.privateProperties).map fun declaration =>
        ⟨declaration, auditor.totalUsage hierarchy facts declaration⟩ :=
  PropertyTable.records_markAll_ofClass facts _

/-- Evidence of one kind that does not lie in the value a declaration gives: a tag in its comment,
an extension, or an access that counts and may be to its name. -/
def Shows (auditor : Auditor) (hierarchy : Hierarchy) (facts : ClassFacts) (kind : AccessKind)
    (declaration : Declaration) : Prop :=
  declaration.IsTagged auditor.options kind ∨
    (∃ extension ∈ auditor.extensions, extension.affirms kind facts.name declaration) ∨
    ∃ access ∈ facts.accesses, access.kind = kind ∧ access.Counts hierarchy facts.name ∧
      declaration.name ∈ access.name.candidates

theorem shows_evidenceFor_accesses {kind : AccessKind} {name : String} {accesses : List Access} :
    (PropertyTable.evidenceFor name (accesses.flatMap fun access =>
        (access.resolve hierarchy facts.name).contributions)).shows kind ↔
      ∃ access ∈ accesses, access.kind = kind ∧ access.Counts hierarchy facts.name ∧
        name ∈ access.name.candidates := by
  rw [PropertyTable.shows_evidenceFor]
  constructor
  · rintro ⟨contribution, among, rfl, shown⟩
    obtain ⟨access, member, contributed⟩ := List.mem_flatMap.mp among
    obtain ⟨counts, candidate, usage⟩ := Access.mem_contributions.mp contributed
    rw [usage, Usage.shows_ofKind] at shown
    exact ⟨access, member, shown, counts, candidate⟩
  · rintro ⟨access, member, rfl, counts, candidate⟩
    refine ⟨⟨name, .ofKind access.kind⟩, List.mem_flatMap.mpr ⟨access, member, ?_⟩, rfl, by simp⟩
    exact Access.mem_contributions.mpr ⟨counts, candidate, rfl⟩

theorem shows_totalUsage {kind : AccessKind} :
    (auditor.totalUsage hierarchy facts declaration).shows kind ↔
      auditor.Shows hierarchy facts kind declaration ∨ kind = .write ∧ declaration.assigns := by
  rw [totalUsage, Usage.shows_merge, Bool.or_eq_true, PropertyTable.shows_initialUsage,
    shows_evidenceFor_accesses, Shows, ← or_assoc, or_right_comm]
  simp only [or_assoc]

/-- The audit of a concrete class met inside a class always succeeds. It concludes when there are
private properties and no access may reach any name. -/
theorem audit_of_concrete {scope : String} (inside : facts.scope = .inClass scope)
    (concrete : facts.kind = .concrete) :
    auditor.audit hierarchy facts = .ok (
      if facts.privateProperties = [] then .silent facts.name .noPrivateProperties
      else match facts.accesses.find? (·.isUnbounded) with
        | some access => .silent facts.name (.abandoned access.line)
        | none => auditor.conclude facts (auditor.finalTable hierarchy facts)) := by
  have empty : (PropertyTable.ofClass auditor.options auditor.extensions facts).isEmpty ↔
      facts.privateProperties = [] := by
    rw [PropertyTable.isEmpty, PropertyTable.records_ofClass, List.isEmpty_iff, List.map_eq_nil_iff,
      Declaration.firsts_eq_nil_iff]
  simp only [audit, inside, concrete, empty, PropertyTable.correlate_eq]
  split
  · rfl
  · cases facts.accesses.find? (·.isUnbounded) <;> rfl

/-- What the audit of a class says if nothing is asked about where the class was met. -/
def auditInside (auditor : Auditor) (hierarchy : Hierarchy) (facts : ClassFacts) : ClassAudit :=
  if facts.kind = .concrete then
    if facts.privateProperties = [] then .silent facts.name .noPrivateProperties
    else match facts.accesses.find? (·.isUnbounded) with
      | some access => .silent facts.name (.abandoned access.line)
      | none => auditor.conclude facts (auditor.finalTable hierarchy facts)
  else .silent facts.name (.unsupported facts.kind)

theorem audit_of_outside (outside : facts.scope = .outside) :
    auditor.audit hierarchy facts = .error (.outsideClass facts.name) := by
  simp only [audit, outside]

theorem audit_of_inside (inside : facts.scope ≠ .outside) :
    auditor.audit hierarchy facts = .ok (auditor.auditInside hierarchy facts) := by
  cases scope : facts.scope with
  | outside => exact absurd scope inside
  | inClass around =>
    unfold auditInside
    by_cases concrete : facts.kind = .concrete
    · rw [audit_of_concrete scope concrete, if_pos concrete]
    · rw [if_neg concrete]
      cases kind : facts.kind with
      | concrete => exact absurd kind concrete
      | isInterface | isTrait | isEnum => simp only [audit, scope, kind]

section Comparison

variable {other : Auditor} {accesses : List Access}

theorem conclude_congr
    (sameUsage : ∀ declaration, other.totalUsage hierarchy (facts.withAccesses accesses) declaration =
      auditor.totalUsage hierarchy facts declaration)
    (sameOpen : other.uninitialized (facts.withAccesses accesses) = auditor.uninitialized facts) :
    other.conclude (facts.withAccesses accesses)
        (other.finalTable hierarchy (facts.withAccesses accesses)) =
      auditor.conclude facts (auditor.finalTable hierarchy facts) := by
  have sameRecords : (other.finalTable hierarchy (facts.withAccesses accesses)).records =
      (auditor.finalTable hierarchy facts).records := by
    rw [records_finalTable, records_finalTable]
    apply List.map_congr_left
    intro declaration _
    rw [sameUsage]
  unfold conclude
  rw [PropertyTable.verdicts, PropertyTable.verdicts, sameRecords, sameOpen]
  rfl

/-- Two audits of a class look the same when the evidence is the same for each declaration, the same
properties are left open, and a first access that may reach any name looks the same. -/
theorem audit_map_congr (view : ClassAudit → β)
    (sameUsage : ∀ declaration, other.totalUsage hierarchy (facts.withAccesses accesses) declaration =
      auditor.totalUsage hierarchy facts declaration)
    (sameOpen : other.uninitialized (facts.withAccesses accesses) = auditor.uninitialized facts)
    (sameFirst :
      ((accesses.find? (·.isUnbounded)).map fun access =>
        view (.silent facts.name (.abandoned access.line))) =
      (facts.accesses.find? (·.isUnbounded)).map fun access =>
        view (.silent facts.name (.abandoned access.line))) :
    (other.audit hierarchy (facts.withAccesses accesses)).map view =
      (auditor.audit hierarchy facts).map view := by
  have inside : (facts.withAccesses accesses).scope = facts.scope := rfl
  have kind : (facts.withAccesses accesses).kind = facts.kind := rfl
  cases scope : facts.scope with
  | outside =>
    simp only [audit, inside, scope]
    rfl
  | inClass around =>
    cases sort : facts.kind with
    | concrete =>
      rw [audit_of_concrete scope sort, audit_of_concrete (inside.trans scope) (kind.trans sort)]
      by_cases nothing : facts.privateProperties = []
      · have alsoNothing : (facts.withAccesses accesses).privateProperties = [] := nothing
        rw [if_pos nothing, if_pos alsoNothing]
        rfl
      · have alsoSome : (facts.withAccesses accesses).privateProperties ≠ [] := nothing
        rw [if_neg nothing, if_neg alsoSome, conclude_congr sameUsage sameOpen]
        have first : (facts.withAccesses accesses).accesses = accesses := rfl
        rw [first]
        cases here : accesses.find? (·.isUnbounded) with
        | none =>
          cases there : facts.accesses.find? (·.isUnbounded) with
          | none => rfl
          | some original => simp [here, there] at sameFirst
        | some access =>
          cases there : facts.accesses.find? (·.isUnbounded) with
          | none => simp [here, there] at sameFirst
          | some original =>
            rw [here, there] at sameFirst
            exact congrArg Except.ok (Option.some.inj sameFirst)
    | isInterface | isTrait | isEnum =>
      simp only [audit, inside, kind, scope, sort]
      rfl

end Comparison

end Auditor
end PropertyAudit
