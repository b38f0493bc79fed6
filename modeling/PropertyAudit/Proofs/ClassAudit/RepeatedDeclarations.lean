import Mathlib.Data.List.Pairwise
import PropertyAudit.Proofs.ClassAudit.MoreEvidence
import PropertyAudit.Proofs.ClassAudit.OrderIndependence

/-! Properties that a class declares more than once. The table keeps the first declaration of a name,
but the oracle goes through all of them and answers by name. So a later declaration shows in the audit
exactly where it is left open and the first one is not, and the property is read and never written. -/
namespace PropertyAudit

namespace ClassFacts

variable {facts : ClassFacts}

def RepeatsPrivately (facts : ClassFacts) : Prop :=
  facts.properties.Pairwise fun a b => a.name = b.name → a.isPrivate ∧ b.isPrivate

def withoutRepeats (facts : ClassFacts) : ClassFacts :=
  { facts with properties := Declaration.firsts facts.properties }

theorem RepeatsPrivately.isPrivate_eq (repeats : facts.RepeatsPrivately) :
    ∀ a ∈ facts.properties, ∀ b ∈ facts.properties, a.name = b.name → a.isPrivate = b.isPrivate := by
  have symmetric : Std.Symm fun a b : Declaration => a.name = b.name → a.isPrivate = b.isPrivate :=
    ⟨fun a b same name => (same name.symm).symm⟩
  apply List.Pairwise.forall_of_forall
  · intro declaration _ _
    rfl
  · exact repeats.imp fun both name => (both name).1.trans (both name).2.symm

theorem privateProperties_withoutRepeats (repeats : facts.RepeatsPrivately) :
    facts.withoutRepeats.privateProperties = Declaration.firsts facts.privateProperties :=
  (Declaration.firsts_filter repeats.isPrivate_eq).symm

/-- The first private declaration of a name is its first declaration. -/
theorem mem_firsts_properties (repeats : facts.RepeatsPrivately) {declaration : Declaration}
    (first : declaration ∈ Declaration.firsts facts.privateProperties) :
    declaration ∈ Declaration.firsts facts.properties := by
  rw [← privateProperties_withoutRepeats repeats] at first
  exact (List.mem_filter.mp first).1

end ClassFacts

namespace Auditor

variable {auditor : Auditor} {hierarchy : Hierarchy} {facts : ClassFacts}
  {declaration : Declaration}

/-- Whether a declaration leaves its property open: one of an instance, without a value of its own,
that no constructor is sure to assign and no extension reports initialized. -/
def IsOpen (auditor : Auditor) (facts : ClassFacts) (declaration : Declaration) : Prop :=
  ¬declaration.isStatic ∧ ¬declaration.assigns ∧
    declaration.name ∉ facts.assignments.assignedBy (auditor.constructors facts) ∧
    ∀ extension ∈ auditor.extensions, ¬extension.initialized facts.name declaration

theorem isOpen_iff_staysOpen :
    auditor.IsOpen facts declaration ↔
      facts.StaysOpen (auditor.constructors facts) auditor.extensions declaration :=
  ClassFacts.staysOpen_iff.symm

/-- The oracle lists a name as soon as one declaration of that name is left open. -/
theorem leavesOpen_iff (asks : auditor.oracle = .definiteAssignment) :
    auditor.LeavesOpen facts declaration ↔
      auditor.options.checkUninitialized ∧ ∃ other ∈ facts.properties,
        other.name = declaration.name ∧ auditor.IsOpen facts other := by
  simp only [LeavesOpen, asks, Oracle.mem_definiteAssignment_iff, isOpen_iff_staysOpen]

/-- Once later declarations are dropped, the first one of a name speaks for it alone. -/
theorem leavesOpen_withoutRepeats_iff (asks : auditor.oracle = .definiteAssignment)
    (first : declaration ∈ Declaration.firsts facts.properties) :
    auditor.LeavesOpen facts.withoutRepeats declaration ↔
      auditor.options.checkUninitialized ∧ auditor.IsOpen facts declaration := by
  rw [leavesOpen_iff asks]
  refine and_congr_right fun _ => ⟨?_, fun opened => ⟨declaration, first, rfl, opened⟩⟩
  rintro ⟨other, otherFirst, name, opened⟩
  have found := Declaration.mem_firsts.mp otherFirst
  rw [Declaration.IsFirstIn, name, Declaration.mem_firsts.mp first] at found
  rw [Option.some.inj found]
  exact opened

/-- The property is read and never written, its first declaration leaves it open neither, but another
declaration of its name does. -/
def IsOpenedLater (auditor : Auditor) (hierarchy : Hierarchy) (facts : ClassFacts)
    (declaration : Declaration) : Prop :=
  auditor.IsRead hierarchy facts declaration ∧ ¬auditor.IsWritten hierarchy facts declaration ∧
    ¬auditor.IsOpen facts declaration ∧ ∃ later ∈ facts.properties,
      later.name = declaration.name ∧ auditor.IsOpen facts later

theorem verdictOn_withoutRepeats_iff (asks : auditor.oracle = .definiteAssignment)
    (first : declaration ∈ Declaration.firsts facts.properties) :
    auditor.verdictOn hierarchy facts.withoutRepeats declaration =
        auditor.verdictOn hierarchy facts declaration ↔
      ¬(auditor.options.checkUninitialized ∧ auditor.IsOpenedLater hierarchy facts declaration) := by
  have member := (Declaration.firsts_sublist _).subset first
  have here : auditor.LeavesOpen facts declaration ↔ _ := leavesOpen_iff asks
  have alone := leavesOpen_withoutRepeats_iff asks first
  have sameRead : auditor.IsRead hierarchy facts.withoutRepeats declaration ↔
      auditor.IsRead hierarchy facts declaration := Iff.rfl
  have sameWritten : auditor.IsWritten hierarchy facts.withoutRepeats declaration ↔
      auditor.IsWritten hierarchy facts declaration := Iff.rfl
  rw [verdictOn_eq_iff]
  cases verdict : auditor.verdictOn hierarchy facts declaration <;>
    have warranted := verdictOn_eq_iff.mp verdict <;>
    simp only [Warrants, sameRead, sameWritten, here, alone, IsOpenedLater] at warranted ⊢
  case presumedInitialized =>
    obtain ⟨read, unwritten, checked, later⟩ := warranted
    simp only [read, unwritten, checked, later, not_false_eq_true, true_and, and_true, not_not]
  case readOnly =>
    obtain ⟨read, unwritten, closed⟩ := warranted
    have firstClosed : ¬(auditor.options.checkUninitialized ∧ auditor.IsOpen facts declaration) := by
      rintro ⟨checked, opened⟩
      exact closed ⟨checked, declaration, member, rfl, opened⟩
    refine iff_of_true ⟨read, unwritten, firstClosed⟩ ?_
    rintro ⟨checked, -, -, -, later⟩
    exact closed ⟨checked, later⟩
  all_goals
    refine iff_of_true warranted ?_
    rintro ⟨-, read, unwritten, -⟩
    simp [read, unwritten] at warranted

theorem conclude_withoutRepeats_iff (repeats : facts.RepeatsPrivately) :
    auditor.conclude facts.withoutRepeats (auditor.finalTable hierarchy facts.withoutRepeats) =
        auditor.conclude facts (auditor.finalTable hierarchy facts) ↔
      ∀ declaration ∈ Declaration.firsts facts.privateProperties,
        auditor.verdictOn hierarchy facts.withoutRepeats declaration =
          auditor.verdictOn hierarchy facts declaration := by
  have sameFirsts : Declaration.firsts facts.withoutRepeats.privateProperties =
      Declaration.firsts facts.privateProperties := by
    rw [ClassFacts.privateProperties_withoutRepeats repeats, Declaration.firsts_firsts]
  constructor
  · intro same declaration first
    have verdicts := congrArg ClassAudit.verdicts same
    rw [verdicts_conclude, verdicts_conclude, sameFirsts] at verdicts
    exact (Prod.mk.inj (List.map_inj_left.mp verdicts declaration first)).2
  · intro same
    have sameVerdicts :
        (auditor.finalTable hierarchy facts.withoutRepeats).verdicts
            (auditor.uninitialized facts.withoutRepeats) =
          (auditor.finalTable hierarchy facts).verdicts (auditor.uninitialized facts) := by
      rw [verdicts_finalTable, verdicts_finalTable, sameFirsts]
      apply List.map_congr_left
      intro declaration first
      rw [same declaration first]
      rfl
    unfold conclude
    rw [sameVerdicts]
    rfl

/-- Where the audit does not finish, repeated declarations are not looked at. -/
theorem audit_withoutRepeats (repeats : facts.RepeatsPrivately) :
    auditor.audit hierarchy facts.withoutRepeats =
      (auditor.audit hierarchy facts).map fun audit =>
        if audit.outcome = .analyzed then
          auditor.conclude facts.withoutRepeats (auditor.finalTable hierarchy facts.withoutRepeats)
        else audit := by
  have sameScope : facts.withoutRepeats.scope = facts.scope := rfl
  by_cases outside : facts.scope = .outside
  · rw [audit_of_outside outside, audit_of_outside (sameScope.trans outside)]
    rfl
  · have alsoInside : facts.withoutRepeats.scope ≠ .outside := outside
    have sameKind : facts.withoutRepeats.kind = facts.kind := rfl
    have sameAccesses : facts.withoutRepeats.accesses = facts.accesses := rfl
    have nothingIff : facts.withoutRepeats.privateProperties = [] ↔ facts.privateProperties = [] := by
      rw [ClassFacts.privateProperties_withoutRepeats repeats, Declaration.firsts_eq_nil_iff]
    rw [audit_of_inside outside, audit_of_inside alsoInside, Except.map]
    simp only [auditInside, sameKind, sameAccesses, nothingIff]
    by_cases concrete : facts.kind = .concrete
    · by_cases nothing : facts.privateProperties = []
      · simp only [if_pos concrete, if_pos nothing]
        rfl
      · simp only [if_pos concrete, if_neg nothing]
        cases facts.accesses.find? (·.isUnbounded) <;> rfl
    · simp only [if_neg concrete]
      rfl

/-- With the oracle that goes by recorded assignments, and repeated declarations all private, to drop
the later declarations of each name changes the audit exactly when the audit finishes, looks for
uninitialized properties, and some property is read, never written, and left open by a later
declaration but not by its first one. -/
theorem audit_withoutRepeats_iff (asks : auditor.oracle = .definiteAssignment)
    (repeats : facts.RepeatsPrivately) :
    auditor.audit hierarchy facts.withoutRepeats = auditor.audit hierarchy facts ↔
      ¬(auditor.options.checkUninitialized ∧
        (∃ audit, auditor.audit hierarchy facts = .ok audit ∧ audit.outcome = .analyzed) ∧
        ∃ declaration, declaration.IsFirstIn facts.privateProperties ∧
          auditor.IsOpenedLater hierarchy facts declaration) := by
  rw [audit_withoutRepeats repeats]
  by_cases finished : ∃ audit, auditor.audit hierarchy facts = .ok audit ∧ audit.outcome = .analyzed
  · obtain ⟨audit, done, analyzed⟩ := finished
    have concluded := (eq_conclude_of_analyzed done analyzed).1
    have rest : (∃ found, auditor.audit hierarchy facts = .ok found ∧ found.outcome = .analyzed) :=
      ⟨audit, done, analyzed⟩
    simp only [rest, true_and]
    rw [done, Except.map, if_pos analyzed, concluded, Except.ok.injEq,
      conclude_withoutRepeats_iff repeats]
    have single {declaration : Declaration}
        (among : declaration ∈ Declaration.firsts facts.privateProperties) :
        auditor.verdictOn hierarchy facts.withoutRepeats declaration =
            auditor.verdictOn hierarchy facts declaration ↔
          ¬(auditor.options.checkUninitialized ∧
            auditor.IsOpenedLater hierarchy facts declaration) :=
      verdictOn_withoutRepeats_iff asks (ClassFacts.mem_firsts_properties repeats among)
    constructor
    · rintro same ⟨checked, declaration, first, later⟩
      have among := Declaration.mem_firsts.mpr first
      exact (single among).mp (same declaration among) ⟨checked, later⟩
    · intro never declaration among
      refine (single among).mpr fun ⟨checked, later⟩ => never ?_
      exact ⟨checked, declaration, Declaration.mem_firsts.mp among, later⟩
  · refine iff_of_true ?_ fun changed => finished changed.2.1
    cases done : auditor.audit hierarchy facts with
    | error failure => rfl
    | ok audit =>
      have silent : audit.outcome ≠ .analyzed := fun analyzed => finished ⟨audit, done, analyzed⟩
      rw [Except.map, if_neg silent]

/-- The second declaration of `a` is static and has a value, which changes nothing: the first one is
left open by itself. -/
theorem audit_withoutRepeats_of_open_first :
    let facts : ClassFacts := {
      name := "Foo", displayName? := none, kind := .concrete, scope := .inClass "Foo", file := none
      properties := [
        ⟨"a", .isPrivate, false, false, false, none, [], 1⟩,
        ⟨"b", .isPublic, false, false, false, none, [], 2⟩,
        ⟨"a", .isPrivate, true, true, false, none, [], 3⟩]
      accesses := [⟨.read, .literal "a", .classReference (some "self"), none⟩]
      constructors := [], assignments := .empty }
    let auditor : Auditor := ⟨⟨[], [], true, []⟩, [], .definiteAssignment⟩
    facts.RepeatsPrivately ∧ facts.withoutRepeats.properties.map (·.line) = [1, 2] ∧
      auditor.audit (.ofEntries []) facts.withoutRepeats = auditor.audit (.ofEntries []) facts ∧
      (auditor.audit (.ofEntries []) facts).map (·.verdicts) =
        .ok [("a", .presumedInitialized)] := by
  intro facts auditor
  have repeats : facts.RepeatsPrivately := by
    unfold ClassFacts.RepeatsPrivately
    decide
  have first : Declaration.firsts facts.privateProperties =
      [⟨"a", .isPrivate, false, false, false, none, [], 1⟩] := rfl
  refine ⟨repeats, rfl, ?_, rfl⟩
  refine (@audit_withoutRepeats_iff auditor (.ofEntries []) facts rfl repeats).mpr ?_
  rintro ⟨-, -, declaration, isFirst, -, -, closed, -⟩
  rw [← Declaration.mem_firsts, first, List.mem_singleton] at isFirst
  subst isFirst
  exact closed ⟨by decide, by decide, List.not_mem_nil, by simp [auditor]⟩

/-- A later declaration speaks for the name of a static property: the oracle lists it, and the report
that the first declaration alone would get is lost. -/
theorem later_declaration_opens_static_property :
    let facts : ClassFacts := {
      name := "Foo", displayName? := none, kind := .concrete, scope := .inClass "Foo", file := none
      properties := [
        ⟨"a", .isPrivate, true, false, false, none, [], 1⟩,
        ⟨"a", .isPrivate, false, false, false, none, [], 2⟩]
      accesses := [⟨.read, .literal "a", .classReference (some "self"), none⟩]
      constructors := [], assignments := .empty }
    let auditor : Auditor := ⟨⟨[], [], true, []⟩, [], .definiteAssignment⟩
    facts.RepeatsPrivately ∧
      (auditor.audit (.ofEntries []) facts).map (·.verdicts) = .ok [("a", .presumedInitialized)] ∧
      (auditor.audit (.ofEntries []) facts.withoutRepeats).map (·.verdicts) =
        .ok [("a", .readOnly)] ∧
      auditor.audit (.ofEntries []) facts.withoutRepeats ≠ auditor.audit (.ofEntries []) facts := by
  intro facts auditor
  have repeats : facts.RepeatsPrivately := by
    unfold ClassFacts.RepeatsPrivately
    decide
  have kept : (auditor.audit (.ofEntries []) facts).map (·.verdicts) =
      .ok [("a", .presumedInitialized)] := rfl
  have dropped : (auditor.audit (.ofEntries []) facts.withoutRepeats).map (·.verdicts) =
      .ok [("a", .readOnly)] := rfl
  refine ⟨repeats, kept, dropped, fun same => ?_⟩
  rw [same, kept] at dropped
  cases dropped

end Auditor
end PropertyAudit
