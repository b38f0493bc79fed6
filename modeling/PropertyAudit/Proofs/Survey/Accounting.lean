import Mathlib
import PropertyAudit.Proofs.Survey.Batch

/-! The numbers of an audit and of a survey balance. Each verdict is counted once, in the total and under
its own name, and each one that is to be reported has its report. Audits that did not finish add nothing,
and every class that is not ignored ends in one of the ways that are counted. -/
namespace PropertyAudit

namespace VerdictCounts

/-- The parts make up what is reported and what there is. -/
structure Balanced (counts : VerdictCounts) : Prop where
  reported : counts.reported = counts.unused + counts.writeOnly + counts.readOnly
  total : counts.total = counts.unused + counts.writeOnly + counts.readOnly +
    counts.presumedInitialized + counts.ok

variable {counts others : VerdictCounts}

theorem balanced_zero : zero.Balanced := ⟨rfl, rfl⟩

theorem Balanced.record (balanced : counts.Balanced) (verdict : Verdict) :
    (counts.record verdict).Balanced := by
  refine ⟨rfl, ?_⟩
  have total := balanced.total
  cases verdict <;> simp only [VerdictCounts.record] <;> omega

theorem Balanced.add (balanced : counts.Balanced) (alsoBalanced : others.Balanced) :
    (counts.add others).Balanced := by
  refine ⟨rfl, ?_⟩
  have here := balanced.total
  have there := alsoBalanced.total
  simp only [VerdictCounts.add]
  omega

theorem balanced_ofVerdicts (verdicts : List Verdict) : (ofVerdicts verdicts).Balanced := by
  have run (start : VerdictCounts) (balanced : start.Balanced) :
      (verdicts.foldl VerdictCounts.record start).Balanced := by
    induction verdicts generalizing start with
    | nil => exact balanced
    | cons verdict verdicts ih => exact ih _ (balanced.record verdict)
  exact run zero balanced_zero

theorem Balanced.reported_le_total (balanced : counts.Balanced) : counts.reported ≤ counts.total := by
  have reported := balanced.reported
  have total := balanced.total
  omega

theorem reported_add (a b : VerdictCounts) : (a.add b).reported = a.reported + b.reported := by
  simp only [reported, add]
  omega

theorem reported_record (counts : VerdictCounts) (verdict : Verdict) :
    (counts.record verdict).reported = counts.reported + verdict.isReported.toNat := by
  cases verdict <;> simp only [record, reported, Verdict.isReported, Bool.toNat_true,
    Bool.toNat_false] <;> omega

/-- What is counted as reported is what the words of a report are there for. -/
theorem reported_ofVerdicts (verdicts : List Verdict) :
    (ofVerdicts verdicts).reported = verdicts.countP (·.isReported) := by
  have run (start : VerdictCounts) :
      (verdicts.foldl record start).reported = start.reported + verdicts.countP (·.isReported) := by
    induction verdicts generalizing start with
    | nil => rfl
    | cons verdict verdicts ih =>
      rw [List.foldl_cons, ih, reported_record, List.countP_cons]
      cases verdict.isReported <;> simp only [Bool.toNat_true, Bool.toNat_false, if_true,
        Bool.false_eq_true, if_false] <;> omega
  rw [ofVerdicts, run]
  exact Nat.zero_add _

end VerdictCounts

def ClassFacts.privateNames (facts : ClassFacts) : Finset String :=
  (facts.privateProperties.map (·.name)).toFinset

theorem ClassFacts.card_privateNames (facts : ClassFacts) :
    facts.privateNames.card = (Declaration.firsts facts.privateProperties).length := by
  have distinct := Declaration.nodup_names_firsts facts.privateProperties
  have same : facts.privateNames =
      ((Declaration.firsts facts.privateProperties).map (·.name)).toFinset := by
    ext name
    rw [Declaration.names_firsts, List.mem_toFinset, List.mem_eraseDups, privateNames,
      List.mem_toFinset]
  rw [same, List.toFinset_card_of_nodup distinct, List.length_map]

/-- What an audit says of a class agrees with what it counts. Unless it has finished it says nothing. -/
structure ClassAudit.Accounted (audit : ClassAudit) (facts : ClassFacts) : Prop where
  balanced : audit.counts.Balanced
  reports : audit.diagnostics.length = audit.counts.reported
  verdicts : audit.verdicts.length = audit.counts.total
  names : audit.outcome = .analyzed → audit.counts.total = facts.privateNames.card
  silent : audit.outcome ≠ .analyzed →
    audit.verdicts = [] ∧ audit.diagnostics = [] ∧ audit.counts = .zero

namespace Auditor

variable {auditor : Auditor} {hierarchy : Hierarchy} {facts : ClassFacts} {audit : ClassAudit}

theorem accounted_silent (facts : ClassFacts) {outcome : AuditOutcome}
    (unfinished : outcome ≠ .analyzed) : (ClassAudit.silent facts.name outcome).Accounted facts where
  balanced := VerdictCounts.balanced_zero
  reports := rfl
  verdicts := rfl
  names finished := absurd finished unfinished
  silent _ := ⟨rfl, rfl, rfl⟩

theorem accounted_conclude (auditor : Auditor) (hierarchy : Hierarchy) (facts : ClassFacts) :
    (auditor.conclude facts (auditor.finalTable hierarchy facts)).Accounted facts where
  balanced := VerdictCounts.balanced_ofVerdicts _
  reports := by
    rw [diagnostics_conclude, List.length_map, ← List.countP_eq_length_filter]
    simp only [conclude, VerdictCounts.reported_ofVerdicts, verdicts_finalTable, List.countP_map,
      Function.comp_def]
  verdicts := (faithful_conclude auditor hierarchy facts).total.symm
  names _ := by
    rw [(faithful_conclude auditor hierarchy facts).total, verdicts_conclude, List.length_map,
      facts.card_privateNames]
  silent unfinished := absurd rfl unfinished

theorem accounted_auditInside (auditor : Auditor) (hierarchy : Hierarchy) (facts : ClassFacts) :
    (auditor.auditInside hierarchy facts).Accounted facts := by
  unfold auditInside
  split
  · split
    · exact accounted_silent facts (by rintro ⟨⟩)
    · split
      · exact accounted_silent facts (by rintro ⟨⟩)
      · exact accounted_conclude auditor hierarchy facts
  · exact accounted_silent facts (by rintro ⟨⟩)

theorem accounted_of_audit (done : auditor.audit hierarchy facts = .ok audit) :
    audit.Accounted facts := by
  by_cases outside : facts.scope = .outside
  · rw [audit_of_outside outside] at done
    cases done
  · rw [audit_of_inside outside] at done
    exact Except.ok.inj done ▸ auditor.accounted_auditInside hierarchy facts

end Auditor

namespace Survey

/-- What a survey counts is what the finished ones among the audits of its classes count, and each of the
classes ends in one way. -/
structure Accounted (survey : Survey) (audits : List (ClassFacts × ClassAudit)) : Prop where
  balanced : survey.counts.Balanced
  reports : survey.diagnostics.length = survey.counts.reported
  verdicts : survey.counts.total = (audits.map (·.2.verdicts.length)).sum
  names : survey.counts.total =
    ((audits.filter (·.2.outcome.isAnalyzed)).map (·.1.privateNames.card)).sum
  counted : ∀ verdict, survey.counts.of verdict =
    ((audits.filter (·.2.outcome.isAnalyzed)).map (·.2.counts.of verdict)).sum
  reported : survey.diagnostics =
    (audits.filter (·.2.outcome.isAnalyzed)).flatMap (·.2.diagnostics)
  classes : survey.classesAnalyzed + survey.classesAbandoned + survey.classesUnsupported +
    audits.countP (·.2.outcome = .noPrivateProperties) = audits.length

variable {survey : Survey} {done audits : List (ClassFacts × ClassAudit)} {facts : ClassFacts}
  {audit : ClassAudit}

theorem accounted_start (root : Path) (filesScanned : Nat) :
    (start root filesScanned).Accounted [] where
  balanced := VerdictCounts.balanced_zero
  reports := rfl
  verdicts := rfl
  names := rfl
  counted verdict := by cases verdict <;> rfl
  reported := rfl
  classes := rfl

theorem Accounted.add (accounted : survey.Accounted done) (here : audit.Accounted facts) :
    (survey.add audit).Accounted (done ++ [(facts, audit)]) := by
  have ends : audit.outcome.isAnalyzed.toNat + audit.outcome.isAbandoned.toNat +
      audit.outcome.isUnsupported.toNat +
      [(facts, audit)].countP (·.2.outcome = .noPrivateProperties) = 1 := by
    rw [List.countP_singleton]
    cases audit.outcome <;> rfl
  have finished : (done ++ [(facts, audit)]).filter (·.2.outcome.isAnalyzed) =
      done.filter (·.2.outcome.isAnalyzed) ++
        if audit.outcome = .analyzed then [(facts, audit)] else [] := by
    cases outcome : audit.outcome <;> simp [List.filter_append, outcome, AuditOutcome.isAnalyzed]
  rw [add_eq]
  refine ⟨accounted.balanced.add here.balanced, ?_, ?_, ?_, fun verdict => ?_, ?_, ?_⟩
  · rw [List.length_append, accounted.reports, here.reports, VerdictCounts.reported_add]
  · simp [VerdictCounts.add, accounted.verdicts, here.verdicts]
  · rw [finished]
    split
    · next analyzed => simp [VerdictCounts.add, accounted.names, here.names analyzed]
    · next unfinished => simp [accounted.names, (here.silent unfinished).2.2, VerdictCounts.add_zero]
  · rw [finished, VerdictCounts.of_add, accounted.counted]
    split
    · next analyzed => simp
    · next unfinished => cases verdict <;> simp [(here.silent unfinished).2.2] <;> rfl
  · rw [finished, accounted.reported]
    split
    · next analyzed => simp
    · next unfinished => simp [(here.silent unfinished).2.1]
  · have before := accounted.classes
    simp only [List.countP_append, List.length_append, List.length_singleton]
    omega

theorem Accounted.foldl (accounted : survey.Accounted done)
    (each : ∀ entry ∈ audits, entry.2.Accounted entry.1) :
    (audits.foldl (fun survey entry => survey.add entry.2) survey).Accounted (done ++ audits) := by
  induction audits generalizing survey done with
  | nil => simpa using accounted
  | cons entry audits ih =>
    obtain ⟨here, rest⟩ := List.forall_mem_cons.mp each
    simpa using ih (accounted.add here) rest

def exactPercentage (survey : Survey) : ℚ :=
  if survey.counts.total = 0 then 0 else survey.counts.reported / survey.counts.total * 100

theorem Accounted.exactPercentage_mem (accounted : survey.Accounted audits) :
    0 ≤ survey.exactPercentage ∧ survey.exactPercentage ≤ 100 := by
  unfold exactPercentage
  split
  · norm_num
  · next some =>
    have positive : (0 : ℚ) < survey.counts.total := by exact_mod_cast Nat.pos_of_ne_zero some
    have le : (survey.counts.reported : ℚ) ≤ survey.counts.total := by
      exact_mod_cast accounted.balanced.reported_le_total
    have share : (survey.counts.reported / survey.counts.total : ℚ) ≤ 1 :=
      (div_le_one positive).mpr le
    constructor
    · positivity
    · linarith

end Survey

namespace Plan

/-- In the audit of any class the verdicts, the reports and the numbers agree. So they do in a survey that
succeeds: it audits each class that is not ignored once, takes its numbers and reports from the audits
that finish, and tells how each class ended. No more is reported than there is. -/
theorem surveyFiles_accounted (plan : Plan) (disk : Disk) (files : List (Path × FactFile)) :
    (∀ (auditor : Auditor) hierarchy facts audit, auditor.audit hierarchy facts = .ok audit →
      audit.Accounted facts) ∧
    ∀ survey, plan.surveyFiles disk files = .ok survey →
      ∃ auditor audits, plan.auditor disk = .ok auditor ∧
        (audits.map (·.1)).Perm ((FactFile.labelledClasses files).filter (!plan.ignores ·.name)) ∧
        (∀ entry ∈ audits,
          auditor.audit (.ofEntries (files.flatMap (·.2.hierarchy))) entry.1 = .ok entry.2) ∧
        survey.Accounted audits ∧
        survey.counts.reported ≤ survey.counts.total ∧
        0 ≤ survey.exactPercentage ∧ survey.exactPercentage ≤ 100 := by
  refine ⟨fun auditor hierarchy facts audit => Auditor.accounted_of_audit, fun survey done => ?_⟩
  obtain ⟨auditor, built, inside, rfl⟩ := eq_ofAudits_of_surveyFiles done
  let audited (facts : ClassFacts) := (facts, auditor.auditInside (hierarchyOf files) facts)
  have complete : (ClassFacts.inOrder (plan.classesOf files)).Perm (plan.classesOf files) :=
    (ClassFacts.isOrderOf_inOrder _).complete
  have each : ∀ entry ∈ (ClassFacts.inOrder (plan.classesOf files)).map audited,
      entry.2.Accounted entry.1 := by
    rw [List.forall_mem_map]
    exact fun facts _ => auditor.accounted_auditInside (hierarchyOf files) facts
  have accounted := (Survey.accounted_start plan.root files.length).foldl each
  rw [List.nil_append, List.foldl_map] at accounted
  rw [Survey.ofAudits, List.foldl_map]
  refine ⟨auditor, _, built, ?_, ?_, accounted, accounted.balanced.reported_le_total,
    accounted.exactPercentage_mem⟩
  · rw [List.map_map, ← classesOf_eq]
    exact (List.map_id _).symm ▸ complete
  · rw [List.forall_mem_map]
    intro facts member
    exact Auditor.audit_of_inside (inside facts (complete.mem_iff.mp member))

/-- Of two files and five classes one class is ignored. The others end in four ways; the one that is
audited to the end declares `a` twice and has a property of each verdict but `ok`. -/
theorem surveyFiles_accounted_four_endings :
    let facts (name : String) (kind : ClassKind) (properties : List Declaration)
        (accesses : List Access) : ClassFacts := {
      name, displayName? := none, kind, scope := .inClass name, file := none
      properties, accesses, constructors := [], assignments := .empty }
    let a : Declaration := ⟨"a", .isPrivate, false, false, false, none, [], 1⟩
    let b : Declaration := ⟨"b", .isPrivate, false, true, false, none, [], 2⟩
    let c : Declaration := ⟨"c", .isPrivate, false, false, false, none, [], 3⟩
    let d : Declaration := ⟨"d", .isPrivate, true, false, false, none, [], 4⟩
    let e : Declaration := ⟨"e", .isPublic, false, false, false, none, [], 5⟩
    let read (type : ValueType) : Access :=
      ⟨.read, .computed type, .classReference (some "self"), none⟩
    let plan : Plan := .ofSteps ⟨"facts"⟩
      [.preload none, .checkUninitialized true, .ignoreClasses ["Skipped"]]
    let files : List (Path × FactFile) := [
      (⟨"b.json"⟩, ⟨[], [facts "Foo" .concrete [a, b, a, c, d, e]
        [read (.union [.literal "c", .literal "d"])], facts "Skipped" .concrete [a] []]⟩),
      (⟨"a.json"⟩, ⟨[], [facts "Bar" .concrete [a, b] [read .mixed], facts "Baz" .isTrait [a] [],
        facts "Qux" .concrete [e] []]⟩)]
    ∃ survey audits, plan.surveyFiles .empty files = .ok survey ∧
      survey.Accounted audits ∧ audits.length = 4 ∧
      survey.diagnostics.length = 3 ∧ survey.counts = ⟨4, 1, 1, 1, 1, 0⟩ ∧
      survey.exactPercentage = 75 := by
  intro facts a b c d e read plan files
  have counted : (plan.surveyFiles .empty files).toOption.map (·.counts) =
      some ⟨4, 1, 1, 1, 1, 0⟩ := by
    cbv
  cases ran : plan.surveyFiles .empty files with
  | error fault =>
    rw [ran] at counted
    cases counted
  | ok survey =>
    rw [ran] at counted
    have counts : survey.counts = ⟨4, 1, 1, 1, 1, 0⟩ := Option.some.inj counted
    obtain ⟨auditor, audits, -, complete, -, accounted, -⟩ :=
      (plan.surveyFiles_accounted .empty files).2 survey ran
    refine ⟨survey, audits, rfl, accounted, ?_, ?_, counts, ?_⟩
    · rw [← List.length_map, complete.length_eq]
      decide +kernel
    · rw [accounted.reports, counts]
      rfl
    · rw [Survey.exactPercentage, counts]
      norm_num [VerdictCounts.reported]

end Plan
end PropertyAudit
