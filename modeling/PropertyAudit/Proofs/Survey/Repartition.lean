import PropertyAudit.Proofs.ClassAudit.OrderIndependence
import PropertyAudit.Proofs.Hierarchy.Parents
import PropertyAudit.Proofs.Survey.Batch

/-! How classes and entries are spread over files does not show in a survey. An audit asks of the
ancestry only whether a class is mentioned, whether it stands below another and which parent comes first;
and classes that differ in file or name have one order only. -/
namespace PropertyAudit

open Hierarchy (Agree)

section Ancestry

variable {entries others : List Hierarchy.Entry} {name : String}

namespace ValueType

theorem areBelow_congr {a b : Hierarchy} {types : List ValueType}
    (same : ∀ type ∈ types, type.isBelow a name = type.isBelow b name) :
    areBelow a name types = areBelow b name types := by
  induction types with
  | nil => rfl
  | cons type types ih =>
    have rest := ih fun other among => same other (List.mem_cons_of_mem type among)
    rw [areBelow, areBelow, rest, same type List.mem_cons_self]

theorem isBelow_of_agree (agree : Agree entries others) (type : ValueType) :
    type.isBelow (.ofEntries entries) name = type.isBelow (.ofEntries others) name := by
  induction type with
  | object candidate =>
    rw [isBelow, isBelow, agree.contains_eq, agree.isSubclassOf_eq]
  | union members ih => rw [isBelow, isBelow, areBelow_congr ih]
  | _ => rfl

end ValueType

theorem Owner.resolve_of_agree (agree : Agree entries others) (owner : Owner) :
    owner.resolve (.ofEntries entries) name = owner.resolve (.ofEntries others) name := by
  rw [resolve_eq_head?, resolve_eq_head?, agree.head?_parentsOf_eq]

theorem Access.resolve_of_agree (agree : Agree entries others) (access : Access) :
    access.resolve (.ofEntries entries) name = access.resolve (.ofEntries others) name := by
  by_cases bounded : access.IsBounded
  · rw [resolve_of_bounded bounded, resolve_of_bounded bounded, access.owner.resolve_of_agree agree]
    simp only [ValueType.isBelow_of_agree agree]
  · rw [resolve_eq_unbounded_iff.mpr bounded, resolve_eq_unbounded_iff.mpr bounded]

theorem Auditor.auditInside_of_agree (agree : Agree entries others) (auditor : Auditor)
    (facts : ClassFacts) :
    auditor.auditInside (.ofEntries entries) facts =
      auditor.auditInside (.ofEntries others) facts := by
  simp only [auditInside, finalTable, Access.resolve_of_agree agree]

end Ancestry

theorem VerdictCounts.ext_of {a b : VerdictCounts} (total : a.total = b.total)
    (same : ∀ verdict, a.of verdict = b.of verdict) : a = b := by
  cases a
  cases b
  rw [VerdictCounts.mk.injEq]
  exact ⟨total, same .unused, same .writeOnly, same .readOnly, same .presumedInitialized, same .ok⟩

namespace Survey

structure SameFindings (survey other : Survey) : Prop where
  diagnostics : survey.diagnostics = other.diagnostics
  counts : survey.counts = other.counts
  analyzed : survey.classesAnalyzed = other.classesAnalyzed
  abandoned : survey.classesAbandoned = other.classesAbandoned
  unsupported : survey.classesUnsupported = other.classesUnsupported

theorem SumsUp.sameFindings {survey other : Survey} {audits : List ClassAudit}
    (sums : survey.SumsUp audits) (alsoSums : other.SumsUp audits) : survey.SameFindings other where
  diagnostics := sums.diagnostics.trans alsoSums.diagnostics.symm
  counts := VerdictCounts.ext_of (sums.total.trans alsoSums.total.symm) fun verdict =>
    (sums.counts verdict).trans (alsoSums.counts verdict).symm
  analyzed := sums.analyzed.trans alsoSums.analyzed.symm
  abandoned := sums.abandoned.trans alsoSums.abandoned.symm
  unsupported := sums.unsupported.trans alsoSums.unsupported.symm

end Survey

namespace Plan

variable {plan : Plan} {disk : Disk} {files others : List (Path × FactFile)}

theorem surveyFiles_of_unbuilt {fault : SettingsFault} (unbuilt : plan.auditor disk = .error fault) :
    plan.surveyFiles disk files = .error (.settings fault) := by
  rw [surveyFiles, unbuilt]
  rfl

/-- Files may be reordered, split and joined, and classes and entries may change places: as long as the
classes are the same under their files, no two of them with the same file and name, and the entries agree,
both surveys succeed or both fail, and where they succeed they find the same. -/
theorem survey_ignores_repartition (plan : Plan) (disk : Disk)
    (sameClasses : (FactFile.labelledClasses files).Perm (FactFile.labelledClasses others))
    (distinct : ((FactFile.labelledClasses files).map (·.sortKey)).Nodup)
    (agree : Agree (files.flatMap (·.2.hierarchy)) (others.flatMap (·.2.hierarchy))) :
    ((∃ survey, plan.surveyFiles disk files = .ok survey) ↔
      ∃ survey, plan.surveyFiles disk others = .ok survey) ∧
    ∀ survey other, plan.surveyFiles disk files = .ok survey →
      plan.surveyFiles disk others = .ok other → survey.SameFindings other := by
  cases built : plan.auditor disk with
  | error fault =>
    simp [surveyFiles_of_unbuilt built]
  | ok auditor =>
    have included : (plan.classesOf files).Perm (plan.classesOf others) := by
      rw [classesOf_eq, classesOf_eq]
      exact sameClasses.filter _
    have distinctToo : ((plan.classesOf files).map (·.sortKey)).Nodup := by
      rw [classesOf_eq]
      exact distinct.sublist (List.filter_sublist.map _)
    have sameOrder := ClassFacts.inOrder_eq_of_perm included distinctToo
    have sameAudits : auditor.auditInside (hierarchyOf files) = auditor.auditInside (hierarchyOf others) :=
      funext (auditor.auditInside_of_agree agree)
    have sameOutside := (SameMembers.of_perm included).find?_eq_none_iff (·.isOutside)
    rw [surveyFiles_eq built, surveyFiles_eq built, sameOrder, sameAudits]
    cases here : (plan.classesOf files).find? (·.isOutside) with
    | some facts =>
      cases there : (plan.classesOf others).find? (·.isOutside) with
      | some other => simp
      | none =>
        rw [sameOutside.mpr there] at here
        cases here
    | none =>
      rw [sameOutside.mp here]
      refine ⟨iff_of_true ⟨_, rfl⟩ ⟨_, rfl⟩, ?_⟩
      rintro survey other ⟨⟩ ⟨⟩
      exact (Survey.sumsUp_ofAudits _ _ _).sameFindings (Survey.sumsUp_ofAudits _ _ _)

/-- One file split in two, the classes and the entries in the other order. In one class the label is its
own on one side and comes from the path on the other. -/
theorem survey_ignores_repartition_split :
    let facts (name : String) (file : Option String) : ClassFacts := {
      name, displayName? := none, kind := .concrete, scope := .inClass name, file
      properties := [⟨"a", .isPrivate, false, false, false, none, [], 1⟩]
      accesses := [⟨.read, .literal "a", .expression (.object "Sub"), none⟩]
      constructors := [], assignments := .empty }
    let plan : Plan := .ofSteps ⟨"facts"⟩ [.preload none]
    let disk : Disk := .empty
    let files : List (Path × FactFile) := [(⟨"a.json"⟩,
      ⟨[⟨"Sub", ["Foo"]⟩, ⟨"Foo", ["Base"]⟩], [facts "Foo" none, facts "Bar" (some "b.src")]⟩)]
    let others : List (Path × FactFile) := [
      (⟨"d.json"⟩, ⟨[⟨"Foo", ["Base"]⟩], [facts "Bar" (some "b.src")]⟩),
      (⟨"c.json"⟩, ⟨[⟨"Sub", ["Foo"]⟩], [facts "Foo" (some "a.json")]⟩)]
    ∃ survey other, plan.surveyFiles disk files = .ok survey ∧
      plan.surveyFiles disk others = .ok other ∧ survey.SameFindings other ∧
      survey.diagnostics.map (fun diagnostic => (diagnostic.sortKey, diagnostic.verdict)) =
        [(("a.json", "Foo"), .readOnly), (("b.src", "Bar"), .unused)] := by
  intro facts plan disk files others
  have sameClasses : (FactFile.labelledClasses files).Perm (FactFile.labelledClasses others) :=
    .swap _ _ _
  have distinct : ((FactFile.labelledClasses files).map (·.sortKey)).Nodup := by decide
  have agree : Agree (files.flatMap (·.2.hierarchy)) (others.flatMap (·.2.hierarchy)) := by
    refine ⟨fun name => ?_, fun child parent => ?_, fun name => ?_⟩
    · simp [files, others, or_comm]
    · simp [files, others, Hierarchy.Records, or_comm]
    · by_cases sub : "Sub" = name
      · subst sub
        rfl
      · simp [files, others, Hierarchy.listedParents, List.filter_cons, sub]
  obtain ⟨both, same⟩ := survey_ignores_repartition plan disk sameClasses distinct agree
  have reported : (plan.surveyFiles disk files).toOption.map (fun survey =>
      survey.diagnostics.map fun diagnostic => (diagnostic.sortKey, diagnostic.verdict)) =
      some [(("a.json", "Foo"), .readOnly), (("b.src", "Bar"), .unused)] := by
    cbv
  cases ran : plan.surveyFiles disk files with
  | error fault =>
    rw [ran] at reported
    cases reported
  | ok survey =>
    obtain ⟨other, alsoRan⟩ := both.mp ⟨survey, ran⟩
    rw [ran] at reported
    exact ⟨survey, other, rfl, alsoRan, same survey other ran alsoRan, Option.some.inj reported⟩

end Plan
end PropertyAudit
