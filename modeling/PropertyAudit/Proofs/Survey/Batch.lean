import Mathlib
import PropertyAudit.Proofs.ClassAudit.Verdicts
import PropertyAudit.Proofs.Results
import PropertyAudit.Proofs.Survey.ClassOrder

/-! A survey is the sum of the audits of its classes, each by itself and against the ancestry that all
files together record. It fails only over a class met outside of any class. -/
namespace PropertyAudit

theorem VerdictCounts.of_add (a b : VerdictCounts) (verdict : Verdict) :
    (a.add b).of verdict = a.of verdict + b.of verdict := by
  cases verdict <;> rfl

namespace AuditOutcome

def isAnalyzed : AuditOutcome → Bool
  | analyzed => true
  | _ => false

def isAbandoned : AuditOutcome → Bool
  | abandoned _ => true
  | _ => false

def isUnsupported : AuditOutcome → Bool
  | unsupported _ => true
  | _ => false

end AuditOutcome

namespace Survey

/-- Whether the survey holds just what the audits hold: all reports in their order, and the sum of
everything that is counted. -/
structure SumsUp (survey : Survey) (audits : List ClassAudit) : Prop where
  diagnostics : survey.diagnostics = audits.flatMap (·.diagnostics)
  total : survey.counts.total = (audits.map (·.counts.total)).sum
  counts : ∀ verdict, survey.counts.of verdict = (audits.map (·.counts.of verdict)).sum
  analyzed : survey.classesAnalyzed = audits.countP (·.outcome.isAnalyzed)
  abandoned : survey.classesAbandoned = audits.countP (·.outcome.isAbandoned)
  unsupported : survey.classesUnsupported = audits.countP (·.outcome.isUnsupported)

variable {survey : Survey} {audits done : List ClassAudit} {audit : ClassAudit}

theorem add_eq (survey : Survey) (audit : ClassAudit) :
    survey.add audit = {
      root := survey.root
      filesScanned := survey.filesScanned
      filesSkipped := survey.filesSkipped
      classesAnalyzed := survey.classesAnalyzed + audit.outcome.isAnalyzed.toNat
      classesAbandoned := survey.classesAbandoned + audit.outcome.isAbandoned.toNat
      classesUnsupported := survey.classesUnsupported + audit.outcome.isUnsupported.toNat
      diagnostics := survey.diagnostics ++ audit.diagnostics
      counts := survey.counts.add audit.counts } := by
  unfold add
  cases audit.outcome <;> rfl

theorem sumsUp_start (root : Path) (filesScanned : Nat) : (start root filesScanned).SumsUp [] where
  diagnostics := rfl
  total := rfl
  counts verdict := by cases verdict <;> rfl
  analyzed := rfl
  abandoned := rfl
  unsupported := rfl

theorem SumsUp.add (sums : survey.SumsUp done) (audit : ClassAudit) :
    (survey.add audit).SumsUp (done ++ [audit]) := by
  have counted (test : ClassAudit → Bool) :
      (done ++ [audit]).countP test = done.countP test + (test audit).toNat := by
    rw [List.countP_append, List.countP_singleton]
    cases test audit <;> rfl
  rw [add_eq]
  refine ⟨?_, ?_, fun verdict => ?_, ?_, ?_, ?_⟩
  · simp [sums.diagnostics]
  · simp [VerdictCounts.add, sums.total]
  · simp [VerdictCounts.of_add, sums.counts]
  · rw [counted, sums.analyzed]
  · rw [counted, sums.abandoned]
  · rw [counted, sums.unsupported]

theorem SumsUp.foldl (sums : survey.SumsUp done) :
    (audits.foldl Survey.add survey).SumsUp (done ++ audits) := by
  induction audits generalizing survey done with
  | nil => simpa using sums
  | cons audit audits ih => simpa using ih (sums.add audit)

def ofAudits (root : Path) (filesScanned : Nat) (audits : List ClassAudit) : Survey :=
  audits.foldl Survey.add (start root filesScanned)

theorem sumsUp_ofAudits (root : Path) (filesScanned : Nat) (audits : List ClassAudit) :
    (ofAudits root filesScanned audits).SumsUp audits :=
  (sumsUp_start root filesScanned).foldl

end Survey

namespace ClassFacts

def isOutside (facts : ClassFacts) : Bool := facts.scope = .outside

theorem isOutside_iff {facts : ClassFacts} : facts.isOutside ↔ facts.scope = .outside :=
  decide_eq_true_iff

/-- The reports follow the declarations of the class: each is about one of them, and in their order. -/
def InDeclarationOrder (facts : ClassFacts) (diagnostics : List Diagnostic) : Prop :=
  ∃ declarations : List Declaration, declarations.Sublist facts.properties ∧
    diagnostics.map (fun diagnostic => (diagnostic.property, diagnostic.line)) =
      declarations.map fun declaration => (declaration.name, declaration.line)

end ClassFacts

namespace Auditor

variable {auditor : Auditor} {hierarchy : Hierarchy} {facts : ClassFacts}

/-- The reports on a class are about its declarations, in their order, under its name and file. -/
theorem diagnostics_auditInside (auditor : Auditor) (hierarchy : Hierarchy) (facts : ClassFacts) :
    ∃ declarations : List Declaration, declarations.Sublist facts.properties ∧
      (auditor.auditInside hierarchy facts).diagnostics =
        declarations.map fun declaration =>
          facts.report declaration (auditor.verdictOn hierarchy facts declaration) := by
  have nothing : ∃ declarations : List Declaration, declarations.Sublist facts.properties ∧
      [] = declarations.map fun declaration =>
        facts.report declaration (auditor.verdictOn hierarchy facts declaration) :=
    ⟨[], List.nil_sublist _, rfl⟩
  unfold auditInside
  split
  · split
    · exact nothing
    · split
      · exact nothing
      · rw [diagnostics_conclude]
        exact ⟨_, (List.filter_sublist.trans (Declaration.firsts_sublist _)).trans
          List.filter_sublist, rfl⟩
  · exact nothing

theorem inDeclarationOrder_auditInside (auditor : Auditor) (hierarchy : Hierarchy)
    (facts : ClassFacts) :
    facts.InDeclarationOrder (auditor.auditInside hierarchy facts).diagnostics := by
  obtain ⟨declarations, among, reports⟩ := auditor.diagnostics_auditInside hierarchy facts
  refine ⟨declarations, among, ?_⟩
  rw [reports, List.map_map]
  rfl

end Auditor

def Diagnostic.sortKey (diagnostic : Diagnostic) : String × String :=
  (diagnostic.file.getD "", diagnostic.className)

theorem Auditor.sortKey_of_mem_diagnostics {auditor : Auditor} {hierarchy : Hierarchy}
    {facts : ClassFacts} {diagnostic : Diagnostic}
    (reported : diagnostic ∈ (auditor.auditInside hierarchy facts).diagnostics) :
    diagnostic.sortKey = facts.sortKey := by
  obtain ⟨declarations, -, reports⟩ := auditor.diagnostics_auditInside hierarchy facts
  rw [reports] at reported
  obtain ⟨declaration, -, rfl⟩ := List.mem_map.mp reported
  rfl

/-- Classes in ascending order give reports in ascending order. -/
theorem Auditor.diagnostics_ascend (auditor : Auditor) (hierarchy : Hierarchy)
    {classes : List ClassFacts}
    (ascending : classes.Pairwise fun a b => KeyAscends a.sortKey b.sortKey) :
    (classes.flatMap fun facts => (auditor.auditInside hierarchy facts).diagnostics).Pairwise
      fun a b => KeyAscends a.sortKey b.sortKey := by
  rw [List.pairwise_flatMap]
  constructor
  · intro facts _
    apply List.pairwise_of_forall_mem_list
    intro a here b there
    rw [sortKey_of_mem_diagnostics here, sortKey_of_mem_diagnostics there]
    exact KeyAscends.refl facts.sortKey
  · apply ascending.imp
    intro first second ascends a here b there
    rwa [sortKey_of_mem_diagnostics here, sortKey_of_mem_diagnostics there]

namespace Plan

variable {plan : Plan} {disk : Disk} {auditor : Auditor} {files : List (Path × FactFile)}

/-- All classes are audited unless one was met outside of any class, which ends it. -/
theorem auditAll_eq (auditor : Auditor) (hierarchy : Hierarchy) (classes : List ClassFacts) :
    auditAll auditor hierarchy classes =
      match classes.find? (·.isOutside) with
      | some facts => .error (.outsideClass facts.name)
      | none => .ok (classes.map fun facts => (facts, auditor.auditInside hierarchy facts)) := by
  induction classes with
  | nil => rfl
  | cons facts classes ih =>
    rw [auditAll, List.mapM_cons, ← auditAll, ih, List.find?_cons]
    by_cases outside : facts.scope = .outside
    · have found : facts.isOutside = true := decide_eq_true outside
      rw [Auditor.audit_of_outside outside, found]
      rfl
    · have passed : facts.isOutside = false := decide_eq_false outside
      rw [Auditor.audit_of_inside outside, passed]
      cases classes.find? (·.isOutside) <;> rfl

theorem surveyFiles_of_built (built : plan.auditor disk = .ok auditor) :
    plan.surveyFiles disk files =
      ((auditAll auditor (hierarchyOf files) (plan.classesOf files)).mapError .facts).map
        fun audits => (audits.mergeSort fun a b => keyLe a.1.sortKey b.1.sortKey).foldl
          (fun survey audit => survey.add audit.2) (Survey.start plan.root files.length) := by
  rw [surveyFiles, built]
  rfl

/-- The survey adds up the audits in the order of files and names, unless a class was met outside of
any class. -/
theorem surveyFiles_eq (built : plan.auditor disk = .ok auditor) :
    plan.surveyFiles disk files =
      match (plan.classesOf files).find? (·.isOutside) with
      | some facts => .error (.facts (.outsideClass facts.name))
      | none => .ok (.ofAudits plan.root files.length
          ((ClassFacts.inOrder (plan.classesOf files)).map
            (auditor.auditInside (hierarchyOf files)))) := by
  let audited (facts : ClassFacts) := (facts, auditor.auditInside (hierarchyOf files) facts)
  have sorted : (ClassFacts.inOrder (plan.classesOf files)).map audited =
      ((plan.classesOf files).map audited).mergeSort fun a b => keyLe a.1.sortKey b.1.sortKey := by
    apply List.map_mergeSort
    intros
    rfl
  rw [surveyFiles_of_built built, auditAll_eq]
  cases (plan.classesOf files).find? (·.isOutside) with
  | some facts => rfl
  | none =>
    simp only [Except.mapError, Except.map]
    rw [← sorted, List.foldl_map, Survey.ofAudits, List.foldl_map]

/-- A survey that succeeds had an auditor, met no class outside of any class, and added up all audits. -/
theorem eq_ofAudits_of_surveyFiles {survey : Survey}
    (done : plan.surveyFiles disk files = .ok survey) :
    ∃ auditor, plan.auditor disk = .ok auditor ∧
      (∀ facts ∈ plan.classesOf files, facts.scope ≠ .outside) ∧
      survey = .ofAudits plan.root files.length
        ((ClassFacts.inOrder (plan.classesOf files)).map
          (auditor.auditInside (hierarchyOf files))) := by
  obtain ⟨auditor, built, -⟩ := bind_eq_ok_iff.mp done
  rw [mapError_eq_ok_iff] at built
  rw [surveyFiles_eq built] at done
  cases met : (plan.classesOf files).find? (·.isOutside) with
  | some facts =>
    rw [met] at done
    cases done
  | none =>
    rw [met] at done
    refine ⟨auditor, built, fun facts member outside => ?_, (Except.ok.inj done).symm⟩
    exact List.find?_eq_none.mp met facts member (ClassFacts.isOutside_iff.mpr outside)

/-- With an auditor at hand a survey fails, naming a class that is not ignored and was met outside of
any class, exactly when there is such a class. Otherwise its reports and numbers are those of the audits
of the classes not ignored, each against the ancestry of all files, in the order of files and of names
and for each class in the order of its declarations. -/
theorem surveyFiles_sums_audits (built : plan.auditor disk = .ok auditor) :
    let classes := (FactFile.labelledClasses files).filter (!plan.ignores ·.name)
    let hierarchy := Hierarchy.ofEntries (files.flatMap (·.2.hierarchy))
    ((∃ facts ∈ classes, facts.scope = .outside) →
      ∃ facts ∈ classes, facts.scope = .outside ∧
        plan.surveyFiles disk files = .error (.facts (.outsideClass facts.name))) ∧
    ((∀ facts ∈ classes, facts.scope ≠ .outside) →
      ∃ survey ordered audits, plan.surveyFiles disk files = .ok survey ∧
        ClassFacts.IsOrderOf ordered classes ∧
        List.Forall₂ (fun facts audit => auditor.audit hierarchy facts = .ok audit ∧
          facts.InDeclarationOrder audit.diagnostics) ordered audits ∧
        survey.SumsUp audits ∧
        survey.diagnostics.Pairwise fun a b => KeyAscends a.sortKey b.sortKey) := by
  intro classes hierarchy
  have ran : plan.surveyFiles disk files = match classes.find? (·.isOutside) with
      | some facts => .error (.facts (.outsideClass facts.name))
      | none => .ok (.ofAudits plan.root files.length
          ((ClassFacts.inOrder classes).map (auditor.auditInside hierarchy))) := by
    rw [surveyFiles_eq built, classesOf_eq]
    rfl
  constructor
  · rintro ⟨facts, member, outside⟩
    cases found : classes.find? (·.isOutside) with
    | none =>
      have passed := List.find?_eq_none.mp found facts member
      exact absurd (ClassFacts.isOutside_iff.mpr outside) passed
    | some first =>
      rw [found] at ran
      have met : first.isOutside := List.find?_some found
      exact ⟨first, List.mem_of_find?_eq_some found, ClassFacts.isOutside_iff.mp met, ran⟩
  · intro inside
    have nowhere : classes.find? (·.isOutside) = none :=
      List.find?_eq_none.mpr fun facts member outside =>
        inside facts member (ClassFacts.isOutside_iff.mp outside)
    rw [nowhere] at ran
    have order := ClassFacts.isOrderOf_inOrder classes
    have sums := Survey.sumsUp_ofAudits plan.root files.length
      ((ClassFacts.inOrder classes).map (auditor.auditInside hierarchy))
    refine ⟨_, _, _, ran, order, ?_, sums, ?_⟩
    · rw [List.forall₂_map_right_iff, List.forall₂_same]
      intro facts member
      exact ⟨Auditor.audit_of_inside (inside facts (order.complete.mem_iff.mp member)),
        auditor.inDeclarationOrder_auditInside hierarchy facts⟩
    · rw [sums.diagnostics, List.flatMap_map]
      exact auditor.diagnostics_ascend hierarchy order.ascending

/-- Two files, given in descending order. The class of the second counts an access through a subclass
that the first records; the class of the first is filed under a name of its own, and the one that is
ignored was met outside of any class. -/
theorem surveyFiles_sums_audits_two_files :
    let facts (name : String) (file : Option String) (scope : Scope) : ClassFacts := {
      name, displayName? := none, kind := .concrete, scope, file
      properties := [⟨"b", .isPrivate, false, false, false, none, [], 4⟩,
        ⟨"a", .isPrivate, false, true, false, none, [], 3⟩]
      accesses := [⟨.read, .literal "a", .expression (.object "Sub"), none⟩]
      constructors := [], assignments := .empty }
    let plan : Plan := .ofSteps ⟨"facts"⟩ [.preload none, .ignoreClasses ["Skipped"]]
    let files : List (Path × FactFile) := [
      (⟨"b.json"⟩, ⟨[⟨"Sub", ["Foo"]⟩], [facts "Bar" (some "c.src") (.inClass "Bar")]⟩),
      (⟨"a.json"⟩, ⟨[], [facts "Skipped" none .outside, facts "Foo" none (.inClass "Foo")]⟩)]
    ∃ auditor survey ordered audits, plan.auditor .empty = .ok auditor ∧
      plan.surveyFiles .empty files = .ok survey ∧
      ClassFacts.IsOrderOf ordered ((FactFile.labelledClasses files).filter (!plan.ignores ·.name)) ∧
      List.Forall₂ (fun facts audit =>
        auditor.audit (.ofEntries [⟨"Sub", ["Foo"]⟩]) facts = .ok audit ∧
          facts.InDeclarationOrder audit.diagnostics) ordered audits ∧
      survey.SumsUp audits ∧
      survey.diagnostics.map (fun diagnostic =>
        (diagnostic.sortKey, diagnostic.property, diagnostic.verdict)) =
        [(("a.json", "Foo"), "b", .unused), (("c.src", "Bar"), "b", .unused),
          (("c.src", "Bar"), "a", .writeOnly)] := by
  intro facts plan files
  have built : plan.auditor .empty = .ok ⟨.default, [], .definiteAssignment⟩ := rfl
  have inside : ∀ facts ∈ (FactFile.labelledClasses files).filter (!plan.ignores ·.name),
      facts.scope ≠ .outside := by
    decide
  obtain ⟨survey, ordered, audits, ran, order, each, sums, -⟩ :=
    (@surveyFiles_sums_audits plan _ _ files built).2 inside
  have reported : (plan.surveyFiles .empty files).toOption.map (fun survey =>
      survey.diagnostics.map fun diagnostic =>
        (diagnostic.sortKey, diagnostic.property, diagnostic.verdict)) =
      some [(("a.json", "Foo"), "b", .unused), (("c.src", "Bar"), "b", .unused),
        (("c.src", "Bar"), "a", .writeOnly)] := by
    cbv
  rw [ran] at reported
  exact ⟨_, survey, ordered, audits, built, ran, order, each, sums, Option.some.inj reported⟩

end Plan
end PropertyAudit
