import PropertyAudit.Proofs.ClassAudit.Verdicts

/-! What it changes to look for uninitialized properties. The properties that are read, never written and
listed by the oracle are then presumed to be initialized and no longer reported. Whatever else the oracle
lists, and all other verdicts, reports and numbers, stay as they are. -/
namespace PropertyAudit

def Verdict.knowing (verdict : Verdict) (name : String) (listed : List String) : Verdict :=
  if verdict = .readOnly ∧ name ∈ listed then .presumedInitialized else verdict

theorem Usage.verdict_knowing (usage : Usage) (name : String) (listed : List String) :
    usage.verdict name (some listed) = (usage.verdict name .none).knowing name listed := by
  obtain ⟨read, written⟩ := usage
  cases read <;> cases written <;> simp [Usage.verdict, Verdict.knowing]

theorem Usage.verdict_ne_presumedInitialized (usage : Usage) (name : String) :
    usage.verdict name .none ≠ .presumedInitialized := by
  obtain ⟨read, written⟩ := usage
  cases read <;> cases written <;> simp [Usage.verdict]

namespace VerdictCounts

/-- The counts differ at most in that properties counted as read only before are now counted as presumed
to be initialized. -/
structure PresumesSome (before after : VerdictCounts) : Prop where
  total : after.total = before.total
  unused : after.unused = before.unused
  writeOnly : after.writeOnly = before.writeOnly
  ok : after.ok = before.ok
  readOnly : before.readOnly = after.readOnly + after.presumedInitialized

variable {before after : VerdictCounts}

theorem presumesSome_zero : zero.PresumesSome zero := ⟨rfl, rfl, rfl, rfl, rfl⟩

theorem PresumesSome.record (presumes : before.PresumesSome after) {verdict : Verdict}
    (certain : verdict ≠ .presumedInitialized) (name : String) (listed : List String) :
    (before.record verdict).PresumesSome (after.record (verdict.knowing name listed)) := by
  obtain ⟨total, unused, writeOnly, ok, readOnly⟩ := presumes
  unfold Verdict.knowing
  cases verdict with
  | presumedInitialized => exact absurd rfl certain
  | readOnly => split <;> constructor <;> simp only [VerdictCounts.record] <;> omega
  | unused | writeOnly | ok => constructor <;> simp [VerdictCounts.record, *]

theorem presumesSome_ofVerdicts {entries : List (String × Verdict)} (listed : List String)
    (certain : ∀ entry ∈ entries, entry.2 ≠ .presumedInitialized) :
    (ofVerdicts (entries.map (·.2))).PresumesSome
      (ofVerdicts (entries.map fun entry => entry.2.knowing entry.1 listed)) := by
  have run (before after : VerdictCounts) (presumes : before.PresumesSome after) :
      ((entries.map (·.2)).foldl VerdictCounts.record before).PresumesSome
        ((entries.map fun entry => entry.2.knowing entry.1 listed).foldl VerdictCounts.record
          after) := by
    induction entries generalizing before after with
    | nil => exact presumes
    | cons entry entries ih =>
      obtain ⟨here, rest⟩ := List.forall_mem_cons.mp certain
      exact ih rest _ _ (presumes.record here entry.1 listed)
  exact run zero zero presumesSome_zero

end VerdictCounts

/-- Of the reports those go whose verdict is now another one; the others are unchanged. -/
theorem ClassFacts.reports_knowing (facts : ClassFacts) (verdictOn : Declaration → Verdict)
    (listed : List String) (declarations : List Declaration) :
    ((declarations.filter fun declaration =>
        ((verdictOn declaration).knowing declaration.name listed).isReported).map fun declaration =>
          facts.report declaration ((verdictOn declaration).knowing declaration.name listed)) =
      ((declarations.filter fun declaration => (verdictOn declaration).isReported).map
        fun declaration => facts.report declaration (verdictOn declaration)).filter
          fun diagnostic => ¬(diagnostic.verdict = .readOnly ∧ diagnostic.property ∈ listed) := by
  induction declarations with
  | nil => rfl
  | cons declaration declarations ih =>
    rw [List.filter_cons, List.filter_cons]
    by_cases presumed : verdictOn declaration = .readOnly ∧ declaration.name ∈ listed
    · have silent : ((verdictOn declaration).knowing declaration.name listed).isReported = false := by
        rw [Verdict.knowing, if_pos presumed]
        rfl
      have reported : (verdictOn declaration).isReported = true := by
        rw [presumed.1]
        rfl
      rw [silent, reported, if_neg Bool.false_ne_true, if_pos rfl, List.map_cons,
        List.filter_cons_of_neg (by simpa [report] using presumed), ih]
    · have same : (verdictOn declaration).knowing declaration.name listed = verdictOn declaration :=
        if_neg presumed
      rw [same]
      split
      · rw [List.map_cons, List.map_cons, same,
          List.filter_cons_of_pos (by exact decide_eq_true presumed), ih]
      · exact ih

structure ClassAudit.PresumesSome (before after : ClassAudit) (listed : List String) : Prop where
  name : after.name = before.name
  outcome : after.outcome = before.outcome
  verdicts : after.verdicts =
    before.verdicts.map fun (name, verdict) => (name, verdict.knowing name listed)
  diagnostics : after.diagnostics = before.diagnostics.filter fun diagnostic =>
    ¬(diagnostic.verdict = .readOnly ∧ diagnostic.property ∈ listed)
  counts : before.counts.PresumesSome after.counts

namespace Auditor

variable {auditor : Auditor} {hierarchy : Hierarchy} {facts : ClassFacts}

def checking (auditor : Auditor) (enabled : Bool) : Auditor :=
  { auditor with options := { auditor.options with checkUninitialized := enabled } }

/-- The evidence is the same whether or not uninitialized properties are looked for. -/
theorem totalUsage_checking (auditor : Auditor) (enabled : Bool) :
    (auditor.checking enabled).totalUsage hierarchy facts = auditor.totalUsage hierarchy facts := rfl

theorem verdictOn_checking (auditor : Auditor) (hierarchy : Hierarchy) (facts : ClassFacts)
    (declaration : Declaration) :
    (auditor.checking true).verdictOn hierarchy facts declaration =
      ((auditor.checking false).verdictOn hierarchy facts declaration).knowing declaration.name
        (auditor.oracle facts (auditor.constructors facts) auditor.extensions) := by
  rw [verdictOn, verdictOn, totalUsage_checking, totalUsage_checking]
  exact Usage.verdict_knowing _ _ _

theorem presumesSome_silent (name : String) (outcome : AuditOutcome) (listed : List String) :
    (ClassAudit.silent name outcome).PresumesSome (.silent name outcome) listed :=
  ⟨rfl, rfl, rfl, rfl, VerdictCounts.presumesSome_zero⟩

theorem certain_verdicts (auditor : Auditor) (hierarchy : Hierarchy) (facts : ClassFacts) :
    ∀ entry ∈ ((auditor.checking false).conclude facts
      ((auditor.checking false).finalTable hierarchy facts)).verdicts,
      entry.2 ≠ .presumedInitialized := by
  rw [verdicts_conclude, List.forall_mem_map]
  exact fun declaration _ => Usage.verdict_ne_presumedInitialized _ _

theorem counts_conclude (auditor : Auditor) (facts : ClassFacts) (table : PropertyTable) :
    (auditor.conclude facts table).counts =
      .ofVerdicts ((auditor.conclude facts table).verdicts.map (·.2)) := by
  simp only [conclude, List.map_map]
  rfl

theorem presumesSome_conclude (auditor : Auditor) (hierarchy : Hierarchy) (facts : ClassFacts) :
    ((auditor.checking false).conclude facts
        ((auditor.checking false).finalTable hierarchy facts)).PresumesSome
      ((auditor.checking true).conclude facts ((auditor.checking true).finalTable hierarchy facts))
      (auditor.oracle facts (auditor.constructors facts) auditor.extensions) where
  name := rfl
  outcome := rfl
  verdicts := by
    rw [verdicts_conclude, verdicts_conclude, List.map_map]
    simp only [verdictOn_checking]
    rfl
  diagnostics := by
    rw [diagnostics_conclude, diagnostics_conclude]
    simp only [verdictOn_checking]
    exact facts.reports_knowing _ _ _
  counts := by
    have presumes := VerdictCounts.presumesSome_ofVerdicts
      (auditor.oracle facts (auditor.constructors facts) auditor.extensions)
      (certain_verdicts auditor hierarchy facts)
    simp only [counts_conclude, verdicts_conclude, List.map_map, Function.comp_def,
      verdictOn_checking] at presumes ⊢
    exact presumes

/-- Looking for uninitialized properties only ever takes reports away. An audit fails with it as without
it, over a class met outside of any class. Otherwise it ends in the same way, and the verdicts, reports
and numbers differ only by the properties that are read only without it and that the oracle lists: those
are presumed to be initialized. -/
theorem audit_checking_presumes (auditor : Auditor) (hierarchy : Hierarchy) (facts : ClassFacts) :
    (∃ failure, (auditor.checking false).audit hierarchy facts = .error failure ∧
      (auditor.checking true).audit hierarchy facts = .error failure) ∨
    ∃ before after, (auditor.checking false).audit hierarchy facts = .ok before ∧
      (auditor.checking true).audit hierarchy facts = .ok after ∧
      before.PresumesSome after
        (auditor.oracle facts (auditor.constructors facts) auditor.extensions) := by
  by_cases outside : facts.scope = .outside
  · exact .inl ⟨_, audit_of_outside outside, audit_of_outside outside⟩
  · refine .inr ⟨_, _, audit_of_inside outside, audit_of_inside outside, ?_⟩
    unfold auditInside
    split
    · split
      · exact presumesSome_silent _ _ _
      · split
        · exact presumesSome_silent _ _ _
        · exact presumesSome_conclude auditor hierarchy facts
    · exact presumesSome_silent _ _ _

/-- The oracle lists all names there are and one more. Of the four properties, of each verdict one, only
the one that is read only loses its report. -/
example :
    let facts : ClassFacts := {
      name := "Foo", displayName? := none, kind := .concrete, scope := .inClass "Foo", file := none
      properties := [
        ⟨"a", .isPrivate, false, false, false, none, [], 1⟩,
        ⟨"b", .isPrivate, false, true, false, none, [], 2⟩,
        ⟨"c", .isPrivate, false, false, false, none, [], 3⟩,
        ⟨"d", .isPrivate, false, true, false, none, [], 4⟩]
      accesses := [⟨.read, .computed (.union [.literal "c", .literal "d"]),
        .classReference (some "self"), none⟩]
      constructors := [], assignments := .empty }
    let auditor : Auditor := ⟨.default, [], .always ["a", "b", "c", "d", "x"]⟩
    let verdicts (enabled : Bool) :=
      ((auditor.checking enabled).audit (.ofEntries []) facts).map (·.verdicts)
    verdicts false = .ok [("a", .unused), ("b", .writeOnly), ("c", .readOnly), ("d", .ok)] ∧
      verdicts true =
        .ok [("a", .unused), ("b", .writeOnly), ("c", .presumedInitialized), ("d", .ok)] :=
  ⟨rfl, rfl⟩

end Auditor
end PropertyAudit
