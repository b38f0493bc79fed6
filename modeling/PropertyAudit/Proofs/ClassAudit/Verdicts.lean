import PropertyAudit.Proofs.ClassAudit.Outcome

/-! What the verdicts of a finished audit mean. They are read off the evidence for the first private
declaration of each name; the table, its marks and the order of the stages do not show. -/
namespace PropertyAudit

theorem Usage.verdict_eq_iff {usage : Usage} {name : String} {uninitialized : Option (List String)}
    {verdict : Verdict} :
    usage.verdict name uninitialized = verdict ↔
      match verdict with
      | .unused => ¬usage.read ∧ ¬usage.written
      | .writeOnly => ¬usage.read ∧ usage.written
      | .ok => usage.read ∧ usage.written
      | .presumedInitialized => usage.read ∧ ¬usage.written ∧ uninitialized.any (·.contains name)
      | .readOnly => usage.read ∧ ¬usage.written ∧ ¬uninitialized.any (·.contains name) := by
  obtain ⟨read, written⟩ := usage
  unfold Usage.verdict
  generalize uninitialized.any (·.contains name) = listed
  cases read <;> cases written <;> cases verdict <;> cases listed <;> simp

theorem Verdict.isReported_eq (verdict : Verdict) :
    verdict.isReported = decide (verdict ∈ [unused, writeOnly, readOnly]) := by
  cases verdict <;> rfl

namespace VerdictCounts

def of (counts : VerdictCounts) : Verdict → Nat
  | .unused => counts.unused
  | .writeOnly => counts.writeOnly
  | .readOnly => counts.readOnly
  | .presumedInitialized => counts.presumedInitialized
  | .ok => counts.ok

theorem of_record (counts : VerdictCounts) (given verdict : Verdict) :
    (counts.record given).of verdict = counts.of verdict + if given = verdict then 1 else 0 := by
  cases given <;> cases verdict <;> rfl

theorem total_record (counts : VerdictCounts) (given : Verdict) :
    (counts.record given).total = counts.total + 1 := by
  cases given <;> rfl

theorem of_ofVerdicts (verdicts : List Verdict) (verdict : Verdict) :
    (ofVerdicts verdicts).of verdict = verdicts.count verdict := by
  have run (start : VerdictCounts) :
      (verdicts.foldl record start).of verdict = start.of verdict + verdicts.count verdict := by
    induction verdicts generalizing start with
    | nil => rfl
    | cons given verdicts ih =>
      rw [List.foldl_cons, ih, of_record, List.count_cons]
      simp only [beq_iff_eq]
      omega
  rw [ofVerdicts, run]
  cases verdict <;> exact Nat.zero_add _

theorem total_ofVerdicts (verdicts : List Verdict) :
    (ofVerdicts verdicts).total = verdicts.length := by
  have run (start : VerdictCounts) :
      (verdicts.foldl record start).total = start.total + verdicts.length := by
    induction verdicts generalizing start with
    | nil => rfl
    | cons given verdicts ih =>
      rw [List.foldl_cons, ih, total_record, List.length_cons]
      omega
  rw [ofVerdicts, run]
  exact Nat.zero_add _

end VerdictCounts

namespace ClassFacts

/-- The report of a verdict on a declaration. -/
def report (facts : ClassFacts) (declaration : Declaration) (verdict : Verdict) : Diagnostic where
  message := "Class " ++ facts.displayName ++ " has " ++
    ((if verdict = .unused then "an " else "a ") ++ verdict.word) ++
    (if declaration.isStatic then " static property $" else " property $") ++
    declaration.name ++ "."
  line := declaration.line
  className := facts.name
  property := declaration.name
  verdict
  file := facts.file

theorem diagnostic?_eq (facts : ClassFacts) (record : PropertyRecord) (verdict : Verdict) :
    facts.diagnostic? record verdict =
      if verdict.isReported then some (facts.report record.declaration verdict) else none := by
  cases verdict <;> rfl

end ClassFacts

namespace Auditor

variable {auditor : Auditor} {hierarchy : Hierarchy} {facts : ClassFacts}
  {declaration : Declaration}

def IsRead (auditor : Auditor) (hierarchy : Hierarchy) (facts : ClassFacts)
    (declaration : Declaration) : Prop :=
  auditor.Shows hierarchy facts .read declaration

/-- A value given by the declaration itself is a write as well. -/
def IsWritten (auditor : Auditor) (hierarchy : Hierarchy) (facts : ClassFacts)
    (declaration : Declaration) : Prop :=
  auditor.Shows hierarchy facts .write declaration ∨
    declaration.hasDefault ∨ declaration.isPromoted

/-- Whether the options ask for properties the constructors leave open and the oracle lists it. -/
def LeavesOpen (auditor : Auditor) (facts : ClassFacts) (declaration : Declaration) : Prop :=
  auditor.options.checkUninitialized ∧
    declaration.name ∈ auditor.oracle facts (auditor.constructors facts) auditor.extensions

def Warrants (auditor : Auditor) (hierarchy : Hierarchy) (facts : ClassFacts)
    (declaration : Declaration) (verdict : Verdict) : Prop :=
  match verdict with
  | .unused =>
    ¬auditor.IsRead hierarchy facts declaration ∧ ¬auditor.IsWritten hierarchy facts declaration
  | .writeOnly =>
    ¬auditor.IsRead hierarchy facts declaration ∧ auditor.IsWritten hierarchy facts declaration
  | .ok =>
    auditor.IsRead hierarchy facts declaration ∧ auditor.IsWritten hierarchy facts declaration
  | .presumedInitialized =>
    auditor.IsRead hierarchy facts declaration ∧ ¬auditor.IsWritten hierarchy facts declaration ∧
      auditor.LeavesOpen facts declaration
  | .readOnly =>
    auditor.IsRead hierarchy facts declaration ∧ ¬auditor.IsWritten hierarchy facts declaration ∧
      ¬auditor.LeavesOpen facts declaration

theorem read_totalUsage :
    (auditor.totalUsage hierarchy facts declaration).read ↔
      auditor.IsRead hierarchy facts declaration := by
  have shown : (auditor.totalUsage hierarchy facts declaration).shows .read ↔ _ := shows_totalUsage
  rw [← Usage.shows, shown, IsRead]
  simp

theorem written_totalUsage :
    (auditor.totalUsage hierarchy facts declaration).written ↔
      auditor.IsWritten hierarchy facts declaration := by
  have shown : (auditor.totalUsage hierarchy facts declaration).shows .write ↔ _ := shows_totalUsage
  rw [← Usage.shows, shown, IsWritten, Declaration.assigns, Bool.or_eq_true]
  simp

theorem any_uninitialized :
    (auditor.uninitialized facts).any (·.contains declaration.name) ↔
      auditor.LeavesOpen facts declaration := by
  unfold uninitialized LeavesOpen
  cases auditor.options.checkUninitialized <;> simp

def verdictOn (auditor : Auditor) (hierarchy : Hierarchy) (facts : ClassFacts)
    (declaration : Declaration) : Verdict :=
  (auditor.totalUsage hierarchy facts declaration).verdict declaration.name
    (auditor.uninitialized facts)

theorem verdictOn_eq_iff {verdict : Verdict} :
    auditor.verdictOn hierarchy facts declaration = verdict ↔
      auditor.Warrants hierarchy facts declaration verdict := by
  rw [verdictOn, Usage.verdict_eq_iff]
  cases verdict <;> simp only [Warrants, read_totalUsage, written_totalUsage, any_uninitialized]

theorem verdicts_finalTable (auditor : Auditor) (hierarchy : Hierarchy) (facts : ClassFacts) :
    (auditor.finalTable hierarchy facts).verdicts (auditor.uninitialized facts) =
      (Declaration.firsts facts.privateProperties).map fun declaration =>
        (⟨declaration, auditor.totalUsage hierarchy facts declaration⟩,
          auditor.verdictOn hierarchy facts declaration) := by
  rw [PropertyTable.verdicts, records_finalTable, List.map_map]
  rfl

theorem verdicts_conclude (auditor : Auditor) (hierarchy : Hierarchy) (facts : ClassFacts) :
    (auditor.conclude facts (auditor.finalTable hierarchy facts)).verdicts =
      (Declaration.firsts facts.privateProperties).map fun declaration =>
        (declaration.name, auditor.verdictOn hierarchy facts declaration) := by
  simp only [conclude, verdicts_finalTable, List.map_map]
  rfl

theorem diagnostics_conclude (auditor : Auditor) (hierarchy : Hierarchy) (facts : ClassFacts) :
    (auditor.conclude facts (auditor.finalTable hierarchy facts)).diagnostics =
      ((Declaration.firsts facts.privateProperties).filter fun declaration =>
        (auditor.verdictOn hierarchy facts declaration).isReported).map fun declaration =>
          facts.report declaration (auditor.verdictOn hierarchy facts declaration) := by
  simp only [conclude, verdicts_finalTable, List.filterMap_map]
  rw [← List.filterMap_eq_map, List.filterMap_filter]
  congr 1
  funext declaration
  simp only [Function.comp, ClassFacts.diagnostic?_eq]

end Auditor

/-- What a finished audit says when it is right: one verdict for each name of a private property, in
the order of their first declarations, as the evidence for that declaration calls for; a report of
each verdict that asks for one, in the same order; and the number of verdicts of each sort. -/
structure ClassAudit.Faithful (audit : ClassAudit) (auditor : Auditor) (hierarchy : Hierarchy)
    (facts : ClassFacts) : Prop where
  names : audit.verdicts.map (·.1) = (facts.privateProperties.map (·.name)).eraseDups
  warranted : ∀ declaration, declaration.IsFirstIn facts.privateProperties → ∀ verdict,
    (declaration.name, verdict) ∈ audit.verdicts ↔
      auditor.Warrants hierarchy facts declaration verdict
  reported : audit.diagnostics.map (fun diagnostic => (diagnostic.property, diagnostic.verdict)) =
    audit.verdicts.filter fun entry => entry.2 ∈ [.unused, .writeOnly, .readOnly]
  reports : ∀ diagnostic ∈ audit.diagnostics, ∃ declaration,
    declaration.IsFirstIn facts.privateProperties ∧
      diagnostic = facts.report declaration diagnostic.verdict
  counted : ∀ verdict, audit.counts.of verdict = (audit.verdicts.map (·.2)).count verdict
  total : audit.counts.total = audit.verdicts.length

namespace Auditor

variable {auditor : Auditor} {hierarchy : Hierarchy} {facts : ClassFacts}

theorem faithful_conclude (auditor : Auditor) (hierarchy : Hierarchy) (facts : ClassFacts) :
    (auditor.conclude facts (auditor.finalTable hierarchy facts)).Faithful
      auditor hierarchy facts where
  names := by
    rw [verdicts_conclude, List.map_map, ← Declaration.names_firsts]
    rfl
  warranted := by
    intro declaration first verdict
    rw [verdicts_conclude, List.mem_map, ← verdictOn_eq_iff]
    constructor
    · rintro ⟨other, member, same⟩
      obtain ⟨sameName, rfl⟩ := Prod.mk.inj same
      have otherFirst := Declaration.mem_firsts.mp member
      rw [Declaration.IsFirstIn, sameName, first] at otherFirst
      rw [Option.some.inj otherFirst]
    · rintro rfl
      exact ⟨declaration, Declaration.mem_firsts.mpr first, rfl⟩
  reported := by
    rw [diagnostics_conclude, verdicts_conclude, List.map_map, List.filter_map]
    congr 1
    apply List.filter_congr
    intro declaration _
    exact Verdict.isReported_eq _
  reports := by
    intro diagnostic member
    rw [diagnostics_conclude] at member
    obtain ⟨declaration, among, rfl⟩ := List.mem_map.mp member
    exact ⟨declaration, Declaration.mem_firsts.mp (List.mem_filter.mp among).1, rfl⟩
  counted := by
    intro verdict
    simp only [conclude, VerdictCounts.of_ofVerdicts, List.map_map]
    rfl
  total := by
    simp only [conclude, VerdictCounts.total_ofVerdicts, List.length_map]

/-- The audit of a concrete class met inside a class finishes exactly when there is a private property
and no access may reach any name. Then its verdicts and reports are those the evidence calls for. -/
theorem audit_faithful {scope : String} (inside : facts.scope = .inClass scope)
    (concrete : facts.kind = .concrete) :
    ∃ audit, auditor.audit hierarchy facts = .ok audit ∧
      (audit.outcome = .analyzed ↔
        facts.privateProperties ≠ [] ∧ ∀ access ∈ facts.accesses, access.IsBounded) ∧
      (audit.outcome = .analyzed → audit.Faithful auditor hierarchy facts) := by
  refine ⟨_, audit_of_concrete inside concrete, ?_⟩
  by_cases nothing : facts.privateProperties = []
  · simp [nothing, ClassAudit.silent]
  · cases unbounded : facts.accesses.find? (·.isUnbounded) with
    | some access =>
      have member := List.mem_of_find?_eq_some unbounded
      have free : ¬access.IsBounded := by
        rw [← Access.isUnbounded_eq_false_iff, Bool.not_eq_false]
        exact List.find?_some unbounded
      simp only [if_neg nothing, ClassAudit.silent]
      exact ⟨iff_of_false (by rintro ⟨⟩) fun finishes => free (finishes.2 access member),
        by rintro ⟨⟩⟩
    | none =>
      have bounded : ∀ access ∈ facts.accesses, access.IsBounded := by
        intro access member
        rw [← Access.isUnbounded_eq_false_iff, ← Bool.not_eq_true]
        exact List.find?_eq_none.mp unbounded access member
      simp only [if_neg nothing]
      exact ⟨iff_of_true rfl ⟨nothing, bounded⟩, fun _ => faithful_conclude auditor hierarchy facts⟩

/-- A property read by a tag, whose second declaration and a write through a stranger do not count,
and one read through a nullable subclass that the oracle lists. -/
theorem audit_faithful_two_properties :
    let facts : ClassFacts := {
      name := "Foo", displayName? := none, kind := .concrete, scope := .inClass "Foo", file := none
      properties := [
        ⟨"a", .isPrivate, false, false, false, some "@api", [], 1⟩,
        ⟨"b", .isPrivate, true, false, false, none, [], 2⟩,
        ⟨"a", .isPrivate, false, true, false, none, [], 3⟩,
        ⟨"c", .isPublic, false, false, false, none, [], 4⟩]
      accesses := [
        ⟨.write, .literal "a", .expression (.object "Bar"), none⟩,
        ⟨.read, .computed (.union [.literal "b", .literal "d"]),
          .expression (.union [.null, .object "Sub"]), none⟩]
      constructors := [], assignments := .empty }
    let auditor : Auditor := ⟨⟨["@a"], [], true, []⟩, [], .always ["b"]⟩
    ∃ audit, auditor.audit (.ofEntries [⟨"Sub", ["Foo"]⟩]) facts = .ok audit ∧
      audit.verdicts = [("a", .readOnly), ("b", .presumedInitialized)] ∧
      audit.diagnostics =
        [⟨"Class Foo has a read-only property $a.", 1, "Foo", "a", .readOnly, none⟩] ∧
      audit.Faithful auditor (.ofEntries [⟨"Sub", ["Foo"]⟩]) facts := by
  intro facts auditor
  obtain ⟨audit, done, finishes, faithful⟩ :=
    @audit_faithful auditor (.ofEntries [⟨"Sub", ["Foo"]⟩]) facts "Foo" rfl rfl
  have verdicts : (auditor.audit (.ofEntries [⟨"Sub", ["Foo"]⟩]) facts).map (·.verdicts) =
      .ok [("a", .readOnly), ("b", .presumedInitialized)] := rfl
  have diagnostics : (auditor.audit (.ofEntries [⟨"Sub", ["Foo"]⟩]) facts).map (·.diagnostics) =
      .ok [⟨"Class Foo has a read-only property $a.", 1, "Foo", "a", .readOnly, none⟩] := rfl
  rw [done] at verdicts diagnostics
  refine ⟨audit, done, Except.ok.inj verdicts, Except.ok.inj diagnostics, faithful ?_⟩
  refine finishes.mpr ⟨by rintro ⟨⟩, ?_⟩
  intro access member
  simp only [facts, List.mem_cons, List.not_mem_nil, or_false] at member
  rcases member with rfl | rfl <;> rintro ⟨⟩

end Auditor
end PropertyAudit
