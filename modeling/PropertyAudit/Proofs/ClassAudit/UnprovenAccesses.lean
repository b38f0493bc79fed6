import PropertyAudit.Proofs.ClassAudit.Outcome
import PropertyAudit.Proofs.Members

/-! Accesses whose owners are not proven. They never count, so a class is audited the same with and
without them, wherever among the other accesses they stand. -/
namespace PropertyAudit

def Oracle.IgnoresAccesses (oracle : Oracle) : Prop :=
  ∀ facts accesses constructors extensions,
    oracle (facts.withAccesses accesses) constructors extensions =
      oracle facts constructors extensions

theorem Oracle.definiteAssignment_ignoresAccesses : Oracle.definiteAssignment.IgnoresAccesses :=
  fun _ _ _ _ => rfl

theorem Oracle.nothingUninitialized_ignoresAccesses :
    Oracle.nothingUninitialized.IgnoresAccesses :=
  fun _ _ _ _ => rfl

namespace Access

/-- The name is bounded, but the owner is not proven to be of the class `name` or of one below it. -/
def IsUnproven (entries : List Hierarchy.Entry) (name : String) (access : Access) : Prop :=
  access.IsBounded ∧ ¬access.HasProvenOwner entries name

theorem IsUnproven.contributions_eq_nil {entries : List Hierarchy.Entry} {name : String}
    {access : Access} (unproven : access.IsUnproven entries name) :
    (access.resolve (.ofEntries entries) name).contributions = [] :=
  contributions_of_not_counts fun counts => unproven.2 counts.hasProvenOwner

end Access

namespace Auditor

theorem audit_of_interspersed {auditor : Auditor} {entries : List Hierarchy.Entry}
    {facts : ClassFacts} {accesses : List Access} (ignores : auditor.oracle.IgnoresAccesses)
    (interspersed : Interspersed (·.IsUnproven entries facts.name) facts.accesses accesses) :
    auditor.audit (.ofEntries entries) (facts.withAccesses accesses) =
      auditor.audit (.ofEntries entries) facts := by
  have sameUsage (declaration : Declaration) :
      auditor.totalUsage (.ofEntries entries) (facts.withAccesses accesses) declaration =
        auditor.totalUsage (.ofEntries entries) facts declaration := by
    have contributed := interspersed.flatMap_eq fun access unproven =>
      Access.IsUnproven.contributions_eq_nil unproven
    simp only [totalUsage, ClassFacts.withAccesses, contributed]
  have sameOpen : auditor.uninitialized (facts.withAccesses accesses) =
      auditor.uninitialized facts := by
    unfold uninitialized
    rw [ignores facts accesses]
    rfl
  have sameFirst := interspersed.find?_eq fun access unproven =>
    Access.isUnbounded_eq_false_iff.mpr unproven.1
  have same := audit_map_congr id sameUsage sameOpen (by rw [sameFirst])
  simpa only [Except.map_id, id] using same

/-- Where an access counts, its owner comes to a type without unknown parts that holds an object and,
but for null, only objects of the class or of classes below it; what it contributes is evidence of
its kind for each name it may reach. So any number of bounded accesses without such an owner, put in
anywhere, leave the audit of a class as it is. -/
theorem accesses_count_only_with_proven_owner (entries : List Hierarchy.Entry) :
    (∀ name (access : Access) found, access.resolve (.ofEntries entries) name = .applies found →
      access.HasProvenOwner entries name ∧
        found.map (·.property) = access.name.candidates ∧
        ∀ contribution ∈ found, (contribution.usage.read ↔ access.kind = .read) ∧
          (contribution.usage.written ↔ access.kind = .write)) ∧
    (Oracle.definiteAssignment.IgnoresAccesses ∧ Oracle.nothingUninitialized.IgnoresAccesses) ∧
    ∀ (auditor : Auditor) (facts : ClassFacts) (accesses : List Access),
      auditor.oracle.IgnoresAccesses →
      Interspersed (·.IsUnproven entries facts.name) facts.accesses accesses →
        auditor.audit (.ofEntries entries) (facts.withAccesses accesses) =
          auditor.audit (.ofEntries entries) facts := by
  refine ⟨fun name access found applies => ?_,
    ⟨Oracle.definiteAssignment_ignoresAccesses, Oracle.nothingUninitialized_ignoresAccesses⟩,
    fun auditor facts accesses ignores interspersed => audit_of_interspersed ignores interspersed⟩
  obtain ⟨_, rfl, _⟩ := Access.resolve_eq_applies_iff.mp applies
  refine ⟨Access.Counts.hasProvenOwner ⟨_, applies⟩, ?_, ?_⟩
  · simp [Access.evidence, Function.comp_def]
  · intro contribution among
    obtain ⟨candidate, _, rfl⟩ := List.mem_map.mp among
    exact ⟨Usage.shows_ofKind access.kind .read, Usage.shows_ofKind access.kind .write⟩

/-- A read through a nullable subclass counts. A write whose owner is only perhaps of the class does
not, and the audit is the same with it before the read and again behind it. -/
theorem perhaps_owned_access_changes_nothing :
    let read : Access := ⟨.read, .literal "a", .expression (.union [.null, .object "Sub"]), none⟩
    let write : Access := ⟨.write, .literal "a", .expression (.union [.object "Foo", .mixed]), none⟩
    let facts : ClassFacts := {
      name := "Foo", displayName? := none, kind := .concrete, scope := .inClass "Foo", file := none
      properties := [⟨"a", .isPrivate, false, false, false, none, [], 1⟩], accesses := [read]
      constructors := [], assignments := .empty }
    let auditor : Auditor := ⟨.default, [], .definiteAssignment⟩
    let hierarchy : Hierarchy := .ofEntries [⟨"Sub", ["Foo"]⟩]
    read.resolve hierarchy "Foo" = .applies [⟨"a", ⟨true, false⟩⟩] ∧
      read.HasProvenOwner [⟨"Sub", ["Foo"]⟩] "Foo" ∧
      write.IsUnproven [⟨"Sub", ["Foo"]⟩] "Foo" ∧
      auditor.audit hierarchy (facts.withAccesses [write, read, write]) =
        auditor.audit hierarchy facts ∧
      (auditor.audit hierarchy facts).map (·.verdicts) = .ok [("a", .readOnly)] := by
  intro read write facts auditor hierarchy
  obtain ⟨counted, shipped, added⟩ := accesses_count_only_with_proven_owner [⟨"Sub", ["Foo"]⟩]
  have applies : read.resolve hierarchy "Foo" = .applies [⟨"a", ⟨true, false⟩⟩] := rfl
  have unproven : write.IsUnproven [⟨"Sub", ["Foo"]⟩] "Foo" := by
    refine ⟨by rintro ⟨⟩, ?_⟩
    rintro ⟨type, resolved, proven⟩
    obtain rfl : ValueType.union [.object "Foo", .mixed] = type := Except.ok.inj resolved
    exact proven.known (List.mem_cons_of_mem _ (List.mem_singleton_self _))
  have interspersed : Interspersed (·.IsUnproven [⟨"Sub", ["Foo"]⟩] "Foo") [read]
      [write, read, write] := .add unproven (.keep (.add unproven .nil))
  exact ⟨applies, (counted "Foo" read _ applies).1, unproven,
    added auditor facts _ shipped.1 interspersed, rfl⟩

end Auditor
end PropertyAudit
