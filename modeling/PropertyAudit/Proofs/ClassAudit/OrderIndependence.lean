import PropertyAudit.Proofs.ClassAudit.Outcome
import PropertyAudit.Proofs.Initialization.Unassigned

/-! The order and the repetition of accesses, extensions and tags do not show in the audit of a class.
Every early exit answers a question about the members of a list: whether one of them may reach any
name, affirms, or stands in a comment. Only which access abandons a class depends on the order. -/
namespace PropertyAudit

def ClassAudit.withoutLine (audit : ClassAudit) : ClassAudit :=
  match audit.outcome with
  | .abandoned _ => { audit with outcome := .abandoned none }
  | _ => audit

namespace PropertyTable

/-- How many contributions meet a property and how many accesses are skipped does not depend on the
order of the accesses. Repeated ones would be counted again. -/
theorem correlate_of_perm {facts : ClassFacts} {accesses : List Access}
    (reordered : accesses.Perm facts.accesses) (table : PropertyTable) (hierarchy : Hierarchy)
    (count skipped : Nat) :
    (table.correlate (facts.withAccesses accesses) hierarchy).1 = .applied count skipped ↔
      (table.correlate facts hierarchy).1 = .applied count skipped := by
  have contributed := reordered.flatMap_right fun access =>
    (access.resolve hierarchy facts.name).contributions
  have sameFirst := (SameMembers.of_perm reordered).find?_eq_none_iff (·.isUnbounded)
  rw [correlate_eq, correlate_eq]
  simp only [ClassFacts.withAccesses, contributed.countP_eq, reordered.countP_eq]
  cases there : facts.accesses.find? (·.isUnbounded) with
  | none => rw [sameFirst.mpr there]
  | some access =>
    cases here : accesses.find? (·.isUnbounded) with
    | none =>
      rw [sameFirst.mp here] at there
      cases there
    | some other => exact iff_of_false (by rintro ⟨⟩) (by rintro ⟨⟩)

end PropertyTable

namespace Auditor

section Reordering

variable {auditor other : Auditor} {hierarchy : Hierarchy} {facts : ClassFacts}
  {accesses : List Access}

theorem totalUsage_of_sameMembers
    (sameTags : ∀ kind, SameMembers (other.options.tags kind) (auditor.options.tags kind))
    (sameExtensions : SameMembers other.extensions auditor.extensions)
    (sameAccesses : SameMembers accesses facts.accesses) (declaration : Declaration) :
    other.totalUsage hierarchy (facts.withAccesses accesses) declaration =
      auditor.totalUsage hierarchy facts declaration := by
  apply Usage.ext_shows
  intro kind
  rw [Bool.eq_iff_iff, shows_totalUsage, shows_totalUsage]
  simp only [Shows, Declaration.IsTagged, ClassFacts.withAccesses, sameTags kind _,
    sameExtensions _, sameAccesses _]

theorem uninitialized_of_sameMembers (sameOptions : other.options.checkUninitialized =
      auditor.options.checkUninitialized)
    (sameConstructors : other.options.additionalConstructors =
      auditor.options.additionalConstructors)
    (asks : auditor.oracle = .definiteAssignment) (otherAsks : other.oracle = .definiteAssignment)
    (sameExtensions : SameMembers other.extensions auditor.extensions) :
    other.uninitialized (facts.withAccesses accesses) = auditor.uninitialized facts := by
  have listed (constructors : List String) :
      Oracle.definiteAssignment (facts.withAccesses accesses) constructors other.extensions =
        Oracle.definiteAssignment facts constructors auditor.extensions := by
    rw [Oracle.definiteAssignment, Oracle.definiteAssignment, ClassFacts.uninitialized_eq,
      ClassFacts.uninitialized_eq]
    simp only [sameExtensions.any_eq]
    rfl
  have called : other.constructors (facts.withAccesses accesses) = auditor.constructors facts := by
    rw [constructors, constructors, sameConstructors]
    rfl
  rw [uninitialized, uninitialized, sameOptions, asks, otherAsks, called, listed]

end Reordering

/-- Accesses, extensions and tags may be put in any other order and be repeated: the audit stays the
same up to the line of an abandoned class. What correlation counts stays the same when accesses are
put in another order. -/
theorem audit_order_independent (hierarchy : Hierarchy) (facts : ClassFacts) (options : Options)
    (extensions otherExtensions : List Extension) (readTags writtenTags : List String)
    (accesses : List Access)
    (sameReadTags : SameMembers readTags options.alwaysReadTags)
    (sameWrittenTags : SameMembers writtenTags options.alwaysWrittenTags)
    (sameExtensions : SameMembers otherExtensions extensions)
    (sameAccesses : SameMembers accesses facts.accesses) :
    (audit ⟨{ options with alwaysReadTags := readTags, alwaysWrittenTags := writtenTags },
        otherExtensions, .definiteAssignment⟩ hierarchy (facts.withAccesses accesses)).map
          ClassAudit.withoutLine =
      (audit ⟨options, extensions, .definiteAssignment⟩ hierarchy facts).map
        ClassAudit.withoutLine ∧
    (accesses.Perm facts.accesses → ∀ (table : PropertyTable) count skipped,
      (table.correlate (facts.withAccesses accesses) hierarchy).1 = .applied count skipped ↔
        (table.correlate facts hierarchy).1 = .applied count skipped) := by
  refine ⟨audit_map_congr ClassAudit.withoutLine ?_ ?_ ?_,
    fun reordered table => table.correlate_of_perm reordered hierarchy⟩
  · apply totalUsage_of_sameMembers _ sameExtensions sameAccesses
    rintro ⟨⟩
    · exact sameReadTags
    · exact sameWrittenTags
  · exact uninitialized_of_sameMembers rfl rfl rfl rfl sameExtensions
  · exact sameAccesses.find?_map_eq (·.isUnbounded) fun _ _ => rfl

/-- Accesses swapped, extensions and tags swapped and repeated. That `a` is read is known
only from the second tag, that `c` is only from the second extension. -/
theorem audit_order_independent_swapped :
    let read : Access := ⟨.read, .literal "b", .classReference (some "self"), some 4⟩
    let write : Access := ⟨.write, .literal "b", .expression (.object "Foo"), some 5⟩
    let idle : Extension := ⟨fun _ _ => false, fun _ _ => false, fun _ _ => false⟩
    let serializer : Extension := ⟨fun _ property => property.name == "c", fun _ _ => false,
      fun _ _ => false⟩
    let options : Options := ⟨["@x", "@api"], [], true, []⟩
    let facts : ClassFacts := {
      name := "Foo", displayName? := none, kind := .concrete, scope := .inClass "Foo", file := none
      properties := [
        ⟨"a", .isPrivate, false, false, false, some "@api", [], 1⟩,
        ⟨"b", .isPrivate, false, false, false, none, [], 2⟩,
        ⟨"c", .isPrivate, false, true, false, none, [], 3⟩]
      accesses := [read, write], constructors := [], assignments := .empty }
    let hierarchy : Hierarchy := .ofEntries []
    let audited := audit ⟨options, [idle, serializer], .definiteAssignment⟩ hierarchy facts
    (audit ⟨{ options with alwaysReadTags := ["@api", "@x", "@api"], alwaysWrittenTags := [] },
        [serializer, idle, serializer], .definiteAssignment⟩ hierarchy
        (facts.withAccesses [write, read])).map ClassAudit.withoutLine =
      audited.map ClassAudit.withoutLine ∧
    audited.map (·.verdicts) =
      .ok [("a", .presumedInitialized), ("b", .ok), ("c", .ok)] ∧
    ((PropertyTable.ofClass options [idle, serializer] facts).correlate
      (facts.withAccesses [write, read]) hierarchy).1 = .applied 2 0 := by
  intro read write idle serializer options facts hierarchy audited
  have swapped : [write, read].Perm [read, write] := .swap _ _ _
  have extended : SameMembers [serializer, idle, serializer] [idle, serializer] :=
    .of_repeated (.tail _ (.head _))
  have tagged : SameMembers ["@api", "@x", "@api"] ["@x", "@api"] :=
    .of_repeated (.tail _ (.head _))
  obtain ⟨same, counted⟩ := audit_order_independent hierarchy facts options [idle, serializer]
    [serializer, idle, serializer] ["@api", "@x", "@api"] [] [write, read] tagged (.of_perm (.refl _))
    extended (.of_perm swapped)
  exact ⟨same, rfl, (counted swapped _ 2 0).mpr rfl⟩

end Auditor
end PropertyAudit
