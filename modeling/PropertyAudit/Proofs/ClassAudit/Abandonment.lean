import PropertyAudit.Proofs.ClassAudit.Outcome
import PropertyAudit.Proofs.ValueType.KnownText

/-! When a class is abandoned. Only the type of a computed name decides it, before any owner is looked
at; the first such access gives the line. What earlier accesses would have contributed is dropped with
the class and reaches no record. -/
namespace PropertyAudit

namespace Access

/-- The name is computed, and its type holds an empty union or a leaf that is no text of known value,
at whatever depth. -/
def MayReachAnyName (access : Access) : Prop :=
  ∃ type, access.name = .computed type ∧ type.IsUnbounded

theorem isUnbounded_iff {access : Access} : access.isUnbounded ↔ access.MayReachAnyName := by
  unfold isUnbounded MayReachAnyName
  cases access.name with
  | literal name => simp [PropertyName.candidates]
  | computed type => simp [PropertyName.candidates, ValueType.literals_eq_nil_iff]

end Access

namespace ClassFacts

def IsFirstUnboundedLine (facts : ClassFacts) (line : Option UInt32) : Prop :=
  ∃ before access after, facts.accesses = before ++ access :: after ∧
    (∀ earlier ∈ before, ¬earlier.MayReachAnyName) ∧ access.MayReachAnyName ∧ access.line = line

theorem isFirstUnboundedLine_iff {facts : ClassFacts} {line : Option UInt32} :
    facts.IsFirstUnboundedLine line ↔
      ∃ access, facts.accesses.find? (·.isUnbounded) = some access ∧ access.line = line := by
  simp only [IsFirstUnboundedLine, List.find?_eq_some_iff_append, Bool.not_eq_true',
    ← Bool.not_eq_true, Access.isUnbounded_iff]
  constructor
  · rintro ⟨before, access, after, split, bounded, unbounded, same⟩
    exact ⟨access, ⟨unbounded, before, after, split, bounded⟩, same⟩
  · rintro ⟨access, ⟨unbounded, before, after, split, bounded⟩, same⟩
    exact ⟨before, access, after, split, bounded, unbounded, same⟩

theorem exists_isFirstUnboundedLine_iff {facts : ClassFacts} :
    (∃ line, facts.IsFirstUnboundedLine line) ↔
      ∃ access ∈ facts.accesses, access.MayReachAnyName := by
  simp only [isFirstUnboundedLine_iff, ← Access.isUnbounded_iff]
  rw [← List.find?_isSome, Option.isSome_iff_exists]
  constructor
  · rintro ⟨line, access, found, -⟩
    exact ⟨access, found⟩
  · rintro ⟨access, found⟩
    exact ⟨access.line, access, found, rfl⟩

theorem privateProperties_ne_nil_iff {facts : ClassFacts} :
    facts.privateProperties ≠ [] ↔ ∃ declaration ∈ facts.properties, declaration.isPrivate := by
  simp [privateProperties]

end ClassFacts

theorem PropertyTable.correlate_of_isFirstUnboundedLine {facts : ClassFacts}
    {line : Option UInt32} (first : facts.IsFirstUnboundedLine line) (table : PropertyTable)
    (hierarchy : Hierarchy) : table.correlate facts hierarchy = (.abandoned line, table) := by
  obtain ⟨access, found, rfl⟩ := ClassFacts.isFirstUnboundedLine_iff.mp first
  rw [correlate_eq, found]

namespace Auditor

variable {auditor : Auditor} {hierarchy : Hierarchy} {facts : ClassFacts}

/-- The audit of a concrete class with a private property is abandoned exactly when some access may
reach any name, whatever the owners of the accesses are. It then keeps the line of the first of them
and is silent otherwise, and correlation hands back whatever table it was given. -/
theorem audit_abandons_exactly {scope : String} (inside : facts.scope = .inClass scope)
    (concrete : facts.kind = .concrete)
    (declared : ∃ declaration ∈ facts.properties, declaration.isPrivate) :
    ∃ audit, auditor.audit hierarchy facts = .ok audit ∧
      ((∃ line, audit.outcome = .abandoned line) ↔
        ∃ access ∈ facts.accesses, access.MayReachAnyName) ∧
      ∀ line, audit.outcome = .abandoned line →
        facts.IsFirstUnboundedLine line ∧
        (audit.verdicts = [] ∧ audit.diagnostics = [] ∧ audit.counts = .zero) ∧
        ∀ table : PropertyTable, table.correlate facts hierarchy = (.abandoned line, table) := by
  have some : facts.privateProperties ≠ [] := ClassFacts.privateProperties_ne_nil_iff.mpr declared
  refine ⟨_, audit_of_concrete inside concrete, ?_⟩
  rw [if_neg some, ← ClassFacts.exists_isFirstUnboundedLine_iff]
  cases found : facts.accesses.find? (·.isUnbounded) with
  | none =>
    have bounded : ¬∃ line, facts.IsFirstUnboundedLine line := by
      rintro ⟨line, first⟩
      obtain ⟨access, there, -⟩ := ClassFacts.isFirstUnboundedLine_iff.mp first
      rw [found] at there
      cases there
    have finished (line : Option UInt32) : AuditOutcome.analyzed ≠ .abandoned line := by rintro ⟨⟩
    exact ⟨iff_of_false (fun ⟨line, same⟩ => finished line same) bounded,
      fun line same => absurd same (finished line)⟩
  | some access =>
    have first : facts.IsFirstUnboundedLine access.line :=
      ClassFacts.isFirstUnboundedLine_iff.mpr ⟨access, found, rfl⟩
    refine ⟨iff_of_true ⟨access.line, rfl⟩ ⟨access.line, first⟩, ?_⟩
    intro line same
    obtain rfl := AuditOutcome.abandoned.inj same
    exact ⟨first, ⟨rfl, rfl, rfl⟩, fun table =>
      table.correlate_of_isFirstUnboundedLine first hierarchy⟩

/-- The write counts, and the owner of the access behind it is foreign; but a union in the type of the
computed name has an empty member, so that the class is abandoned and the write leaves no mark. -/
theorem audit_abandons_exactly_behind_write :
    let write : Access := ⟨.write, .literal "a", .classReference (some "self"), some 4⟩
    let unknown : Access := ⟨.read,
      .computed (.union [.literal "b", .union [.literal "a", .union []]]),
      .expression (.object "Bar"), some 7⟩
    let facts : ClassFacts := {
      name := "Foo", displayName? := none, kind := .concrete, scope := .inClass "Foo", file := none
      properties := [⟨"a", .isPrivate, false, false, false, none, [], 1⟩]
      accesses := [write, unknown, ⟨.read, .computed .null, .classReference none, some 9⟩]
      constructors := [], assignments := .empty }
    let auditor : Auditor := ⟨.default, [], .definiteAssignment⟩
    write.resolve (.ofEntries []) "Foo" = .applies [⟨"a", ⟨false, true⟩⟩] ∧
    unknown.MayReachAnyName ∧
    ∃ audit, auditor.audit (.ofEntries []) facts = .ok audit ∧
      audit.outcome = .abandoned (some 7) ∧ audit.diagnostics = [] ∧
      ((PropertyTable.ofClass .default [] facts).correlate facts (.ofEntries [])).2.records =
        [⟨⟨"a", .isPrivate, false, false, false, none, [], 1⟩, ⟨false, false⟩⟩] := by
  intro write unknown facts auditor
  have reaches : unknown.MayReachAnyName := Access.isUnbounded_iff.mp rfl
  obtain ⟨audit, done, abandons, silent⟩ :=
    @audit_abandons_exactly auditor (.ofEntries []) facts "Foo" rfl rfl
      ⟨_, List.mem_singleton_self _, rfl⟩
  obtain ⟨line, outcome⟩ := abandons.mpr ⟨unknown, .tail _ (.head _), reaches⟩
  obtain ⟨first, ⟨-, unreported, -⟩, untouched⟩ := silent line outcome
  obtain ⟨access, found, rfl⟩ := ClassFacts.isFirstUnboundedLine_iff.mp first
  have here : facts.accesses.find? (·.isUnbounded) = some unknown := rfl
  obtain rfl := Option.some.inj (here.symm.trans found)
  refine ⟨rfl, reaches, audit, done, outcome, unreported, ?_⟩
  rw [untouched]
  rfl

end Auditor
end PropertyAudit
