import PropertyAudit.Proofs.Access.Owners

/-! What the accesses of a class amount to, told without the order in which they are looked at. Only
the first access that may reach any name is singled out; apart from it every access contributes for
itself, and a record ends with the evidence found under its name. -/
namespace PropertyAudit

def Resolution.contributions : Resolution → List Contribution
  | .applies found => found
  | _ => []

def Resolution.isSkipped : Resolution → Bool
  | .skipped _ => true
  | _ => false

namespace Access

variable {hierarchy : Hierarchy} {name : String} {access : Access}

def isUnbounded (access : Access) : Bool := access.name.candidates.isEmpty

theorem isUnbounded_eq_false_iff : access.isUnbounded = false ↔ access.IsBounded := by
  simp [isUnbounded, IsBounded]

theorem isUnbounded_iff_resolve :
    access.isUnbounded ↔ access.resolve hierarchy name = .unbounded := by
  rw [resolve_eq_unbounded_iff, ← isUnbounded_eq_false_iff, Bool.not_eq_false]

theorem isUnbounded_eq_false_of_resolve {resolution : Resolution}
    (resolved : access.resolve hierarchy name = resolution) (other : resolution ≠ .unbounded) :
    access.isUnbounded = false := by
  rw [← Bool.not_eq_true, isUnbounded_iff_resolve, resolved]
  exact other

theorem contributions_of_counts (counts : access.Counts hierarchy name) :
    (access.resolve hierarchy name).contributions = access.evidence := by
  rw [counts.resolve]
  rfl

theorem contributions_of_not_counts (uncounted : ¬access.Counts hierarchy name) :
    (access.resolve hierarchy name).contributions = [] := by
  cases resolved : access.resolve hierarchy name with
  | applies found => exact absurd ⟨found, resolved⟩ uncounted
  | skipped reason => rfl
  | unbounded => rfl

/-- An access contributes evidence of its kind, and only for its candidates, if it counts. -/
theorem mem_contributions {contribution : Contribution} :
    contribution ∈ (access.resolve hierarchy name).contributions ↔
      access.Counts hierarchy name ∧ contribution.property ∈ access.name.candidates ∧
        contribution.usage = .ofKind access.kind := by
  by_cases counts : access.Counts hierarchy name
  · rw [contributions_of_counts counts, and_iff_right counts, evidence, List.mem_map]
    constructor
    · rintro ⟨candidate, among, rfl⟩
      exact ⟨among, rfl⟩
    · rintro ⟨among, kind⟩
      exact ⟨contribution.property, among, by rw [← kind]⟩
  · simp [contributions_of_not_counts counts, counts]

end Access

namespace ClassFacts

variable {hierarchy : Hierarchy} {name : String}

/-- The first access that may reach any name stops the collection, wherever it stands and whatever
its owner is. Without one each access contributes for itself. -/
theorem contributionsOf_eq (accesses : List Access) :
    contributionsOf hierarchy name accesses =
      match accesses.find? (·.isUnbounded) with
      | some access => .error access.line
      | none => .ok (accesses.flatMap fun access => (access.resolve hierarchy name).contributions,
          accesses.countP fun access => (access.resolve hierarchy name).isSkipped) := by
  induction accesses with
  | nil => rfl
  | cons access accesses ih =>
    rw [contributionsOf, List.find?_cons, List.flatMap_cons, List.countP_cons]
    cases resolved : access.resolve hierarchy name with
    | unbounded => rw [Access.isUnbounded_iff_resolve.mpr resolved]
    | skipped reason =>
      have bounded := Access.isUnbounded_eq_false_of_resolve resolved (by rintro ⟨⟩)
      rw [bounded, ih]
      cases accesses.find? (·.isUnbounded) <;> rfl
    | applies found =>
      have bounded := Access.isUnbounded_eq_false_of_resolve resolved (by rintro ⟨⟩)
      rw [bounded, ih]
      cases accesses.find? (·.isUnbounded) <;> rfl

end ClassFacts

end PropertyAudit
