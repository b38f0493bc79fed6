import PropertyAudit.Correlation
import PropertyAudit.Proofs.ValueType.Ownership

/-! When an access counts for a class. Its name has to be bounded and the type behind its owner,
null taken out, has to be proven an object of the class or of one below it. For owners that are
values the condition is exact; it fails for a union in which a member is a union of nothing but
null. -/
namespace PropertyAudit

/-- Of the parents of the class only the first matters to an owner. -/
theorem Owner.resolve_eq_head? (owner : Owner) (hierarchy : Hierarchy) (name : String) :
    owner.resolve hierarchy name =
      match owner with
      | .expression type => .ok type
      | .classReference none => .error .unresolvedReference
      | .classReference (some reference) =>
        if Text.equalsIgnoringCase reference "self" || Text.equalsIgnoringCase reference "static" then
          .ok (.object name)
        else if Text.equalsIgnoringCase reference "parent" then
          match (hierarchy.parentsOf name).head? with
          | some parent => .ok (.object parent)
          | none => .error .unresolvedReference
        else .ok (.object reference) := by
  unfold resolve
  cases hierarchy.parentsOf name <;> rfl

namespace Access

variable {hierarchy : Hierarchy} {entries : List Hierarchy.Entry} {name : String} {access : Access}

def IsBounded (access : Access) : Prop := access.name.candidates ≠ []

/-- Whether the owner comes to a type that is proven to hold objects of the class `name` or of
classes below it. -/
def HasProvenOwner (entries : List Hierarchy.Entry) (name : String) (access : Access) : Prop :=
  ∃ type, access.owner.resolve (.ofEntries entries) name = .ok type ∧ type.ProvenBelow entries name

def evidence (access : Access) : List Contribution :=
  access.name.candidates.map (⟨·, .ofKind access.kind⟩)

theorem resolve_of_bounded (bounded : access.IsBounded) :
    access.resolve hierarchy name =
      match access.owner.resolve hierarchy name with
      | .error reason => .skipped reason
      | .ok type =>
        if type.withoutNull.isMixed then .skipped .unknownOwner
        else if type.withoutNull.isBelow hierarchy name = .yes then .applies access.evidence
        else .skipped .foreignOwner := by
  unfold resolve
  split
  · next unbounded => exact absurd unbounded bounded
  · rfl

theorem resolve_eq_unbounded_iff :
    access.resolve hierarchy name = .unbounded ↔ ¬access.IsBounded := by
  by_cases bounded : access.IsBounded
  · refine iff_of_false ?_ (not_not_intro bounded)
    rw [resolve_of_bounded bounded]
    split
    · rintro ⟨⟩
    · split
      · rintro ⟨⟩
      · split <;> rintro ⟨⟩
  · refine iff_of_true ?_ bounded
    have none : access.name.candidates = [] := Classical.not_not.mp bounded
    simp only [resolve, none]

theorem resolve_eq_applies_iff {found : List Contribution} :
    access.resolve hierarchy name = .applies found ↔
      access.IsBounded ∧ found = access.evidence ∧
        ∃ type, access.owner.resolve hierarchy name = .ok type ∧
          type.withoutNull.isBelow hierarchy name = .yes := by
  by_cases bounded : access.IsBounded
  · rw [resolve_of_bounded bounded, and_iff_right bounded]
    cases access.owner.resolve hierarchy name with
    | error reason => simp
    | ok type =>
      by_cases proven : type.withoutNull.isBelow hierarchy name = .yes
      · simp [proven, ValueType.isMixed_eq_false_of_isBelow proven, eq_comm]
      · simp only [proven, if_false]
        split <;> simp [proven]
  · rw [resolve_eq_unbounded_iff.mpr bounded]
    simp [bounded]

def Counts (hierarchy : Hierarchy) (name : String) (access : Access) : Prop :=
  ∃ found, access.resolve hierarchy name = .applies found

theorem Counts.resolve (counts : access.Counts hierarchy name) :
    access.resolve hierarchy name = .applies access.evidence := by
  obtain ⟨found, applies⟩ := counts
  rw [applies, (resolve_eq_applies_iff.mp applies).2.1]

theorem Counts.hasProvenOwner (counts : access.Counts (.ofEntries entries) name) :
    access.HasProvenOwner entries name := by
  obtain ⟨_, applies⟩ := counts
  obtain ⟨_, _, type, resolved, proven⟩ := resolve_eq_applies_iff.mp applies
  exact ⟨type, resolved, ValueType.provenBelow_of_isBelow proven⟩

/-- A bounded access through a value whose leaves are null or objects below the class, not all null,
counts exactly when every union in the type of that value has a direct member that is not null; else
it passes for an access to a foreign class. -/
theorem counts_iff_unionsKeepMember {type : ValueType} (bounded : access.IsBounded)
    (owner : access.owner = .expression type)
    (inhabited : ∃ leaf ∈ type.leaves, leaf ≠ .null)
    (below : ∀ leaf ∈ type.leaves, leaf ≠ .null → leaf.IsObjectBelow entries name) :
    (access.resolve (.ofEntries entries) name = .applies access.evidence ↔ type.UnionsKeepMember) ∧
      (access.resolve (.ofEntries entries) name = .skipped .foreignOwner ↔
        ¬type.UnionsKeepMember) := by
  have present : type ≠ .null := by
    rintro rfl
    obtain ⟨leaf, atLeaf, someLeaf⟩ := inhabited
    exact someLeaf (List.mem_singleton.mp atLeaf)
  have known : type.withoutNull.isMixed = false := by
    rw [ValueType.isMixed_withoutNull, ← Bool.not_eq_true, ValueType.isMixed_iff]
    intro unknown
    obtain ⟨candidate, same, _⟩ := below .mixed unknown (by rintro ⟨⟩)
    cases same
  have proven : type.withoutNull.isBelow (.ofEntries entries) name = .yes ↔
      type.UnionsKeepMember := by
    rw [ValueType.isBelow_withoutNull]
    exact ⟨fun proven => proven.2.1, fun keep => ⟨present, keep, below⟩⟩
  rw [resolve_of_bounded bounded, owner, ← proven]
  by_cases yes : type.withoutNull.isBelow (.ofEntries entries) name = .yes <;>
    simp [Owner.resolve, known, yes]

/-- Null stands at two depths, each time beside an object of the subclass `Sub`. -/
theorem nullable_subclass_counts :
    let type : ValueType := .union [.union [.null, .object "Sub"], .null]
    (∃ leaf ∈ type.leaves, leaf ≠ .null) ∧ type.UnionsKeepMember ∧
      resolve ⟨.read, .literal "a", .expression type, none⟩ (.ofEntries [⟨"Sub", ["Foo"]⟩]) "Foo" =
        .applies [⟨"a", ⟨true, false⟩⟩] := by
  intro type
  have leaves : type.leaves = [.null, .object "Sub", .null] := rfl
  have inhabited : ∃ leaf ∈ type.leaves, leaf ≠ .null :=
    ⟨.object "Sub", by simp [leaves], by rintro ⟨⟩⟩
  have below : ∀ leaf ∈ type.leaves, leaf ≠ .null →
      leaf.IsObjectBelow [⟨"Sub", ["Foo"]⟩] "Foo" := by
    intro leaf atLeaf someLeaf
    have same : leaf = .object "Sub" := by simpa [leaves, someLeaf] using atLeaf
    exact ⟨"Sub", same, .single ⟨_, List.mem_singleton_self _, rfl, List.mem_singleton_self _⟩⟩
  have keep : type.UnionsKeepMember := by
    simp [type, ValueType.unionsKeepMember_union, ValueType.unionsKeepMember_of_no_union]
  have bounded : IsBounded ⟨.read, .literal "a", .expression type, none⟩ := by rintro ⟨⟩
  exact ⟨inhabited, keep, (counts_iff_unionsKeepMember bounded rfl inhabited below).1.mpr keep⟩

/-- A member that is a union of nothing but null is not looked past: of the leaves here the one that
is not null is an object of the class itself, and no union is empty, yet the access is foreign. -/
theorem union_of_null_makes_access_foreign :
    let type : ValueType := .union [.union [.null], .object "Foo"]
    (¬(ValueType.union []).StandsIn type) ∧ type.leaves = [.null, .object "Foo"] ∧
      IsBounded ⟨.read, .literal "a", .expression type, none⟩ ∧
      resolve ⟨.read, .literal "a", .expression type, none⟩ (.ofEntries []) "Foo" =
        .skipped .foreignOwner := by
  intro type
  refine ⟨?_, rfl, by rintro ⟨⟩, rfl⟩
  simp [type, ValueType.standsIn_union, ValueType.standsIn_of_no_union]

end Access
end PropertyAudit
