import Mathlib.Data.List.Basic
import PropertyAudit.Proofs.Members
import PropertyAudit.Proofs.ValueType.Edits

/-! Types with null taken out of their unions. What is left is reduced: no union in it lists null or has a
single member. Reduced types have nothing to take out, so to take null out again changes nothing. All other
leaves stay in their order, and it is not seen where in a union null had been. -/
namespace PropertyAudit.ValueType

/-- No union in the type, at any depth, has null as a member or has just one member. -/
def IsReduced (type : ValueType) : Prop :=
  type.EachUnion fun members => null ∉ members ∧ members.length ≠ 1

variable {type other : ValueType} {members : List ValueType}

theorem unionOf_eq_union (several : members.length ≠ 1) : unionOf members = union members := by
  unfold unionOf
  split
  · exact absurd rfl several
  · rfl

theorem unionOf_eq_null_iff : unionOf members = null ↔ members = [null] := by
  unfold unionOf
  split
  · simp
  · next several =>
    refine iff_of_false (by rintro ⟨⟩) ?_
    rintro rfl
    exact several null rfl

theorem isReduced_unionOf (present : null ∉ members) (reduced : ∀ member ∈ members, member.IsReduced) :
    (unionOf members).IsReduced := by
  by_cases several : members.length = 1
  · obtain ⟨only, rfl⟩ := List.length_eq_one_iff.mp several
    exact reduced only (List.mem_singleton_self only)
  · rw [unionOf_eq_union several]
    exact eachUnion_union.mpr ⟨⟨present, several⟩, reduced⟩

@[simp] theorem leaves_unionOf (members : List ValueType) :
    (unionOf members).leaves = members.flatMap leaves := by
  unfold unionOf
  split <;> simp

/-- Null comes from nothing but null, and such members are not kept. -/
theorem null_not_mem_kept (onlyNull : ∀ member ∈ members, member.withoutNull = null → member = null) :
    null ∉ (members.filter (!·.isNull)).map withoutNull := by
  intro left
  obtain ⟨member, kept, gone⟩ := List.mem_map.mp left
  obtain ⟨among, present⟩ := List.mem_filter.mp kept
  simp [onlyNull member among gone, isNull] at present

theorem withoutNull_eq_null_iff : type.withoutNull = null ↔ type = null := by
  induction type with
  | union members ih =>
    have present := null_not_mem_kept fun member among => (ih member among).mp
    rw [withoutNull_union, unionOf_eq_null_iff]
    refine iff_of_false (fun alone => present ?_) (by rintro ⟨⟩)
    rw [alone]
    exact List.mem_singleton_self null
  | _ => rfl

theorem isReduced_withoutNull (type : ValueType) : type.withoutNull.IsReduced := by
  induction type with
  | union members ih =>
    rw [withoutNull_union]
    have present := null_not_mem_kept fun member (_ : member ∈ members) => withoutNull_eq_null_iff.mp
    refine isReduced_unionOf present fun member kept => ?_
    obtain ⟨former, left, rfl⟩ := List.mem_map.mp kept
    exact ih former (List.mem_filter.mp left).1
  | _ => exact eachUnion_of_no_union (by rintro _ ⟨⟩)

/-- In a reduced type there is nothing to take out. -/
theorem withoutNull_of_isReduced (reduced : type.IsReduced) : type.withoutNull = type := by
  induction type with
  | union members ih =>
    obtain ⟨⟨present, several⟩, below⟩ := eachUnion_union.mp reduced
    have allKept : members.filter (!·.isNull) = members := by
      rw [List.filter_eq_self]
      intro member among
      rw [Bool.not_eq_true', ← Bool.not_eq_true, isNull_iff]
      rintro rfl
      exact present among
    have unchanged : members.map withoutNull = members.map id :=
      List.map_congr_left fun member among => ih member among (below member among)
    rw [withoutNull_union, allKept, unchanged, List.map_id, unionOf_eq_union several]
  | _ => rfl

/-- The leaves apart from null are the same, one by one. -/
theorem filter_leaves_withoutNull (type : ValueType) :
    type.withoutNull.leaves.filter (!·.isNull) = type.leaves.filter (!·.isNull) := by
  induction type with
  | union members ih =>
    let others (member : ValueType) := member.leaves.filter (!·.isNull)
    have nothing (member : ValueType) (dropped : (!member.isNull) = false) : others member = [] := by
      simp only [Bool.not_eq_false', isNull_iff] at dropped
      rw [dropped]
      rfl
    calc (union members).withoutNull.leaves.filter (!·.isNull)
      _ = (members.filter (!·.isNull)).flatMap fun member => others member.withoutNull := by
        rw [withoutNull_union, leaves_unionOf, List.flatMap_map, List.filter_flatMap]
      _ = (members.filter (!·.isNull)).flatMap others :=
        List.flatMap_congr fun member kept => ih member (List.mem_filter.mp kept).1
      _ = members.flatMap others := ((Interspersed.of_filter _ members).flatMap_eq nothing).symm
      _ = (union members).leaves.filter (!·.isNull) := by rw [leaves_union, List.filter_flatMap]
  | _ => rfl

/-- Null put in at one place is taken out again there, and the unions around it do not notice. -/
theorem Edited.withoutNull_eq (edited : Edited (Inserted null) type other) :
    other.withoutNull = type.withoutNull := by
  induction edited with
  | here inserted =>
    obtain ⟨before, after⟩ := inserted
    simp [isNull]
  | inside before after edited ih =>
    obtain ⟨present, alsoPresent⟩ := edited.isNull_eq_false
    simp [present, alsoPresent, ih]

/-- Null removal can be repeated without effect, gives null only for null, and leaves a reduced type with
the other leaves in their order; mixed stays or stays away. It looks past null at every depth: types that
arise from one another as null is put in or taken out as a member of unions come to the same type. -/
theorem withoutNull_reduces (type : ValueType) :
    type.withoutNull.withoutNull = type.withoutNull ∧
    (type.withoutNull = null ↔ type = null) ∧
    type.withoutNull.IsReduced ∧
    type.withoutNull.leaves.filter (!·.isNull) = type.leaves.filter (!·.isNull) ∧
    (mixed.StandsIn type.withoutNull ↔ mixed.StandsIn type) ∧
    type.withoutNull.isMixed = type.isMixed ∧
    ∀ other, Relation.EqvGen (Edited (Inserted null)) type other →
      other.withoutNull = type.withoutNull := by
  have reduced := type.isReduced_withoutNull
  refine ⟨withoutNull_of_isReduced reduced, withoutNull_eq_null_iff, reduced,
    type.filter_leaves_withoutNull, ?_, type.isMixed_withoutNull, fun other varied => ?_⟩
  · rw [mixed_standsIn_iff, mixed_standsIn_iff, isMixed_withoutNull]
  · exact eq_of_eqvGen (fun _ _ => Edited.withoutNull_eq) varied

/-- Null is put in beside an object and taken out of the union around it. The inner union comes down to the
object; the one of nothing but null stays, without members. -/
theorem withoutNull_reduces_at_two_depths :
    let type := union [union [object "A"], null, union [null], literal "b"]
    let other := union [union [object "A", null], union [null], literal "b"]
    Relation.EqvGen (Edited (Inserted null)) type other ∧
      other.withoutNull = union [object "A", union [], literal "b"] ∧
      type.withoutNull = other.withoutNull := by
  intro type other
  let bare := union [union [object "A"], union [null], literal "b"]
  have outer : Edited (Inserted null) bare type := .here (.between [_] [_, _])
  have inner : Edited (Inserted null) bare other := .inside [] [_, _] (.here (.between [_] []))
  have varied : Relation.EqvGen (Edited (Inserted null)) type other :=
    .trans _ _ _ (.symm _ _ (.rel _ _ outer)) (.rel _ _ inner)
  obtain ⟨-, -, -, -, -, -, same⟩ := withoutNull_reduces type
  exact ⟨varied, rfl, (same other varied).symm⟩

end PropertyAudit.ValueType
