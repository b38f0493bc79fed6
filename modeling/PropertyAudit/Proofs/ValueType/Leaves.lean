import PropertyAudit.ValueType

/-! Types seen through their unions: what stands in them at any depth and the leaves they come down
to. The functions on lists of members, which recursion needs, are the usual ones on lists. -/
namespace PropertyAudit.ValueType

/-- Induction where a union may assume the claim for each of its members. -/
@[elab_as_elim, induction_eliminator]
theorem inductMembers {motive : ValueType → Prop} (mixed : motive .mixed) (null : motive .null)
    (string : motive .string) (literal : ∀ value, motive (.literal value))
    (object : ∀ name, motive (.object name))
    (union : ∀ members, (∀ member ∈ members, motive member) → motive (.union members)) :
    ∀ type, motive type
  | .mixed => mixed
  | .null => null
  | .string => string
  | .literal value => literal value
  | .object name => object name
  | .union members => union members fun member _ =>
    inductMembers mixed null string literal object union member

/-- Whether `part` is the type itself or stands in it, through any nesting of unions. -/
inductive StandsIn (part : ValueType) : ValueType → Prop where
  | self : StandsIn part part
  | member : type ∈ members → StandsIn part type → StandsIn part (union members)

mutual
def leaves : ValueType → List ValueType
  | union members => leavesOfAll members
  | type => [type]

def leavesOfAll : List ValueType → List ValueType
  | [] => []
  | type :: types => type.leaves ++ leavesOfAll types
end

theorem standsIn_union {part : ValueType} {members : List ValueType} :
    part.StandsIn (union members) ↔
      part = union members ∨ ∃ member ∈ members, part.StandsIn member := by
  constructor
  · intro stands
    cases stands with
    | self => exact .inl rfl
    | member among stands => exact .inr ⟨_, among, stands⟩
  · rintro (rfl | ⟨member, among, stands⟩)
    · exact .self
    · exact .member among stands

theorem standsIn_of_no_union {part type : ValueType} (plain : ∀ members, type ≠ union members) :
    part.StandsIn type ↔ part = type := by
  constructor
  · intro stands
    cases stands with
    | self => rfl
    | member => exact absurd rfl (plain _)
  · rintro rfl
    exact .self

def EachUnion (holds : List ValueType → Prop) (type : ValueType) : Prop :=
  ∀ members, (union members).StandsIn type → holds members

theorem eachUnion_union {holds : List ValueType → Prop} {members : List ValueType} :
    (union members).EachUnion holds ↔ holds members ∧ ∀ member ∈ members, member.EachUnion holds := by
  constructor
  · intro each
    refine ⟨each members .self, fun member among inner stands => ?_⟩
    exact each inner (.member among stands)
  · rintro ⟨here, below⟩ inner stands
    rcases standsIn_union.mp stands with same | ⟨member, among, stands⟩
    · obtain rfl := union.inj same
      exact here
    · exact below member among inner stands

theorem eachUnion_of_no_union {holds : List ValueType → Prop} {type : ValueType}
    (plain : ∀ members, type ≠ union members) : type.EachUnion holds := by
  intro members stands
  exact absurd ((standsIn_of_no_union plain).mp stands).symm (plain members)

theorem leavesOfAll_eq (types : List ValueType) : leavesOfAll types = types.flatMap leaves := by
  induction types with
  | nil => rfl
  | cons type types ih => rw [leavesOfAll, ih, List.flatMap_cons]

@[simp] theorem leaves_union (members : List ValueType) :
    (union members).leaves = members.flatMap leaves := leavesOfAll_eq members

theorem leaves_of_no_union {type : ValueType} (plain : ∀ members, type ≠ union members) :
    type.leaves = [type] := by
  cases type with
  | union members => exact absurd rfl (plain members)
  | _ => rfl

theorem mem_leaves_iff {leaf type : ValueType} :
    leaf ∈ type.leaves ↔ leaf.StandsIn type ∧ ∀ members, leaf ≠ union members := by
  induction type with
  | union members ih =>
    rw [leaves_union, List.mem_flatMap, standsIn_union]
    constructor
    · rintro ⟨member, among, atLeaf⟩
      obtain ⟨stands, plain⟩ := (ih member among).mp atLeaf
      exact ⟨.inr ⟨member, among, stands⟩, plain⟩
    · rintro ⟨whole | ⟨member, among, stands⟩, plain⟩
      · exact absurd whole (plain members)
      · exact ⟨member, among, (ih member among).mpr ⟨stands, plain⟩⟩
  | _ =>
    rw [standsIn_of_no_union (by rintro _ ⟨⟩), leaves_of_no_union (by rintro _ ⟨⟩), List.mem_singleton]
    refine (and_iff_left_of_imp ?_).symm
    rintro rfl members ⟨⟩

theorem anyMixed_eq (types : List ValueType) : anyMixed types = types.any isMixed := by
  induction types with
  | nil => rfl
  | cons type types ih => rw [anyMixed, ih, List.any_cons]

@[simp] theorem isMixed_union (members : List ValueType) :
    (union members).isMixed = members.any isMixed := by
  rw [isMixed, anyMixed_eq]

theorem membersWithoutNull_eq (types : List ValueType) :
    membersWithoutNull types = (types.filter (!·.isNull)).map withoutNull := by
  induction types with
  | nil => rfl
  | cons type types ih => cases null : type.isNull <;> simp [membersWithoutNull, null, ih]

@[simp] theorem withoutNull_union (members : List ValueType) :
    (union members).withoutNull = unionOf ((members.filter (!·.isNull)).map withoutNull) := by
  rw [withoutNull, membersWithoutNull_eq]

theorem isMixed_unionOf (members : List ValueType) :
    (unionOf members).isMixed = members.any isMixed := by
  unfold unionOf
  split
  · simp
  · exact isMixed_union _

@[simp] theorem isNull_iff {type : ValueType} : type.isNull ↔ type = null := by
  cases type <;> simp [isNull]

theorem isMixed_iff {type : ValueType} : type.isMixed ↔ mixed ∈ type.leaves := by
  induction type with
  | union members ih =>
    rw [isMixed_union, leaves_union, List.any_eq_true, List.mem_flatMap]
    constructor
    · rintro ⟨member, among, unknown⟩
      exact ⟨member, among, (ih member among).mp unknown⟩
    · rintro ⟨member, among, unknown⟩
      exact ⟨member, among, (ih member among).mpr unknown⟩
  | _ => simp [isMixed, leaves]

theorem mixed_standsIn_iff {type : ValueType} : mixed.StandsIn type ↔ type.isMixed := by
  rw [isMixed_iff, mem_leaves_iff, and_iff_left (by rintro _ ⟨⟩)]

/-- Null takes nothing unknown away with it. -/
theorem isMixed_withoutNull (type : ValueType) : type.withoutNull.isMixed = type.isMixed := by
  induction type with
  | union members ih =>
    have each (member) (among : member ∈ members) :
        (!member.isNull && (isMixed ∘ withoutNull) member) = member.isMixed := by
      cases null : member.isNull with
      | true => rw [isNull_iff.mp null]; rfl
      | false => exact ih member among
    rw [withoutNull_union, isMixed_unionOf, isMixed_union, List.any_map, List.any_filter,
      Bool.eq_iff_iff, List.any_eq_true, List.any_eq_true]
    constructor
    · rintro ⟨member, among, unknown⟩
      exact ⟨member, among, each member among ▸ unknown⟩
    · rintro ⟨member, among, unknown⟩
      exact ⟨member, among, (each member among).symm ▸ unknown⟩
  | _ => rfl

end PropertyAudit.ValueType
