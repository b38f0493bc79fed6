import PropertyAudit.Proofs.Hierarchy.Chains
import PropertyAudit.Proofs.ValueType.Leaves

/-! When a type is proven to hold objects of one class, or of classes below it, and nothing else.
Null is looked past, except that a union of nothing but null leaves an empty union behind. -/
namespace PropertyAudit.ValueType

variable {hierarchy : Hierarchy} {entries : List Hierarchy.Entry} {name : String}

def IsObjectBelow (entries : List Hierarchy.Entry) (name : String) (type : ValueType) : Prop :=
  ∃ candidate, type = object candidate ∧ Hierarchy.Chain entries candidate name

/-- All leaves but null are objects of the class `name` or of classes below it, and there are some. -/
structure ProvenBelow (entries : List Hierarchy.Entry) (name : String) (type : ValueType) :
    Prop where
  known : mixed ∉ type.leaves
  inhabited : ∃ candidate, object candidate ∈ type.leaves
  below : ∀ leaf ∈ type.leaves, leaf ≠ null → leaf.IsObjectBelow entries name

/-- Every union in the type has a direct member that is not null. In particular none is empty. -/
def UnionsKeepMember (type : ValueType) : Prop :=
  ∀ members, (union members).StandsIn type → ∃ member ∈ members, member ≠ null

theorem isBelow_object : (object candidate).isBelow (.ofEntries entries) name = .yes ↔
    Hierarchy.Chain entries candidate name := by
  rw [isBelow]
  split
  · next same =>
    subst same
    exact iff_of_true rfl .refl
  · next different =>
    split
    · simp [Trinary.ofBool, ← Hierarchy.isSubclassOf_ofEntries]
    · next unknown =>
      refine iff_of_false (by simp) fun chain => ?_
      rcases chain.eq_or_contains with same | known
      · exact different same
      · exact unknown known

theorem areBelow_eq_some_iff {answer : Trinary} (definite : answer ≠ .maybe)
    {types : List ValueType} :
    areBelow hierarchy name types = some answer ↔
      types ≠ [] ∧ ∀ type ∈ types, type.isBelow hierarchy name = answer := by
  induction types with
  | nil => simp [areBelow]
  | cons type types ih =>
    rw [areBelow]
    split
    · next nothing =>
      cases types with
      | nil => simp
      | cons second types => simp [areBelow] at nothing; split at nothing <;> cases nothing
    · next found whole =>
      have others : found = answer ↔ ∀ type ∈ types, type.isBelow hierarchy name = answer := by
        rw [whole, Option.some.injEq] at ih
        rw [ih, and_iff_right]
        rintro rfl
        cases whole
      simp [others, Trinary.and_eq_iff definite]

theorem isBelow_union {members : List ValueType} :
    (union members).isBelow hierarchy name = .yes ↔
      members ≠ [] ∧ ∀ member ∈ members, member.isBelow hierarchy name = .yes := by
  rw [isBelow, ← areBelow_eq_some_iff (by decide)]
  cases areBelow hierarchy name members <;> simp

theorem isBelow_unionOf {members : List ValueType} :
    (unionOf members).isBelow hierarchy name = .yes ↔
      members ≠ [] ∧ ∀ member ∈ members, member.isBelow hierarchy name = .yes := by
  unfold unionOf
  split
  · simp
  · exact isBelow_union

/-- What is proven below a class has no unknown part. -/
theorem isMixed_eq_false_of_isBelow {type : ValueType}
    (proven : type.isBelow hierarchy name = .yes) : type.isMixed = false := by
  induction type with
  | union members ih =>
    rw [isMixed_union, List.any_eq_false]
    intro member among
    simp [ih member among ((isBelow_union.mp proven).2 member among)]
  | mixed => cases proven
  | _ => rfl

theorem unionsKeepMember_union {members : List ValueType} :
    (union members).UnionsKeepMember ↔
      (∃ member ∈ members, member ≠ null) ∧ ∀ member ∈ members, member.UnionsKeepMember :=
  eachUnion_union

theorem unionsKeepMember_of_no_union {type : ValueType}
    (plain : ∀ members, type ≠ union members) : type.UnionsKeepMember :=
  eachUnion_of_no_union plain

theorem unionsKeepMember_null : null.UnionsKeepMember :=
  unionsKeepMember_of_no_union (by rintro _ ⟨⟩)

/-- What the members of a union left after null come to. -/
theorem isBelow_withoutNull_union {members : List ValueType} :
    (union members).withoutNull.isBelow hierarchy name = .yes ↔
      (∃ member ∈ members, member ≠ null) ∧
        ∀ member ∈ members, member ≠ null → member.withoutNull.isBelow hierarchy name = .yes := by
  rw [withoutNull_union, isBelow_unionOf]
  apply and_congr
  · rw [Ne, List.map_eq_nil_iff, List.filter_eq_nil_iff]
    simp
  · simp only [List.forall_mem_map, List.mem_filter, Bool.not_eq_true', and_imp,
      ← Bool.not_eq_true, isNull_iff]

/-- The exact condition under which a type is proven once null is taken out of its unions. -/
theorem isBelow_withoutNull {type : ValueType} :
    type.withoutNull.isBelow (.ofEntries entries) name = .yes ↔
      type ≠ null ∧ type.UnionsKeepMember ∧
        ∀ leaf ∈ type.leaves, leaf ≠ null → leaf.IsObjectBelow entries name := by
  induction type with
  | object candidate =>
    have plain : (object candidate).UnionsKeepMember :=
      unionsKeepMember_of_no_union (by rintro _ ⟨⟩)
    simp [withoutNull, isBelow_object, leaves, IsObjectBelow, plain]
  | union members ih =>
    rw [isBelow_withoutNull_union, unionsKeepMember_union, leaves_union]
    constructor
    · rintro ⟨some, proven⟩
      have each (member) (among : member ∈ members) (present : member ≠ null) :=
        (ih member among).mp (proven member among present)
      refine ⟨by rintro ⟨⟩, ⟨some, fun member among => ?_⟩, fun leaf atLeaf present => ?_⟩
      · by_cases absent : member = null
        · exact absent ▸ unionsKeepMember_null
        · exact (each member among absent).2.1
      · obtain ⟨member, among, atLeaf⟩ := List.mem_flatMap.mp atLeaf
        by_cases absent : member = null
        · subst absent
          exact absurd (List.mem_singleton.mp atLeaf) present
        · exact (each member among absent).2.2 leaf atLeaf present
    · rintro ⟨-, ⟨some, keep⟩, below⟩
      refine ⟨some, fun member among present => (ih member among).mpr ⟨present, keep member among, ?_⟩⟩
      intro leaf atLeaf
      exact below leaf (List.mem_flatMap.mpr ⟨member, among, atLeaf⟩)
  | _ => simp [withoutNull, isBelow, leaves, IsObjectBelow]

/-- A type that keeps a member in each union comes down to a leaf that is not null. -/
theorem exists_leaf_of_unionsKeepMember {type : ValueType} (present : type ≠ null)
    (keep : type.UnionsKeepMember) : ∃ leaf ∈ type.leaves, leaf ≠ null := by
  induction type with
  | union members ih =>
    obtain ⟨⟨member, among, someMember⟩, inMembers⟩ := unionsKeepMember_union.mp keep
    obtain ⟨leaf, atLeaf, someLeaf⟩ := ih member among someMember (inMembers member among)
    refine ⟨leaf, ?_, someLeaf⟩
    rw [leaves_union]
    exact List.mem_flatMap.mpr ⟨member, among, atLeaf⟩
  | _ => exact ⟨_, List.mem_singleton_self _, present⟩

theorem provenBelow_of_isBelow {type : ValueType}
    (proven : type.withoutNull.isBelow (.ofEntries entries) name = .yes) :
    type.ProvenBelow entries name := by
  obtain ⟨present, keep, below⟩ := isBelow_withoutNull.mp proven
  refine ⟨fun unknown => ?_, ?_, below⟩
  · obtain ⟨candidate, same, _⟩ := below mixed unknown (by rintro ⟨⟩)
    cases same
  · obtain ⟨leaf, atLeaf, someLeaf⟩ := exists_leaf_of_unionsKeepMember present keep
    obtain ⟨candidate, rfl, _⟩ := below leaf atLeaf someLeaf
    exact ⟨candidate, atLeaf⟩

end PropertyAudit.ValueType
