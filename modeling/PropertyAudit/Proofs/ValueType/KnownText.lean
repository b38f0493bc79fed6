import PropertyAudit.Proofs.ValueType.Leaves

/-! Text of known value. A type gives the values at its leaves only where all of them are such text
and no union in it is empty. Otherwise it gives none, as it may be any text. -/
namespace PropertyAudit.ValueType

/-- An empty union stands in the type at some depth, or a leaf is not text of known value. -/
def IsUnbounded (type : ValueType) : Prop :=
  (union []).StandsIn type ∨ ∃ leaf ∈ type.leaves, ∀ value, leaf ≠ literal value

theorem literalsOfAll_eq (types : List ValueType) :
    literalsOfAll types =
      if types.any (·.literals.isEmpty) then none else some (types.flatMap literals) := by
  induction types with
  | nil => rfl
  | cons type types ih =>
    rw [literalsOfAll]
    split
    · next unknown => simp [unknown]
    · next known =>
      have given : type.literals.isEmpty = false := by simpa using known
      rw [ih, List.any_cons, given, Bool.false_or, List.flatMap_cons]
      split <;> rfl

/-- One member without values takes the values of all others away. -/
theorem literals_union (members : List ValueType) :
    (union members).literals =
      if members.any (·.literals.isEmpty) then [] else members.flatMap literals := by
  rw [literals, literalsOfAll_eq]
  split <;> rfl

theorem literals_union_eq_nil_iff {members : List ValueType} :
    (union members).literals = [] ↔ members = [] ∨ ∃ member ∈ members, member.literals = [] := by
  rw [literals_union]
  split
  · next unknown =>
    have lacking : ∃ member ∈ members, member.literals = [] := by simpa using unknown
    exact iff_of_true rfl (.inr lacking)
  · next known =>
    have given : ∀ member ∈ members, member.literals ≠ [] := by simpa using known
    rw [List.flatMap_eq_nil_iff]
    constructor
    · intro nothing
      exact .inl (List.eq_nil_iff_forall_not_mem.mpr fun member among =>
        given member among (nothing member among))
    · rintro (rfl | ⟨member, among, unknown⟩)
      · simp
      · exact absurd unknown (given member among)

theorem isUnbounded_union {members : List ValueType} :
    (union members).IsUnbounded ↔ members = [] ∨ ∃ member ∈ members, member.IsUnbounded := by
  have here : union [] = union members ↔ members = [] := by simp [eq_comm]
  simp only [IsUnbounded, standsIn_union, leaves_union, List.mem_flatMap, here]
  constructor
  · rintro ((nothing | ⟨member, among, stands⟩) | ⟨leaf, ⟨member, among, atLeaf⟩, other⟩)
    · exact .inl nothing
    · exact .inr ⟨member, among, .inl stands⟩
    · exact .inr ⟨member, among, .inr ⟨leaf, atLeaf, other⟩⟩
  · rintro (nothing | ⟨member, among, stands | ⟨leaf, atLeaf, other⟩⟩)
    · exact .inl (.inl nothing)
    · exact .inl (.inr ⟨member, among, stands⟩)
    · exact .inr ⟨leaf, ⟨member, among, atLeaf⟩, other⟩

theorem isUnbounded_of_no_union {type : ValueType} (plain : ∀ members, type ≠ union members) :
    type.IsUnbounded ↔ ∀ value, type ≠ literal value := by
  rw [IsUnbounded, standsIn_of_no_union plain, leaves_of_no_union plain]
  simp [Ne.symm (plain [])]

theorem literals_eq_nil_iff {type : ValueType} : type.literals = [] ↔ type.IsUnbounded := by
  induction type with
  | union members ih =>
    rw [literals_union_eq_nil_iff, isUnbounded_union]
    apply or_congr_right
    apply exists_congr
    intro member
    exact and_congr_right (ih member)
  | _ => rw [isUnbounded_of_no_union (by rintro _ ⟨⟩)]; simp [literals]

end PropertyAudit.ValueType
