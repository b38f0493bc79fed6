import PropertyAudit.Proofs.ValueType.Ownership

/-! Whether a type is below a class is what its leaves agree on, and open where they do not agree. A union
without members counts as a leaf and answers no. Where there is no such union, the answer depends on which
leaves there are and on nothing else: not on their order, their number or the unions they stand in. -/
namespace PropertyAudit

theorem Trinary.eq_of_definite {a b : Trinary}
    (same : ∀ answer, answer ≠ .maybe → (a = answer ↔ b = answer)) : a = b := by
  have yes := same .yes (by decide)
  have no := same .no (by decide)
  cases a <;> cases b <;> simp_all

theorem Trinary.eq_maybe_iff {a : Trinary} : a = .maybe ↔ a ≠ .yes ∧ a ≠ .no := by
  cases a <;> decide

namespace ValueType

/-- No member stands in the type: it is no union, or an empty one. -/
def IsLeaf (type : ValueType) : Prop := ∀ members, type = union members → members = []

def EachLeaf (holds : ValueType → Prop) (type : ValueType) : Prop :=
  ∀ leaf, leaf.StandsIn type → leaf.IsLeaf → holds leaf

/-- The second type arises from the first when unions are reordered, grouped and ungrouped and members
are repeated and taken together again, at any depth. -/
inductive Regrouped : ValueType → ValueType → Prop where
  | refl : Regrouped type type
  | symm : Regrouped type other → Regrouped other type
  | trans : Regrouped type middle → Regrouped middle other → Regrouped type other
  | reorder : members.Perm others → Regrouped (union members) (union others)
  | duplicate : member ∈ members → Regrouped (union members) (union (member :: members))
  | ungroup : Regrouped (union (union nested :: others)) (union (nested ++ others))
  | alone : Regrouped (union [member]) member
  | inside : Regrouped member new → Regrouped (union (member :: others)) (union (new :: others))

variable {hierarchy : Hierarchy} {name : String} {answer : Trinary} {type other leaf : ValueType}
  {members : List ValueType}

theorem standsIn_of_isLeaf (isLeaf : type.IsLeaf) : leaf.StandsIn type ↔ leaf = type := by
  cases type with
  | union members =>
    obtain rfl := isLeaf members rfl
    simp [standsIn_union]
  | _ => exact standsIn_of_no_union (by rintro _ ⟨⟩)

theorem isBelow_union_eq_iff (definite : answer ≠ .maybe) (inhabited : members ≠ []) :
    (union members).isBelow hierarchy name = answer ↔
      ∀ member ∈ members, member.isBelow hierarchy name = answer := by
  have whole : areBelow hierarchy name members = .some answer ↔
      ∀ member ∈ members, member.isBelow hierarchy name = answer := by
    rw [areBelow_eq_some_iff definite, and_iff_right inhabited]
  rw [isBelow, ← whole]
  cases found : areBelow hierarchy name members with
  | none => cases members with
    | nil => exact absurd rfl inhabited
    | cons first rest => rw [areBelow] at found; split at found <;> cases found
  | some answer => simp

theorem isBelow_eq_iff (definite : answer ≠ .maybe) :
    type.isBelow hierarchy name = answer ↔
      type.EachLeaf fun leaf => leaf.isBelow hierarchy name = answer := by
  have atLeaf {type : ValueType} (isLeaf : type.IsLeaf) :
      type.isBelow hierarchy name = answer ↔
        type.EachLeaf fun leaf => leaf.isBelow hierarchy name = answer := by
    simp [EachLeaf, standsIn_of_isLeaf isLeaf, isLeaf]
  induction type with
  | union members ih =>
    by_cases empty : members = []
    · exact atLeaf (by rintro _ ⟨⟩; exact empty)
    · rw [isBelow_union_eq_iff definite empty]
      constructor
      · intro each leaf stands isLeaf
        rcases standsIn_union.mp stands with rfl | ⟨member, among, stands⟩
        · exact absurd (isLeaf members rfl) empty
        · exact (ih member among).mp (each member among) leaf stands isLeaf
      · intro each member among
        refine (ih member among).mpr fun leaf stands isLeaf => ?_
        exact each leaf (.member among stands) isLeaf
  | _ => exact atLeaf (by rintro _ ⟨⟩)

/-- What is no union stands in a union if it stands in a member. -/
theorem standsIn_union_of_plain (plain : ∀ members, leaf ≠ union members) :
    leaf.StandsIn (union members) ↔ ∃ member ∈ members, leaf.StandsIn member := by
  rw [standsIn_union, or_iff_right (plain members)]

theorem standsIn_union_cons (plain : ∀ members, leaf ≠ union members) (first : ValueType)
    (members : List ValueType) :
    leaf.StandsIn (union (first :: members)) ↔ leaf.StandsIn first ∨ leaf.StandsIn (union members) := by
  simp only [standsIn_union_of_plain plain, List.mem_cons, or_and_right, exists_or, exists_eq_left]

theorem Regrouped.standsIn_iff (regrouped : Regrouped type other)
    (plain : ∀ members, leaf ≠ union members) : leaf.StandsIn type ↔ leaf.StandsIn other := by
  induction regrouped with
  | refl => rfl
  | symm _ ih => exact ih.symm
  | trans _ _ first second => exact first.trans second
  | reorder perm => simp only [standsIn_union_of_plain plain, perm.mem_iff]
  | duplicate among =>
    rw [standsIn_union_cons plain]
    refine (or_iff_right_of_imp fun stands => ?_).symm
    exact .member among stands
  | ungroup =>
    simp only [standsIn_union_of_plain plain, List.mem_cons, List.mem_append, or_and_right, exists_or,
      exists_eq_left]
  | alone => simp [standsIn_union_of_plain plain]
  | inside _ ih => rw [standsIn_union_cons plain, standsIn_union_cons plain, ih]

/-- Without empty unions all leaves are plain, so the same plain leaves give the same answers. -/
theorem eachLeaf_congr {holds : ValueType → Prop}
    (same : ∀ leaf, (∀ members, leaf ≠ union members) → (leaf.StandsIn type ↔ leaf.StandsIn other))
    (full : ¬(union []).StandsIn type) (otherFull : ¬(union []).StandsIn other) :
    type.EachLeaf holds ↔ other.EachLeaf holds := by
  have plain {whole leaf : ValueType} (full : ¬(union []).StandsIn whole)
      (stands : leaf.StandsIn whole) (isLeaf : leaf.IsLeaf) (members : List ValueType) :
      leaf ≠ union members := by
    rintro rfl
    obtain rfl := isLeaf members rfl
    exact full stands
  constructor
  · intro each leaf stands isLeaf
    exact each leaf ((same leaf (plain otherFull stands isLeaf)).mpr stands) isLeaf
  · intro each leaf stands isLeaf
    exact each leaf ((same leaf (plain full stands isLeaf)).mp stands) isLeaf

theorem Regrouped.isBelow_eq (regrouped : Regrouped type other) (full : ¬(union []).StandsIn type)
    (otherFull : ¬(union []).StandsIn other) :
    type.isBelow hierarchy name = other.isBelow hierarchy name := by
  refine Trinary.eq_of_definite fun answer definite => ?_
  rw [isBelow_eq_iff definite, isBelow_eq_iff definite]
  exact eachLeaf_congr (fun leaf plain => regrouped.standsIn_iff plain) full otherFull

/-- A class takes a type in if it takes in all leaves of it, and keeps it out if it keeps out all of them;
otherwise the answer is open. So regrouping does not change the answer unless it leaves out, or brings in,
a union without members. -/
theorem isSupertypeOf_by_leaves (name : String) (hierarchy : Hierarchy) :
    let answer (type : ValueType) := (object name).isSupertypeOf type hierarchy
    (∀ type,
      (answer type = .yes ↔ type.EachLeaf (answer · = .yes)) ∧
      (answer type = .no ↔ type.EachLeaf (answer · = .no)) ∧
      (answer type = .maybe ↔
        ¬type.EachLeaf (answer · = .yes) ∧ ¬type.EachLeaf (answer · = .no))) ∧
    answer (union []) = .no ∧
    ∀ type other, Regrouped type other → ¬(union []).StandsIn type → ¬(union []).StandsIn other →
      answer type = answer other := by
  intro answer
  have yes (type) : answer type = .yes ↔ type.EachLeaf (answer · = .yes) := isBelow_eq_iff (by decide)
  have no (type) : answer type = .no ↔ type.EachLeaf (answer · = .no) := isBelow_eq_iff (by decide)
  refine ⟨fun type => ⟨yes type, no type, ?_⟩, rfl, ?_⟩
  · rw [Trinary.eq_maybe_iff, Ne, Ne, yes, no]
  · intro type other regrouped full otherFull
    exact regrouped.isBelow_eq full otherFull

/-- Members change places, one is repeated, and an inner union is opened; of the three leaves one is of a
class that nothing is known of. -/
theorem isSupertypeOf_by_leaves_regrouped :
    let hierarchy : Hierarchy := .ofEntries [⟨"Sub", ["Base"]⟩]
    let type := union [object "Base", union [object "Sub", object "Elsewhere"]]
    let other := union [object "Sub", object "Elsewhere", object "Base", object "Base"]
    Regrouped type other ∧ ¬(union []).StandsIn type ∧ ¬(union []).StandsIn other ∧
      (object "Base").isSupertypeOf other hierarchy = .maybe ∧
      (object "Base").isSupertypeOf type hierarchy = (object "Base").isSupertypeOf other hierarchy := by
  intro hierarchy type other
  have regrouped : Regrouped type other := by
    let flat := [object "Sub", object "Elsewhere", object "Base"]
    have swapped : Regrouped type (union [union [object "Sub", object "Elsewhere"], object "Base"]) :=
      .reorder (.swap _ _ [])
    have again : Regrouped (union flat) (union (object "Base" :: flat)) := .duplicate (by simp [flat])
    have ordered : Regrouped (union (object "Base" :: flat)) other :=
      .reorder (.trans (.swap _ _ _) (.cons _ (.swap _ _ _)))
    exact swapped.trans (.trans .ungroup (again.trans ordered))
  have full : ¬(union []).StandsIn type := by simp [type, standsIn_union, standsIn_of_no_union]
  have otherFull : ¬(union []).StandsIn other := by simp [other, standsIn_union, standsIn_of_no_union]
  refine ⟨regrouped, full, otherFull, by decide, ?_⟩
  exact (isSupertypeOf_by_leaves "Base" hierarchy).2.2 type other regrouped full otherFull

end ValueType
end PropertyAudit
