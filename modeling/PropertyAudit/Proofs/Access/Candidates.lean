import Mathlib.Data.List.Basic
import PropertyAudit.Access
import PropertyAudit.Proofs.ValueType.Edits
import PropertyAudit.Proofs.ValueType.KnownText

/-! The names that a computed name may stand for. They are the values at the leaves of its type, one by one,
provided that each leaf is text of known value and no union is empty; else there are none. So they are no
matter of how members are grouped, and one leaf of another kind takes them all away. -/
namespace PropertyAudit

namespace ValueType

variable {type other leaf : ValueType}

theorem bounded_iff :
    type.literals ≠ [] ↔
      (∀ leaf ∈ type.leaves, ∃ value, leaf = literal value) ∧ ¬(union []).StandsIn type := by
  rw [Ne, literals_eq_nil_iff, IsUnbounded, not_or, and_comm]
  simp only [not_exists, not_and, Classical.not_forall, Classical.not_not]

/-- Where there are values, there is one for each leaf, also if it is repeated or empty. -/
theorem map_literals (bounded : type.literals ≠ []) : type.literals.map literal = type.leaves := by
  induction type with
  | union members ih =>
    rw [literals_union] at bounded ⊢
    split at bounded
    · exact absurd rfl bounded
    · next known =>
      have given : ∀ member ∈ members, member.literals ≠ [] := by simpa using known
      rw [if_neg known, List.map_flatMap, leaves_union]
      exact List.flatMap_congr fun member among => ih member among (given member among)
  | literal value => rfl
  | _ => exact absurd rfl bounded

/-- The leaves and the empty unions are all that counts. -/
theorem literals_congr (sameLeaves : other.leaves = type.leaves)
    (sameEmpty : (union []).StandsIn other ↔ (union []).StandsIn type) :
    other.literals = type.literals := by
  have alike : other.IsUnbounded ↔ type.IsUnbounded := by
    rw [IsUnbounded, IsUnbounded, sameLeaves, sameEmpty]
  by_cases unbounded : type.IsUnbounded
  · rw [literals_eq_nil_iff.mpr unbounded, literals_eq_nil_iff.mpr (alike.mpr unbounded)]
  · have bounded : type.literals ≠ [] := mt literals_eq_nil_iff.mp unbounded
    have alsoBounded : other.literals ≠ [] := mt literals_eq_nil_iff.mp (mt alike.mp unbounded)
    have injective : Function.Injective literal := fun _ _ same => literal.inj same
    apply List.map_injective_iff.mpr injective
    rw [map_literals bounded, map_literals alsoBounded, sameLeaves]

theorem isUnbounded_of_inserted (plain : ∀ members, leaf ≠ union members)
    (unknown : ∀ value, leaf ≠ literal value) (edited : Edited (Inserted leaf) type other) :
    other.IsUnbounded :=
  .inr ⟨leaf, mem_leaves_iff.mpr ⟨edited.standsIn_of_inserted, plain⟩, unknown⟩

end ValueType

open ValueType in
/-- A computed name is bounded exactly if each leaf of its type is text of known value and no union in it is
empty. Its candidates are then the values of all leaves, from left to right. They stay the same when members
that stand side by side are taken together to unions or such unions are opened, at any depth; and one more
leaf of another kind, put into any union, makes the name unbounded. -/
theorem PropertyName.candidates_exact (type : ValueType) :
    let candidates (type : ValueType) := (PropertyName.computed type).candidates
    (candidates type ≠ [] ↔
      (∀ leaf ∈ type.leaves, ∃ value, leaf = .literal value) ∧ ¬(union []).StandsIn type) ∧
    (candidates type ≠ [] → (candidates type).map .literal = type.leaves) ∧
    (∀ other, Relation.EqvGen (Edited Bundled) type other → candidates other = candidates type) ∧
    ∀ leaf other, (∀ members, leaf ≠ .union members) → (∀ value, leaf ≠ .literal value) →
      Edited (Inserted leaf) type other → candidates other = [] := by
  intro candidates
  refine ⟨bounded_iff, map_literals, fun other regrouped => ?_, fun leaf other plain unknown edited => ?_⟩
  · apply eq_of_eqvGen _ regrouped
    intro type other edited
    exact literals_congr edited.leaves_eq_of_bundled edited.empty_standsIn_iff_of_bundled
  · exact literals_eq_nil_iff.mpr (isUnbounded_of_inserted plain unknown edited)

open ValueType in
/-- A repeated and an empty value are kept wherever the inner union starts and ends, and text of unknown
value inside it leaves no candidate. -/
theorem PropertyName.candidates_exact_of_regrouped :
    let candidates (type : ValueType) := (PropertyName.computed type).candidates
    let type := union [.literal "x", union [.literal "", .literal "x"]]
    let other := union [union [.literal "x", .literal ""], .literal "x"]
    let wider := union [.literal "x", union [.literal "", string, .literal "x"]]
    Relation.EqvGen (Edited Bundled) type other ∧ Edited (Inserted string) type wider ∧
      candidates type = ["x", "", "x"] ∧ candidates other = candidates type ∧ candidates wider = [] := by
  intro candidates type other wider
  let flat := union [.literal "x", .literal "", .literal "x"]
  have toType : Edited Bundled flat type := .here (.between [_] [_, _] [] (List.cons_ne_nil _ _))
  have toOther : Edited Bundled flat other := .here (.between [] [_, _] [_] (List.cons_ne_nil _ _))
  have regrouped : Relation.EqvGen (Edited Bundled) type other :=
    .trans _ _ _ (.symm _ _ (.rel _ _ toType)) (.rel _ _ toOther)
  have widened : Edited (Inserted string) type wider := .inside [_] [] (.here (.between [_] [_]))
  obtain ⟨-, -, same, unbounded⟩ := PropertyName.candidates_exact type
  exact ⟨regrouped, widened, rfl, same other regrouped,
    unbounded string wider (by rintro _ ⟨⟩) (by rintro _ ⟨⟩) widened⟩

end PropertyAudit
