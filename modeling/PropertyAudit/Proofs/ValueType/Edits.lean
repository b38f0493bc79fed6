import Mathlib.Logic.Relation
import PropertyAudit.Proofs.ValueType.Leaves

/-! Types that differ in the members of one union, which may stand at any depth: another member is put in
there, or members that stand side by side are taken together. A chain of such edits, made or taken back,
is an equivalence of types. -/
namespace PropertyAudit

/-- A view that no single step changes is the same at both ends of a chain of steps. -/
theorem eq_of_eqvGen {related : α → α → Prop} {view : α → β} {first last : α}
    (kept : ∀ first last, related first last → view last = view first)
    (chained : Relation.EqvGen related first last) : view last = view first := by
  induction chained with
  | rel first last step => exact kept first last step
  | refl => rfl
  | symm _ _ _ ih => exact ih.symm
  | trans _ _ _ _ _ earlier later => exact later.trans earlier

namespace ValueType

inductive Inserted (item : ValueType) : List ValueType → List ValueType → Prop where
  | between (before after : List ValueType) :
      Inserted item (before ++ after) (before ++ item :: after)

/-- Some members that stand side by side, one at least, become a union of their own. -/
inductive Bundled : List ValueType → List ValueType → Prop where
  | between (before inner after : List ValueType) (some : inner ≠ []) :
      Bundled (before ++ inner ++ after) (before ++ union inner :: after)

inductive Edited (change : List ValueType → List ValueType → Prop) : ValueType → ValueType → Prop where
  | here : change members others → Edited change (union members) (union others)
  | inside (before after : List ValueType) : Edited change member new →
      Edited change (union (before ++ member :: after)) (union (before ++ new :: after))

variable {change : List ValueType → List ValueType → Prop} {item type other : ValueType}

/-- Only unions are edited, so what is edited is not null and does not become null. -/
theorem Edited.isNull_eq_false (edited : Edited change type other) :
    type.isNull = false ∧ other.isNull = false := by
  cases edited <;> exact ⟨rfl, rfl⟩

theorem Edited.standsIn_of_inserted (edited : Edited (Inserted item) type other) :
    item.StandsIn other := by
  induction edited with
  | here inserted =>
    obtain ⟨before, after⟩ := inserted
    exact .member (List.mem_append_right before List.mem_cons_self) .self
  | inside before after _ ih => exact .member (List.mem_append_right before List.mem_cons_self) ih

theorem Edited.leaves_eq_of_bundled (edited : Edited Bundled type other) :
    other.leaves = type.leaves := by
  induction edited with
  | here bundled =>
    obtain ⟨before, inner, after, _⟩ := bundled
    simp
  | inside before after _ ih => simp [ih]

/-- A union without members neither arises nor goes when members are taken together. -/
theorem Edited.empty_standsIn_iff_of_bundled (edited : Edited Bundled type other) :
    (union []).StandsIn other ↔ (union []).StandsIn type := by
  induction edited with
  | here bundled =>
    obtain ⟨before, inner, after, some⟩ := bundled
    have bundle : (union []).StandsIn (union inner) ↔ ∃ member ∈ inner, (union []).StandsIn member := by
      simp [standsIn_union, some.symm]
    simp [standsIn_union, or_and_right, exists_or, bundle, some]
  | inside before after _ ih => simp [standsIn_union, or_and_right, exists_or, ih]

end ValueType
end PropertyAudit
