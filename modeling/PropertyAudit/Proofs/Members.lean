/-! Lists compared item by item: one may have the items of the other in another order and repeated, or
further items among them. What looks for an item or collects from all items cannot tell them apart, as long
as further items have nothing to give. -/
namespace PropertyAudit

def SameMembers (left right : List α) : Prop := ∀ item, item ∈ left ↔ item ∈ right

namespace SameMembers

variable {left right : List α}

theorem of_perm (reordered : left.Perm right) : SameMembers left right :=
  fun _ => reordered.mem_iff

theorem of_repeated (among : item ∈ left) : SameMembers (item :: left) left := by
  intro other
  rw [List.mem_cons]
  constructor
  · rintro (rfl | member)
    · exact among
    · exact member
  · exact .inr

theorem any_eq (same : SameMembers left right) (test : α → Bool) :
    left.any test = right.any test := by
  rw [Bool.eq_iff_iff, List.any_eq_true, List.any_eq_true]
  simp only [same _]

theorem find?_eq_none_iff (same : SameMembers left right) (test : α → Bool) :
    left.find? test = none ↔ right.find? test = none := by
  rw [List.find?_eq_none, List.find?_eq_none]
  simp only [same _]

/-- The first item that passes a test may be another one, but there is one in both lists or in none. -/
theorem find?_map_eq (same : SameMembers left right) (test : α → Bool) {view : α → β}
    (alike : ∀ first second, view first = view second) :
    (left.find? test).map view = (right.find? test).map view := by
  cases here : left.find? test with
  | none => rw [(same.find?_eq_none_iff test).mp here]
  | some first =>
    cases there : right.find? test with
    | none =>
      rw [(same.find?_eq_none_iff test).mpr there] at here
      cases here
    | some second => exact congrArg some (alike first second)

end SameMembers

/-- `longer` is `shorter` with further items put in anywhere, each of them one that `added` admits. -/
inductive Interspersed (added : α → Prop) : List α → List α → Prop where
  | nil : Interspersed added [] []
  | keep : Interspersed added shorter longer →
      Interspersed added (item :: shorter) (item :: longer)
  | add : added item → Interspersed added shorter longer →
      Interspersed added shorter (item :: longer)

namespace Interspersed

variable {added : α → Prop} {shorter longer : List α}

/-- Items that fail a test leave the first one that passes it where it was. -/
theorem find?_eq {test : α → Bool} (interspersed : Interspersed added shorter longer)
    (fails : ∀ item, added item → test item = false) : longer.find? test = shorter.find? test := by
  induction interspersed with
  | nil => rfl
  | keep _ ih => rw [List.find?_cons, List.find?_cons, ih]
  | add admitted _ ih => rw [List.find?_cons, fails _ admitted, ih]

theorem flatMap_eq {give : α → List β} (interspersed : Interspersed added shorter longer)
    (nothing : ∀ item, added item → give item = []) :
    longer.flatMap give = shorter.flatMap give := by
  induction interspersed with
  | nil => rfl
  | keep _ ih => rw [List.flatMap_cons, List.flatMap_cons, ih]
  | add admitted _ ih => rw [List.flatMap_cons, nothing _ admitted, ih, List.nil_append]

/-- What a filter drops stands among what it keeps. -/
theorem of_filter (keep : α → Bool) (items : List α) :
    Interspersed (keep · = false) (items.filter keep) items := by
  induction items with
  | nil => exact .nil
  | cons item items ih =>
    cases kept : keep item with
    | true =>
      rw [List.filter_cons_of_pos kept]
      exact .keep ih
    | false =>
      rw [List.filter_cons_of_neg (by simp [kept])]
      exact .add kept ih

end Interspersed
end PropertyAudit
