import Mathlib.Data.List.Nodup
import PropertyAudit.Survey

/-! The classes that a survey takes from fact files, and the order in which it sums them up. Classes of
one file and one name, which files may well record twice, stay in the order in which they came. -/
namespace PropertyAudit

def KeyAscends (a b : String × String) : Prop := a.1 < b.1 ∨ a.1 = b.1 ∧ a.2 ≤ b.2

theorem keyLe_iff {a b : String × String} : keyLe a b ↔ KeyAscends a b := by
  simp only [keyLe, KeyAscends, Bool.or_eq_true, decide_eq_true_eq, Bool.and_eq_true, beq_iff_eq,
    Bool.not_eq_true', decide_eq_false_iff_not, String.not_lt]

theorem KeyAscends.refl (key : String × String) : KeyAscends key key :=
  .inr ⟨rfl, String.le_refl _⟩

theorem KeyAscends.antisymm {a b : String × String} (ab : KeyAscends a b) (ba : KeyAscends b a) :
    a = b := by
  rcases ab with before | ⟨first, second⟩
  · rcases ba with after | ⟨same, -⟩
    · exact absurd (String.lt_trans before after) (String.lt_irrefl a.1)
    · exact absurd (same ▸ before) (String.lt_irrefl a.1)
  · rcases ba with after | ⟨-, third⟩
    · exact absurd (first ▸ after) (String.lt_irrefl b.1)
    · exact Prod.ext first (String.le_antisymm second third)

namespace FactFile

def labelledClasses (files : List (Path × FactFile)) : List ClassFacts :=
  files.flatMap fun (path, file) =>
    file.classes.map fun facts => { facts with file := some (facts.file.getD path.text) }

end FactFile

theorem Plan.classesOf_eq (plan : Plan) (files : List (Path × FactFile)) :
    plan.classesOf files = (FactFile.labelledClasses files).filter (!plan.ignores ·.name) := by
  rw [FactFile.labelledClasses, List.filter_flatMap]
  simp only [List.filter_map]
  rfl

namespace ClassFacts

/-- `ordered` holds the classes of `classes`, none lost and none twice, ascending by file and by name;
those that agree in both stand as in `classes`. -/
structure IsOrderOf (ordered classes : List ClassFacts) : Prop where
  complete : ordered.Perm classes
  ascending : ordered.Pairwise fun a b => KeyAscends a.sortKey b.sortKey
  stable : ∀ key, ordered.filter (·.sortKey = key) = classes.filter (·.sortKey = key)

def inOrder (classes : List ClassFacts) : List ClassFacts :=
  classes.mergeSort fun a b => keyLe a.sortKey b.sortKey

variable {classes others : List ClassFacts}

theorem pairwise_inOrder (classes : List ClassFacts) :
    (inOrder classes).Pairwise fun a b => keyLe a.sortKey b.sortKey := by
  apply List.pairwise_mergeSort
  · intro a b c
    exact keyLe_trans
  · intro a b
    exact keyLe_total a.sortKey b.sortKey

/-- Classes of one key are ascending in any order, so that sorting leaves them as they are. -/
theorem filter_inOrder (classes : List ClassFacts) (key : String × String) :
    (inOrder classes).filter (·.sortKey = key) = classes.filter (·.sortKey = key) := by
  have alike : (classes.filter (·.sortKey = key)).Pairwise fun a b => keyLe a.sortKey b.sortKey := by
    refine List.pairwise_of_forall_mem_list fun a here b there => ?_
    rw [of_decide_eq_true (List.mem_filter.mp here).2, of_decide_eq_true (List.mem_filter.mp there).2]
    simpa using keyLe_total key key
  have kept : (classes.filter (·.sortKey = key)).Sublist (inOrder classes) := by
    refine List.sublist_mergeSort ?_ ?_ alike List.filter_sublist
    · intro a b c
      exact keyLe_trans
    · intro a b
      exact keyLe_total a.sortKey b.sortKey
  have found := kept.filter (·.sortKey = key)
  rw [List.filter_filter] at found
  simp only [Bool.and_self] at found
  exact (found.eq_of_length
    ((List.mergeSort_perm classes _).filter (·.sortKey = key)).length_eq.symm).symm

theorem isOrderOf_inOrder (classes : List ClassFacts) : IsOrderOf (inOrder classes) classes where
  complete := List.mergeSort_perm classes _
  ascending := (pairwise_inOrder classes).imp keyLe_iff.mp
  stable := filter_inOrder classes

/-- Where no two classes have the same file and name, there is only one order. -/
theorem inOrder_eq_of_perm (same : classes.Perm others) (distinct : (classes.map sortKey).Nodup) :
    inOrder classes = inOrder others := by
  have reordered : (inOrder classes).Perm (inOrder others) :=
    ((List.mergeSort_perm classes _).trans same).trans (List.mergeSort_perm others _).symm
  refine reordered.eq_of_pairwise ?_ (pairwise_inOrder classes) (pairwise_inOrder others)
  intro a b here there ab ba
  have hereToo : a ∈ classes := List.mem_mergeSort.mp here
  have thereToo : b ∈ classes := same.mem_iff.mpr (List.mem_mergeSort.mp there)
  exact List.inj_on_of_nodup_map distinct hereToo thereToo
    (KeyAscends.antisymm (keyLe_iff.mp ab) (keyLe_iff.mp ba))

end ClassFacts
end PropertyAudit
