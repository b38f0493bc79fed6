import PropertyAudit.Proofs.Hierarchy.Undeclared
import PropertyAudit.Proofs.ValueType.Consensus

/-! What becomes of definite answers when entries for further classes come in. A class that takes a type in
goes on doing so. One that keeps a type out does so for good only where every chain of parents from a class
in the type is recorded to its end: a class without an entry of its own is known by name as soon as another
lists it as a parent, and of known classes the answer is no. -/
namespace PropertyAudit.ValueType

open Hierarchy

variable {entries added : List Entry} {hierarchy other : Hierarchy} {name candidate : String}
  {answer : Trinary} {type : ValueType}

theorem isBelow_object_eq_no_iff :
    (object candidate).isBelow (.ofEntries entries) name = .no ↔
      (ofEntries entries).contains candidate ∧ ¬Chain entries candidate name := by
  rw [isBelow]
  split
  · next same =>
    subst same
    exact iff_of_false (by simp) fun outside => outside.2 .refl
  · split
    · next known =>
      rw [and_iff_right known, ← isSubclassOf_ofEntries]
      cases (ofEntries entries).isSubclassOf candidate name <;> simp [Trinary.ofBool]
    · next unknown => simp [unknown]

theorem isBelow_object_of_standsIn (definite : answer ≠ .maybe)
    (answered : type.isBelow hierarchy name = answer) (stands : (object candidate).StandsIn type) :
    (object candidate).isBelow hierarchy name = answer :=
  (isBelow_eq_iff definite).mp answered _ stands (by rintro _ ⟨⟩)

/-- Another hierarchy changes a definite answer at the objects in the type, or not at all. -/
theorem isBelow_eq_iff_at_objects (definite : answer ≠ .maybe)
    (answered : type.isBelow hierarchy name = answer) :
    type.isBelow other name = answer ↔
      ∀ candidate, (object candidate).StandsIn type →
        (object candidate).isBelow other name = answer := by
  constructor
  · intro again candidate stands
    exact isBelow_object_of_standsIn definite again stands
  · rw [isBelow_eq_iff definite] at answered ⊢
    intro atObjects leaf stands isLeaf
    have before := answered leaf stands isLeaf
    cases leaf with
    | object candidate => exact atObjects candidate stands
    | union members =>
      obtain rfl := isLeaf members rfl
      exact before
    | _ => exact before

theorem isBelow_yes_append (yes : type.isBelow (.ofEntries entries) name = .yes) :
    type.isBelow (.ofEntries (entries ++ added)) name = .yes := by
  rw [isBelow_eq_iff_at_objects (by decide) yes]
  intro candidate stands
  have chain := isBelow_object.mp (isBelow_object_of_standsIn (by decide) yes stands)
  exact isBelow_object.mpr chain.append

/-- Further entries overturn a no just by a chain from an object in the type to the class. -/
theorem isBelow_no_append_iff (no : type.isBelow (.ofEntries entries) name = .no) :
    type.isBelow (.ofEntries (entries ++ added)) name = .no ↔
      ∀ candidate, (object candidate).StandsIn type → ¬Chain (entries ++ added) candidate name := by
  rw [isBelow_eq_iff_at_objects (by decide) no]
  apply forall_congr'
  intro candidate
  apply imp_congr_right
  intro stands
  have excluded := isBelow_object_of_standsIn (by decide) no stands
  obtain ⟨known, _⟩ := isBelow_object_eq_no_iff.mp excluded
  rw [isBelow_object_eq_no_iff, and_iff_right (contains_append known)]

theorem isBelow_no_append_iff_of_anew (no : type.isBelow (.ofEntries entries) name = .no)
    (anew : DeclaresAnew entries added) :
    type.isBelow (.ofEntries (entries ++ added)) name = .no ↔
      ∀ candidate, (object candidate).StandsIn type →
        ∀ last, LeadsToUndeclared entries candidate last → ¬Chain (entries ++ added) last name := by
  rw [isBelow_no_append_iff no]
  apply forall_congr'
  intro candidate
  apply imp_congr_right
  intro stands
  have excluded := isBelow_object_of_standsIn (by decide) no stands
  obtain ⟨_, apart⟩ := isBelow_object_eq_no_iff.mp excluded
  rw [chain_append_iff anew, or_iff_right apart]
  simp

/-- Answers of a class about a type when entries for classes that had none come in. A yes stays. A no is
overturned exactly if an object in the type is of a class from which parents lead to one without an entry,
and from there, with the entries that came in, to the class that answers. So a no stays whatever may come in
exactly if no class of an object in the type leads to one without an entry. -/
theorem isSupertypeOf_keeps_no_iff_declared (name : String) (type : ValueType) (entries : List Entry) :
    let answer (entries : List Entry) := (object name).isSupertypeOf type (.ofEntries entries)
    (answer entries = .yes → ∀ added, answer (entries ++ added) = .yes) ∧
    (answer entries = .no →
      (∀ added, DeclaresAnew entries added →
        (answer (entries ++ added) = .no ↔
          ∀ candidate, (object candidate).StandsIn type →
            ∀ last, LeadsToUndeclared entries candidate last →
              ¬Chain (entries ++ added) last name)) ∧
      ((∀ added, DeclaresAnew entries added → answer (entries ++ added) = .no) ↔
        ∀ candidate, (object candidate).StandsIn type →
          ¬∃ last, LeadsToUndeclared entries candidate last)) := by
  intro answer
  refine ⟨fun yes added => isBelow_yes_append yes, fun no => ?_⟩
  have each (added : List Entry) (anew : DeclaresAnew entries added) :
      answer (entries ++ added) = .no ↔ _ := isBelow_no_append_iff_of_anew no anew
  refine ⟨each, ?_, ?_⟩
  · rintro kept candidate stands ⟨last, leads⟩
    have anew := declaresAnew_singleton leads.2 [name]
    refine (each _ anew).mp (kept _ anew) candidate stands last leads (.single ?_)
    exact ⟨⟨last, [name]⟩, List.mem_append_right entries (List.mem_singleton_self _), rfl,
      List.mem_singleton_self name⟩
  · intro declared added anew
    refine (each added anew).mpr fun candidate stands last leads => ?_
    exact absurd ⟨last, leads⟩ (declared candidate stands)

/-- `Child` and its parent both have entries: the no to it stays whatever comes in, as does the yes. -/
theorem isSupertypeOf_keeps_no_below_declared :
    let type := union [object "Child", object "Mid"]
    let entries : List Entry := [⟨"Child", ["Mid"]⟩, ⟨"Mid", []⟩]
    let added : List Entry := [⟨"Other", ["Base", "Child"]⟩]
    let answer (name : String) (entries : List Entry) :=
      (object name).isSupertypeOf type (.ofEntries entries)
    answer "Mid" entries = .yes ∧ answer "Base" entries = .no ∧ DeclaresAnew entries added ∧
      answer "Mid" (entries ++ added) = .yes ∧ answer "Base" (entries ++ added) = .no := by
  intro type entries added answer
  have anew : DeclaresAnew entries added := declaresAnew_singleton (by decide) _
  have declared (candidate : String) (stands : (object candidate).StandsIn type) :
      ¬∃ last, LeadsToUndeclared entries candidate last := by
    rw [exists_leadsToUndeclared_iff]
    have inType : candidate = "Child" ∨ candidate = "Mid" := by
      simpa [type, standsIn_union, standsIn_of_no_union] using stands
    rcases inType with rfl | rfl <;> decide
  obtain ⟨keepsYes, -⟩ := isSupertypeOf_keeps_no_iff_declared "Mid" type entries
  obtain ⟨-, keepsNo⟩ := isSupertypeOf_keeps_no_iff_declared "Base" type entries
  have yes : answer "Mid" entries = .yes := by decide
  have no : answer "Base" entries = .no := by decide
  exact ⟨yes, no, anew, keepsYes yes added, (keepsNo no).2.mpr declared added anew⟩

/-- `Mid` has no entry of its own, yet the answer about it, and about `Child` below it, is no. The entry that
comes in for it turns both to yes. -/
theorem undeclared_parent_overturns_no :
    let entries : List Entry := [⟨"Child", ["Mid"]⟩]
    let added : List Entry := [⟨"Mid", ["Base"]⟩]
    let answer (candidate : String) (entries : List Entry) :=
      (object "Base").isSupertypeOf (object candidate) (.ofEntries entries)
    DeclaresAnew entries added ∧
      answer "Mid" entries = .no ∧ answer "Mid" (entries ++ added) = .yes ∧
      answer "Child" entries = .no ∧ answer "Child" (entries ++ added) = .yes := by
  intro entries added answer
  have anew : DeclaresAnew entries added := declaresAnew_singleton (by decide) _
  exact ⟨anew, by decide, by decide, by decide, by decide⟩

end PropertyAudit.ValueType
