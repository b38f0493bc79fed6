/-! Lists of names with values, of which the first counts for each name, and indexes that give the
positions of the names in a list without repetitions. -/
namespace PropertyAudit

namespace Association

/-- Puts `value` in the place of the one with that name, or at the end. -/
def put (name : String) (value : α) : List (String × α) → List (String × α)
  | [] => [(name, value)]
  | (other, old) :: entries =>
    if other = name then (name, value) :: entries else (other, old) :: put name value entries

theorem lookup_put (name other : String) (value : α) (entries : List (String × α)) :
    (put name value entries).lookup other =
      if other = name then some value else entries.lookup other := by
  have equal (a b : String) : (a == b) = decide (a = b) := rfl
  induction entries with
  | nil => by_cases same : other = name <;> simp [put, List.lookup_cons, equal, same]
  | cons entry entries ih =>
    obtain ⟨head, old⟩ := entry
    by_cases replaced : head = name
    · by_cases same : other = name <;> simp [put, List.lookup_cons, equal, replaced, same]
    · by_cases first : other = head
      · simp [put, first, replaced]
      · simp [put, List.lookup_cons, equal, replaced, first, ih]

end Association

/-- The index lists each name with its position, and nothing else. -/
def Indexes (index : List (String × Nat)) (names : List String) : Prop :=
  ∀ name position, index.lookup name = some position ↔ names[position]? = some name

namespace Indexes

variable {index : List (String × Nat)} {names : List String} {name : String}

theorem nil : Indexes [] [] := by
  intro name position
  exact iff_of_false nofun nofun

theorem lookup_eq_none_iff (indexes : Indexes index names) :
    index.lookup name = none ↔ name ∉ names := by
  simp only [Option.eq_none_iff_forall_ne_some, List.mem_iff_getElem?, not_exists, ne_eq,
    indexes name _]

theorem isSome_lookup_iff (indexes : Indexes index names) :
    (index.lookup name).isSome ↔ name ∈ names := by
  rw [Option.isSome_iff_ne_none, ne_eq, indexes.lookup_eq_none_iff, Decidable.not_not]

theorem push (indexes : Indexes index names) (unknown : index.lookup name = none) :
    Indexes (Association.put name names.length index) (names ++ [name]) := by
  intro other position
  rw [Association.lookup_put]
  rcases Nat.lt_or_ge position names.length with earlier | behind
  · rw [List.getElem?_append_left earlier, ← indexes]
    split
    · next own =>
      rw [own, unknown, Option.some.injEq]
      exact iff_of_false (Nat.ne_of_gt earlier) nofun
    · rfl
  · have outside : index.lookup other ≠ some position := by
      rw [ne_eq, indexes, List.getElem?_eq_none behind]
      nofun
    rw [List.getElem?_append_right behind, List.getElem?_singleton]
    grind

theorem nodup (indexes : Indexes index names) : names.Nodup := by
  rw [List.nodup_iff_pairwise_ne, List.pairwise_iff_getElem]
  intro first second here there before same
  have one := (indexes _ first).mpr (List.getElem?_eq_getElem here)
  have other := (indexes _ second).mpr (List.getElem?_eq_getElem there)
  rw [same, other] at one
  exact absurd (Option.some.inj one) (Nat.ne_of_gt before)

end Indexes
end PropertyAudit
