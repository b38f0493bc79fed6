/-! Which properties each method assigns on every path through it. -/
namespace PropertyAudit

/-- Methods in ascending order, each with the properties it definitely assigns. -/
structure Assignments where
  entries : List (String × List String)
  ascending : entries.Pairwise (·.1 < ·.1)
deriving Repr

namespace Assignments

def empty : Assignments := ⟨[], .nil⟩

def insertEntry (method : String) (properties : List String) :
    List (String × List String) → List (String × List String)
  | [] => [(method, properties)]
  | entry :: entries =>
    if method < entry.1 then (method, properties) :: entry :: entries
    else if method = entry.1 then (method, properties) :: entries
    else entry :: insertEntry method properties entries

theorem mem_insertEntry {method : String} {properties : List String} {entry : String × List String}
    {entries : List (String × List String)}
    (member : entry ∈ insertEntry method properties entries) :
    entry = (method, properties) ∨ entry ∈ entries := by
  induction entries with
  | nil => simpa [insertEntry] using member
  | cons head tail ih =>
    unfold insertEntry at member
    split at member
    · simpa using member
    · split at member
      · rcases List.mem_cons.1 member with h | h
        · exact .inl h
        · exact .inr (List.mem_cons_of_mem _ h)
      · rcases List.mem_cons.1 member with h | h
        · exact .inr (h ▸ List.mem_cons_self)
        · rcases ih h with h | h
          · exact .inl h
          · exact .inr (List.mem_cons_of_mem _ h)

theorem ascending_insertEntry {method : String} {properties : List String}
    {entries : List (String × List String)} (ascending : entries.Pairwise (·.1 < ·.1)) :
    (insertEntry method properties entries).Pairwise (·.1 < ·.1) := by
  induction entries with
  | nil => simp [insertEntry]
  | cons head tail ih =>
    have ⟨headFirst, tailAscending⟩ := List.pairwise_cons.1 ascending
    unfold insertEntry
    split
    · next before =>
      refine List.pairwise_cons.2 ⟨fun entry member => ?_, ascending⟩
      rcases List.mem_cons.1 member with h | h
      · exact h ▸ before
      · exact String.lt_trans before (headFirst entry h)
    · next notBefore =>
      split
      · next same =>
        exact List.pairwise_cons.2
          ⟨fun entry member => same ▸ headFirst entry member, tailAscending⟩
      · next different =>
        refine List.pairwise_cons.2 ⟨fun entry member => ?_, ih tailAscending⟩
        rcases mem_insertEntry member with h | h
        · subst h
          rcases String.le_total head.1 method with le | le
          · exact Std.lt_of_le_of_ne le (fun h => different h.symm)
          · exact absurd (Std.lt_of_le_of_ne le different) notBefore
        · exact headFirst entry h

def insert (assignments : Assignments) (method : String) (properties : List String) : Assignments :=
  ⟨insertEntry method properties assignments.entries, ascending_insertEntry assignments.ascending⟩

/-- Later entries replace earlier ones of the same method. -/
def ofList (entries : List (String × List String)) : Assignments :=
  entries.foldl (fun assignments (method, properties) => assignments.insert method properties) empty

def get? (assignments : Assignments) (method : String) : Option (List String) :=
  assignments.entries.lookup method

def assignedBy (assignments : Assignments) (methods : List String) : List String :=
  methods.flatMap fun method => (assignments.get? method).getD []

end Assignments
end PropertyAudit
