import PropertyAudit.Proofs.Hierarchy.Chains

/-! Direct parents in the order of entries, and what two lists of entries must have in common for no
audit to tell them apart: the classes mentioned, the edges, and the parent that comes first. -/
namespace PropertyAudit

namespace Hierarchy

def listedParents (entries : List Entry) (name : String) : List String :=
  (entries.filter (·.name == name)).flatMap (·.parents)

theorem mem_listedParents {entries : List Entry} {name parent : String} :
    parent ∈ listedParents entries name ↔ Records entries name parent := by
  simp only [listedParents, List.mem_flatMap, List.mem_filter, beq_iff_eq, and_assoc, Records]

theorem listedParents_append (entries added : List Entry) (name : String) :
    listedParents (entries ++ added) name = listedParents entries name ++ listedParents added name := by
  rw [listedParents, List.filter_append, List.flatMap_append, listedParents, listedParents]

theorem filter_edges (entries : List Entry) (name : String) :
    (entries.flatMap (·.edges)).filter (·.1 == name) = (listedParents entries name).map (name, ·) := by
  induction entries with
  | nil => rfl
  | cons entry entries ih =>
    rw [List.flatMap_cons, List.filter_append, ih, listedParents, listedParents]
    by_cases own : entry.name = name
    · have all : entry.edges.filter (·.1 == name) = entry.parents.map (name, ·) := by
        rw [Entry.edges, own]
        simp [List.filter_map, Function.comp_def]
      simp [all, own]
    · have none : entry.edges.filter (·.1 == name) = [] := by
        simp [Entry.edges, own]
      simp [none, own]

/-- Entries for other classes, wherever they stand, do not show in the parents of a class. -/
theorem parentsOf_ofEntries (entries : List Entry) (name : String) :
    (ofEntries entries).parentsOf name = (listedParents entries name).eraseDups := by
  have injective : (fun parent : String => (name, parent)).Injective := by
    intro a b same
    exact (Prod.mk.inj same).2
  rw [parentsOf_eq, (represents_ofEntries entries).edges, filter_eraseDups, filter_edges,
    eraseDups_map_of_injective injective, List.map_map]
  exact List.map_id _

theorem head?_parentsOf_ofEntries (entries : List Entry) (name : String) :
    ((ofEntries entries).parentsOf name).head? = (listedParents entries name).head? := by
  rw [parentsOf_ofEntries]
  cases listedParents entries name with
  | nil => rfl
  | cons parent parents => rw [List.eraseDups_cons, List.head?_cons, List.head?_cons]

def Mentions (entries : List Entry) (name : String) : Prop := ∃ entry ∈ entries, name ∈ entry.mentioned

theorem contains_congr {entries others : List Entry}
    (mentioned : ∀ name, Mentions entries name ↔ Mentions others name) (name : String) :
    (ofEntries entries).contains name = (ofEntries others).contains name := by
  rw [Bool.eq_iff_iff, contains_iff, contains_iff]
  exact mentioned name

theorem isSubclassOf_congr {entries others : List Entry}
    (edges : ∀ child parent, Records entries child parent ↔ Records others child parent)
    (child ancestor : String) :
    (ofEntries entries).isSubclassOf child ancestor =
      (ofEntries others).isSubclassOf child ancestor := by
  have same : Records entries = Records others := by
    funext child parent
    exact propext (edges child parent)
  rw [Bool.eq_iff_iff, isSubclassOf_ofEntries, isSubclassOf_ofEntries, Chain, Chain, same]

structure Agree (entries others : List Entry) : Prop where
  mentioned : ∀ name, (∃ entry ∈ entries, name ∈ entry.mentioned) ↔
    ∃ entry ∈ others, name ∈ entry.mentioned
  edges : ∀ child parent, Records entries child parent ↔ Records others child parent
  firstParent : ∀ name, (listedParents entries name).head? = (listedParents others name).head?

namespace Agree

variable {entries others : List Entry}

theorem contains_eq (agree : Agree entries others) (name : String) :
    (ofEntries entries).contains name = (ofEntries others).contains name :=
  contains_congr agree.mentioned name

theorem isSubclassOf_eq (agree : Agree entries others) (child ancestor : String) :
    (ofEntries entries).isSubclassOf child ancestor =
      (ofEntries others).isSubclassOf child ancestor :=
  isSubclassOf_congr agree.edges child ancestor

theorem head?_parentsOf_eq (agree : Agree entries others) (name : String) :
    ((ofEntries entries).parentsOf name).head? = ((ofEntries others).parentsOf name).head? := by
  rw [head?_parentsOf_ofEntries, head?_parentsOf_ofEntries, agree.firstParent]

end Agree
end Hierarchy
end PropertyAudit
