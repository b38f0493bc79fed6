import PropertyAudit.Proofs.Hierarchy.Parents

/-! The order of direct parents: that of their first mention in the entries for the class. What is recorded
later, of this class or of others, never moves a parent that is there already. -/
namespace PropertyAudit

namespace Hierarchy

/-- The names are the parents recorded for the class, each once, in the order in which the entries for the
class first list them. -/
structure AsFirstListed (entries : List Entry) (name : String) (parents : List String) : Prop where
  distinct : parents.Nodup
  recorded : ∀ parent, parent ∈ parents ↔ Records entries name parent
  ordered : parents.Pairwise fun earlier later =>
    (listedParents entries name).idxOf earlier < (listedParents entries name).idxOf later

variable {entries : List Entry} {name : String}

theorem asFirstListed_parentsOf (entries : List Entry) (name : String) :
    AsFirstListed entries name ((ofEntries entries).parentsOf name) := by
  rw [parentsOf_ofEntries]
  refine ⟨nodup_eraseDups _, fun parent => ?_, pairwise_idxOf_eraseDups _⟩
  rw [List.mem_eraseDups, mem_listedParents]

/-- No other list has the parents in this order. -/
theorem AsFirstListed.unique {parents others : List String}
    (listed : AsFirstListed entries name parents) (alsoListed : AsFirstListed entries name others) :
    parents = others := by
  have same : parents.Perm others := by
    rw [List.perm_ext_iff_of_nodup listed.distinct alsoListed.distinct]
    intro parent
    rw [listed.recorded, alsoListed.recorded]
  refine same.eq_of_pairwise (fun first second _ _ before after => ?_) listed.ordered alsoListed.ordered
  exact absurd before (Nat.lt_asymm after)

def addEdge (above : String → List String) (edge : String × String) : String → List String :=
  fun child => if child = edge.1 ∧ edge.2 ∉ above child then edge.2 :: above child else above child

def newestFirst (edges : List (String × String)) : String → List String := edges.foldl addEdge fun _ => []

/-- What one edge does to the parents of a class, read backward. -/
theorem addEdge_eq_reverse {above : String → List String} {parents : List String}
    (before : above name = parents.eraseDups.reverse) (edge : String × String) :
    addEdge above edge name =
      (parents ++ if edge.1 = name then [edge.2] else []).eraseDups.reverse := by
  rw [addEdge, before]
  by_cases own : edge.1 = name
  · by_cases known : edge.2 ∈ parents
    · simp [own, known, eraseDups_concat_of_mem known]
    · simp [own, known, eraseDups_concat_of_not_mem known]
  · simp [own, Ne.symm own]

theorem newestFirst_eq_reverse (edges : List (String × String)) (name : String) :
    newestFirst edges name = ((edges.filter (·.1 == name)).map (·.2)).eraseDups.reverse := by
  induction edges using List.reverseRecOn with
  | nil => rfl
  | append_singleton edges edge ih =>
    rw [newestFirst, List.foldl_concat, ← newestFirst, addEdge_eq_reverse ih, List.filter_append,
      List.map_append]
    by_cases own : edge.1 = name <;> simp [own]

theorem parentsOf_eq_reverse_newestFirst (entries : List Entry) (name : String) :
    (ofEntries entries).parentsOf name = (newestFirst (entries.flatMap (·.edges)) name).reverse := by
  rw [newestFirst_eq_reverse, List.reverse_reverse, filter_edges, List.map_map, parentsOf_ofEntries]
  exact congrArg List.eraseDups (List.map_id _).symm

/-- Later entries put the parents that are new behind those that are there. -/
theorem parentsOf_append (entries added : List Entry) (name : String) :
    (ofEntries (entries ++ added)).parentsOf name =
      (ofEntries entries).parentsOf name ++
        ((ofEntries added).parentsOf name).filter (· ∉ (ofEntries entries).parentsOf name) := by
  simp only [parentsOf_ofEntries, listedParents_append, List.eraseDups_append, filter_eraseDups,
    List.mem_eraseDups, List.removeAll, List.elem_eq_mem, decide_not]

/-- The direct parents of a class are the names its entries list, each once, in the order of first mention,
which is what a graph with the newest edge first gives when it is read backward. Only the entries for the
class matter, its own name among its parents counts like any other, later entries leave the parents that are
there where they are, and a class that no entry mentions has none. -/
theorem parentsOf_in_order_of_first_mention (entries : List Entry) (name : String) :
    (∀ parents, (ofEntries entries).parentsOf name = parents ↔ AsFirstListed entries name parents) ∧
    (ofEntries entries).parentsOf name = (newestFirst (entries.flatMap (·.edges)) name).reverse ∧
    (∀ others, others.filter (·.name == name) = entries.filter (·.name == name) →
      (ofEntries others).parentsOf name = (ofEntries entries).parentsOf name) ∧
    (∀ added, (ofEntries (entries ++ added)).parentsOf name =
      (ofEntries entries).parentsOf name ++
        ((ofEntries added).parentsOf name).filter (· ∉ (ofEntries entries).parentsOf name)) ∧
    (¬(ofEntries entries).contains name → (ofEntries entries).parentsOf name = []) := by
  refine ⟨fun parents => ⟨?_, ?_⟩, parentsOf_eq_reverse_newestFirst entries name, fun others same => ?_,
    fun added => ?_, fun unknown => ?_⟩
  · rintro rfl
    exact asFirstListed_parentsOf entries name
  · exact (asFirstListed_parentsOf entries name).unique
  · rw [parentsOf_ofEntries, parentsOf_ofEntries, listedParents, listedParents, same]
  · exact parentsOf_append entries added name
  · rw [List.eq_nil_iff_forall_not_mem]
    intro parent listed
    obtain ⟨entry, member, rfl, _⟩ := hasEdge_ofEntries.mp (mem_parentsOf.mp listed)
    exact unknown (contains_iff.mpr ⟨entry, member, List.mem_cons_self⟩)

/-- Of the entries for `A` one names `A` itself, one repeats and one is empty, and entries for two other classes
stand between them. -/
theorem parentsOf_in_order_of_first_mention_interleaved :
    let own : List Entry := [⟨"A", ["B", "A"]⟩, ⟨"A", []⟩, ⟨"A", ["D", "B", "A"]⟩]
    let entries : List Entry := [⟨"C", ["D", "A"]⟩, ⟨"A", ["B", "A"]⟩, ⟨"B", ["A"]⟩, ⟨"A", []⟩,
      ⟨"A", ["D", "B", "A"]⟩]
    AsFirstListed entries "A" ["B", "A", "D"] ∧
      (ofEntries own).parentsOf "A" = (ofEntries entries).parentsOf "A" ∧
      (ofEntries (entries ++ own)).parentsOf "A" = ["B", "A", "D"] ∧
      (ofEntries (entries ++ [⟨"A", ["E", "D"]⟩])).parentsOf "A" = ["B", "A", "D", "E"] ∧
      (ofEntries entries).parentsOf "E" = [] := by
  intro own entries
  obtain ⟨ordered, -, ownOnly, later, -⟩ := parentsOf_in_order_of_first_mention entries "A"
  have here : (ofEntries entries).parentsOf "A" = ["B", "A", "D"] := by decide
  refine ⟨(ordered _).mp here, ownOnly own (by decide), ?_, ?_, ?_⟩
  · rw [later, here]
    decide
  · rw [later, here]
    decide
  · exact (parentsOf_in_order_of_first_mention entries "E").2.2.2.2 (by decide)

end Hierarchy
end PropertyAudit
