import PropertyAudit.Hierarchy
import PropertyAudit.Proofs.Repetitions

/-! What entries leave in a hierarchy. Nodes and edges are put in one by one, and a node may come in as a
parent before it does as a child. Read through the names of the nodes, the result is the classes the
entries mention and the edges they list, each once, in the order in which they first come. -/
namespace PropertyAudit.Hierarchy

variable {hierarchy : Hierarchy} {name child parent : String} {entries : List Entry}

def named (hierarchy : Hierarchy) (edge : Nat × Nat) : Option (String × String) :=
  (hierarchy.classes[edge.1]?).bind fun child =>
    (hierarchy.classes[edge.2]?).map fun parent => (child, parent)

def namedEdges (hierarchy : Hierarchy) : List (String × String) :=
  (hierarchy.edges.filterMap hierarchy.named).reverse

theorem named_eq_some_iff {edge : Nat × Nat} :
    hierarchy.named edge = some (child, parent) ↔
      hierarchy.classes[edge.1]? = some child ∧ hierarchy.classes[edge.2]? = some parent := by
  simp [named, Option.bind_eq_some_iff]

theorem lookup_eq_some_iff {node : Nat} :
    hierarchy.index.lookup name = some node ↔ hierarchy.classes[node]? = some name :=
  hierarchy.indexed name node

theorem contains_eq_true_iff : hierarchy.contains name = true ↔ name ∈ hierarchy.classes :=
  hierarchy.indexed.isSome_lookup_iff

/-- A name stands for one node only. -/
theorem node_unique {node other : Nat} (here : hierarchy.classes[node]? = some name)
    (there : hierarchy.classes[other]? = some name) : node = other := by
  rw [← lookup_eq_some_iff] at here there
  exact Option.some.inj (here.symm.trans there)

theorem exists_mem_edges_iff :
    (child, parent) ∈ hierarchy.namedEdges ↔ ∃ edge ∈ hierarchy.edges,
      hierarchy.classes[edge.1]? = some child ∧ hierarchy.classes[edge.2]? = some parent := by
  simp only [namedEdges, List.mem_reverse, List.mem_filterMap, named_eq_some_iff]

theorem mem_edges_iff {start target : Nat} (atChild : hierarchy.classes[start]? = some child)
    (atParent : hierarchy.classes[target]? = some parent) :
    (start, target) ∈ hierarchy.edges ↔ (child, parent) ∈ hierarchy.namedEdges := by
  rw [exists_mem_edges_iff]
  constructor
  · intro edge
    exact ⟨_, edge, atChild, atParent⟩
  · rintro ⟨⟨first, last⟩, edge, atFirst, atLast⟩
    rwa [node_unique atChild atFirst, node_unique atParent atLast]

/-- A class keeps its node, or it gets the next one. -/
theorem node_cases (hierarchy : Hierarchy) (name : String) :
    (name ∈ hierarchy.classes ∧ (hierarchy.node name).1 = hierarchy ∧
      hierarchy.classes[(hierarchy.node name).2]? = some name) ∨
    (name ∉ hierarchy.classes ∧ (hierarchy.node name).1.classes = hierarchy.classes ++ [name] ∧
      (hierarchy.node name).1.edges = hierarchy.edges ∧
      (hierarchy.node name).2 = hierarchy.classes.length) := by
  unfold node
  split
  · next node known =>
    have here := lookup_eq_some_iff.mp known
    exact .inl ⟨List.mem_of_getElem? here, rfl, here⟩
  · next unknown => exact .inr ⟨hierarchy.indexed.lookup_eq_none_iff.mp unknown, rfl, rfl, rfl⟩

theorem getElem?_node (hierarchy : Hierarchy) (name : String) :
    (hierarchy.node name).1.classes[(hierarchy.node name).2]? = some name := by
  rcases hierarchy.node_cases name with ⟨_, same, here⟩ | ⟨_, classes, _, last⟩
  · rwa [same]
  · rw [classes, last, List.getElem?_concat_length]

/-- The nodes that are there keep their names. -/
theorem getElem?_node_of_some {node : Nat} (here : hierarchy.classes[node]? = some child) :
    (hierarchy.node name).1.classes[node]? = some child := by
  rcases hierarchy.node_cases name with ⟨_, same, _⟩ | ⟨_, classes, _⟩
  · rwa [same]
  · rwa [classes, List.getElem?_append_left (List.getElem?_eq_some_iff.mp here).1]

theorem namedEdges_node (hierarchy : Hierarchy) (name : String) :
    (hierarchy.node name).1.namedEdges = hierarchy.namedEdges := by
  rcases hierarchy.node_cases name with ⟨_, same, _⟩ | ⟨_, classes, edges, _⟩
  · rw [same]
  · rw [namedEdges, namedEdges, edges]
    congr 1
    refine List.filterMap_congr fun edge among => ?_
    obtain ⟨first, second⟩ := hierarchy.inside edge among
    rw [named, named, classes, List.getElem?_append_left first, List.getElem?_append_left second]

@[simp] theorem classes_link (hierarchy : Hierarchy) (start target : Nat) :
    (hierarchy.link start target).classes = hierarchy.classes := by
  unfold link
  split <;> rfl

theorem namedEdges_link {start target : Nat} (atChild : hierarchy.classes[start]? = some child)
    (atParent : hierarchy.classes[target]? = some parent) :
    (hierarchy.link start target).namedEdges =
      if (child, parent) ∈ hierarchy.namedEdges then hierarchy.namedEdges
      else hierarchy.namedEdges ++ [(child, parent)] := by
  have inside : start < hierarchy.size ∧ target < hierarchy.size :=
    ⟨(List.getElem?_eq_some_iff.mp atChild).1, (List.getElem?_eq_some_iff.mp atParent).1⟩
  have ends : hierarchy.named (start, target) = some (child, parent) :=
    named_eq_some_iff.mpr ⟨atChild, atParent⟩
  have same := mem_edges_iff atChild atParent
  by_cases known : (start, target) ∈ hierarchy.edges
  · rw [if_pos (same.mp known), link, dif_neg fun fresh => fresh.2 known]
  · rw [if_neg (mt same.mpr known), link, dif_pos ⟨inside, known⟩, namedEdges]
    exact (congrArg List.reverse (List.filterMap_cons_some ends)).trans List.reverse_cons

/-- The hierarchy holds the classes and the edges listed, each once and in this order. -/
structure Represents (hierarchy : Hierarchy) (mentioned : List String)
    (listed : List (String × String)) : Prop where
  classes : hierarchy.classes = mentioned.eraseDups
  edges : hierarchy.namedEdges = listed.eraseDups

namespace Represents

variable {mentioned : List String} {listed : List (String × String)}

theorem empty : Hierarchy.empty.Represents [] [] := ⟨rfl, rfl⟩

theorem node (represents : hierarchy.Represents mentioned listed) (name : String) :
    (hierarchy.node name).1.Represents (mentioned ++ [name]) listed := by
  refine ⟨?_, (hierarchy.namedEdges_node name).trans represents.edges⟩
  rcases hierarchy.node_cases name with ⟨known, same, _⟩ | ⟨unknown, classes, _⟩
  · rw [represents.classes, List.mem_eraseDups] at known
    rw [same, eraseDups_concat_of_mem known, represents.classes]
  · rw [represents.classes, List.mem_eraseDups] at unknown
    rw [classes, eraseDups_concat_of_not_mem unknown, represents.classes]

theorem link {start target : Nat} (represents : hierarchy.Represents mentioned listed)
    (atChild : hierarchy.classes[start]? = some child)
    (atParent : hierarchy.classes[target]? = some parent) :
    (hierarchy.link start target).Represents mentioned (listed ++ [(child, parent)]) := by
  refine ⟨(hierarchy.classes_link start target).trans represents.classes, ?_⟩
  rw [namedEdges_link atChild atParent, represents.edges]
  split
  · next known => rw [eraseDups_concat_of_mem (List.mem_eraseDups.mp known)]
  · next fresh => rw [eraseDups_concat_of_not_mem (mt List.mem_eraseDups.mpr fresh)]

/-- The parents of one entry come in one after the other, while the child keeps its node. -/
theorem addParents {start : Nat} (parents : List String) (represents : hierarchy.Represents mentioned listed)
    (atChild : hierarchy.classes[start]? = some child) :
    (parents.foldl (addParent start) hierarchy).Represents (mentioned ++ parents)
      (listed ++ parents.map (child, ·)) := by
  induction parents generalizing hierarchy mentioned listed with
  | nil => simpa using represents
  | cons parent parents ih =>
    have stays : (hierarchy.node parent).1.classes[start]? = some child := getElem?_node_of_some atChild
    have linked := (represents.node parent).link stays (hierarchy.getElem?_node parent)
    have rest := ih linked ((classes_link _ _ _).symm ▸ stays)
    rwa [List.append_assoc, List.append_assoc] at rest

theorem addEntry (represents : hierarchy.Represents mentioned listed) (entry : Entry) :
    (hierarchy.addEntry entry).Represents (mentioned ++ entry.mentioned) (listed ++ entry.edges) := by
  have recorded := (represents.node entry.name).addParents entry.parents (hierarchy.getElem?_node entry.name)
  rwa [List.append_assoc] at recorded

theorem addEntries (entries : List Entry) (represents : hierarchy.Represents mentioned listed) :
    (entries.foldl Hierarchy.addEntry hierarchy).Represents (mentioned ++ entries.flatMap (·.mentioned))
      (listed ++ entries.flatMap (·.edges)) := by
  induction entries generalizing hierarchy mentioned listed with
  | nil => simpa using represents
  | cons entry entries ih =>
    have rest := ih (represents.addEntry entry)
    rwa [List.append_assoc, List.append_assoc] at rest

end Represents

theorem represents_ofEntries (entries : List Entry) :
    (ofEntries entries).Represents (entries.flatMap (·.mentioned)) (entries.flatMap (·.edges)) :=
  Represents.empty.addEntries entries

theorem contains_iff :
    (ofEntries entries).contains name ↔ ∃ entry ∈ entries, name ∈ entry.mentioned := by
  rw [contains_eq_true_iff, (represents_ofEntries entries).classes, List.mem_eraseDups,
    List.mem_flatMap]

/-- An edge shows among the parents of a class just if it starts at the node of that class. -/
theorem parent_named {edge : Nat × Nat} (among : edge ∈ hierarchy.edges) :
    ((hierarchy.named edge).filter (·.1 == name)).map (·.2) =
      if hierarchy.index.lookup name = some edge.1 then hierarchy.classes[edge.2]? else none := by
  obtain ⟨first, second⟩ := hierarchy.inside edge among
  have atChild := List.getElem?_eq_getElem first
  have atParent := List.getElem?_eq_getElem second
  rw [named_eq_some_iff.mpr ⟨atChild, atParent⟩]
  by_cases own : hierarchy.classes[edge.1] = name
  · rw [if_pos (lookup_eq_some_iff.mpr (own ▸ atChild)), atParent, own, Option.filter_some, if_pos (by simp)]
    rfl
  · have other : hierarchy.index.lookup name ≠ some edge.1 := by
      rwa [ne_eq, lookup_eq_some_iff, atChild, Option.some.injEq]
    rw [if_neg other, Option.filter_some, if_neg (by simpa using own)]
    rfl

/-- Read from the node of a class and turned round, the newest edges first are the edges of that class
as they came. -/
theorem parentsOf_eq (hierarchy : Hierarchy) (name : String) :
    hierarchy.parentsOf name = (hierarchy.namedEdges.filter (·.1 == name)).map (·.2) := by
  rw [parentsOf, namedEdges, List.filter_reverse, List.map_reverse, List.filter_filterMap,
    List.map_filterMap, List.filterMap_congr fun edge among => parent_named among]
  cases hierarchy.index.lookup name with
  | none => simp
  | some node =>
    simp only [neighbours, List.filterMap_map, List.filterMap_filter]
    congr 1
    refine List.filterMap_congr fun edge _ => ?_
    simp only [beq_iff_eq, Option.some.injEq, Eq.comm (a := node), Function.comp_apply]

end PropertyAudit.Hierarchy
