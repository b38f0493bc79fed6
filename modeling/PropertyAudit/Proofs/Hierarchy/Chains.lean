import Mathlib.Logic.Relation
import PropertyAudit.Proofs.Hierarchy.Recording

/-! Chains of recorded parents. The search for the nodes above a class follows every edge once and
stops, so that to be a subclass is to have a finite chain of recorded edges. Cycles, parents that
are never declared and edges recorded twice are not excluded. -/
namespace PropertyAudit.Hierarchy

def Records (entries : List Entry) (child parent : String) : Prop :=
  ∃ entry ∈ entries, entry.name = child ∧ parent ∈ entry.parents

/-- A finite chain of recorded edges, possibly without any, leads from `child` to `ancestor`. -/
def Chain (entries : List Entry) (child ancestor : String) : Prop :=
  Relation.ReflTransGen (Records entries) child ancestor

def HasEdge (hierarchy : Hierarchy) (child parent : String) : Prop :=
  (child, parent) ∈ hierarchy.namedEdges

def Reaches (hierarchy : Hierarchy) (child ancestor : String) : Prop :=
  Relation.ReflTransGen hierarchy.HasEdge child ancestor

def Leads (hierarchy : Hierarchy) (start target : Nat) : Prop :=
  Relation.ReflTransGen (fun node above => (node, above) ∈ hierarchy.edges) start target

theorem mem_parentsOf {hierarchy : Hierarchy} {child parent : String} :
    parent ∈ hierarchy.parentsOf child ↔ hierarchy.HasEdge child parent := by
  simp [parentsOf_eq, HasEdge]

theorem mem_neighbours {hierarchy : Hierarchy} {node above : Nat} :
    above ∈ hierarchy.neighbours node ↔ (node, above) ∈ hierarchy.edges := by
  simp [neighbours]

theorem hasEdge_ofEntries {entries : List Entry} {child parent : String} :
    (ofEntries entries).HasEdge child parent ↔ Records entries child parent := by
  simp only [HasEdge, (represents_ofEntries entries).edges, List.mem_eraseDups, List.mem_flatMap, Records]
  constructor
  · rintro ⟨entry, member, edge⟩
    obtain ⟨listed, atParent, same⟩ := List.mem_map.mp edge
    obtain ⟨rfl, rfl⟩ := Prod.mk.inj same
    exact ⟨entry, member, rfl, atParent⟩
  · rintro ⟨entry, member, rfl, atParent⟩
    exact ⟨entry, member, List.mem_map.mpr ⟨parent, atParent, rfl⟩⟩

theorem reaches_ofEntries {entries : List Entry} {child ancestor : String} :
    (ofEntries entries).Reaches child ancestor ↔ Chain entries child ancestor := by
  have same : (ofEntries entries).HasEdge = Records entries := by
    funext child parent
    exact propext hasEdge_ofEntries
  rw [Reaches, Chain, same]

/-- Chains of names and paths of nodes are the same thing. -/
theorem reaches_iff_leads {hierarchy : Hierarchy} {child ancestor : String} {start : Nat}
    (atChild : hierarchy.classes[start]? = some child) :
    hierarchy.Reaches child ancestor ↔
      ∃ target, hierarchy.classes[target]? = some ancestor ∧ hierarchy.Leads start target := by
  constructor
  · intro path
    induction path with
    | refl => exact ⟨start, atChild, .refl⟩
    | tail _ edge ih =>
      obtain ⟨node, here, path⟩ := ih
      obtain ⟨⟨first, last⟩, among, atFirst, atLast⟩ := exists_mem_edges_iff.mp edge
      obtain rfl := node_unique here atFirst
      exact ⟨last, atLast, path.tail among⟩
  · rintro ⟨target, atAncestor, path⟩
    induction path generalizing ancestor with
    | refl =>
      obtain rfl := Option.some.inj (atChild.symm.trans atAncestor)
      exact .refl
    | tail _ edge ih =>
      have atNode := List.getElem?_eq_getElem (hierarchy.inside _ edge).1
      exact (ih atNode).tail ((mem_edges_iff atNode atAncestor).mp edge)

def openEdges (hierarchy : Hierarchy) (seen : List Nat) : Nat :=
  hierarchy.edges.countP fun edge => decide (edge.1 ∉ seen)

theorem openEdges_nil (hierarchy : Hierarchy) : hierarchy.openEdges [] = hierarchy.edges.length := by
  simp [openEdges]

/-- To follow a new node closes just the edges whose ends may become pending. -/
theorem openEdges_follow (hierarchy : Hierarchy) {node : Nat} {seen : List Nat} (fresh : node ∉ seen) :
    (hierarchy.neighbours node).length + hierarchy.openEdges (node :: seen) =
      hierarchy.openEdges seen := by
  simp only [neighbours, List.length_map, openEdges, ← List.countP_eq_length_filter]
  induction hierarchy.edges with
  | nil => rfl
  | cons edge edges ih =>
    have here : (if edge.1 == node then 1 else 0) + (if decide (edge.1 ∉ node :: seen) then 1 else 0) =
        if decide (edge.1 ∉ seen) then 1 else 0 := by
      by_cases follows : edge.1 = node
      · simp [follows, fresh]
      · simp [follows]
    simp only [List.countP_cons]
    omega

theorem mem_unseen {hierarchy : Hierarchy} {node above : Nat} {seen : List Nat} :
    above ∈ hierarchy.unseen node seen ↔ (node, above) ∈ hierarchy.edges ∧ above ∉ seen := by
  simp [unseen, mem_neighbours]

theorem length_unseen_le (hierarchy : Hierarchy) (node : Nat) (seen : List Nat) :
    (hierarchy.unseen node seen).length ≤ (hierarchy.neighbours node).length := by
  rw [unseen, List.length_reverse]
  exact List.length_filter_le _ _

/-- What holds between steps of the search from `root`: everything met stands above the root, and
the edges of nodes already followed lead to nodes met. -/
structure Searching (hierarchy : Hierarchy) (root : Nat) (pending seen : List Nat) : Prop where
  above : ∀ node, node ∈ seen ∨ node ∈ pending → hierarchy.Leads root node
  met : root ∈ seen ∨ root ∈ pending
  followed : ∀ node ∈ seen, ∀ above, (node, above) ∈ hierarchy.edges →
    above ∈ seen ∨ above ∈ pending

namespace Searching

variable {hierarchy : Hierarchy} {root node : Nat} {pending seen : List Nat}

theorem start (hierarchy : Hierarchy) (root : Nat) : hierarchy.Searching root [root] [] where
  above := by
    rintro node (member | member)
    · cases member
    · rw [List.mem_singleton.mp member]
      exact .refl
  met := .inr (List.mem_singleton_self root)
  followed := by simp

theorem skip (search : hierarchy.Searching root (node :: pending) seen) (old : node ∈ seen) :
    hierarchy.Searching root pending seen := by
  have move (other : Nat) (member : other ∈ seen ∨ other ∈ node :: pending) :
      other ∈ seen ∨ other ∈ pending := by
    rcases member with member | member
    · exact .inl member
    · rcases List.mem_cons.mp member with rfl | member
      · exact .inl old
      · exact .inr member
  refine ⟨?_, move root search.met, ?_⟩
  · intro other member
    exact search.above other (member.imp_right (List.mem_cons_of_mem node))
  · intro other member above edge
    exact move above (search.followed other member above edge)

theorem follow (search : hierarchy.Searching root (node :: pending) seen) :
    hierarchy.Searching root (hierarchy.unseen node (node :: seen) ++ pending) (node :: seen) := by
  have here : hierarchy.Leads root node := search.above node (.inr List.mem_cons_self)
  have move (other : Nat) (member : other ∈ seen ∨ other ∈ node :: pending) :
      other ∈ node :: seen ∨ other ∈ hierarchy.unseen node (node :: seen) ++ pending := by
    rcases member with member | member
    · exact .inl (List.mem_cons_of_mem node member)
    · rcases List.mem_cons.mp member with rfl | member
      · exact .inl List.mem_cons_self
      · exact .inr (List.mem_append_right _ member)
  refine ⟨?_, move root search.met, ?_⟩
  · rintro other (member | member)
    · rcases List.mem_cons.mp member with rfl | member
      · exact here
      · exact search.above other (.inl member)
    · rcases List.mem_append.mp member with onward | member
      · exact here.tail (mem_unseen.mp onward).1
      · exact search.above other (.inr (List.mem_cons_of_mem node member))
  · intro other member above edge
    rcases List.mem_cons.mp member with rfl | member
    · by_cases met : above ∈ other :: seen
      · exact .inl met
      · exact .inr (List.mem_append_left _ (mem_unseen.mpr ⟨edge, met⟩))
    · exact move above (search.followed other member above edge)

/-- With nothing pending the nodes followed are closed under edges. -/
theorem finish (search : hierarchy.Searching root [] seen) (node : Nat) :
    node ∈ seen ↔ hierarchy.Leads root node := by
  constructor
  · intro member
    exact search.above node (.inl member)
  · intro path
    induction path with
    | refl => simpa using search.met
    | tail _ edge ih => simpa using search.followed _ ih _ edge

end Searching

/-- One step per pending node and one per open edge are enough: the invariant is kept by either step, and the
sum falls with the fuel. -/
theorem mem_reachedWithin {hierarchy : Hierarchy} {root : Nat} (fuel : Nat) (pending seen : List Nat)
    (search : hierarchy.Searching root pending seen)
    (enough : pending.length + hierarchy.openEdges seen ≤ fuel) (node : Nat) :
    node ∈ hierarchy.reachedWithin fuel pending seen ↔ hierarchy.Leads root node := by
  induction fuel generalizing pending seen with
  | zero =>
    have nothing : pending = [] := List.eq_nil_of_length_eq_zero (by omega)
    subst nothing
    exact search.finish node
  | succ fuel ih =>
    cases pending with
    | nil => exact search.finish node
    | cons first pending =>
      simp only [List.length_cons] at enough
      simp only [reachedWithin, List.contains_iff_mem]
      split
      · next old => exact ih pending seen (search.skip old) (by omega)
      · next fresh =>
        have spent := hierarchy.openEdges_follow fresh
        have fewer := hierarchy.length_unseen_le first (first :: seen)
        apply ih _ _ search.follow
        rw [List.length_append]
        omega

theorem mem_reached {hierarchy : Hierarchy} {root node : Nat} :
    node ∈ hierarchy.reached root ↔ hierarchy.Leads root node := by
  apply mem_reachedWithin _ _ _ (.start hierarchy root)
  rw [openEdges_nil, List.length_singleton]
  omega

/-- A name with anything above it has a node. -/
theorem Reaches.eq_or_mem {hierarchy : Hierarchy} {child ancestor : String}
    (path : hierarchy.Reaches child ancestor) : child = ancestor ∨ child ∈ hierarchy.classes := by
  rcases path.cases_head with same | ⟨parent, edge, _⟩
  · exact .inl same
  · obtain ⟨_, _, atChild, _⟩ := exists_mem_edges_iff.mp edge
    exact .inr (List.mem_of_getElem? atChild)

/-- Of two names the search is put to their nodes. -/
theorem isSubclassOf_iff_of_ne {hierarchy : Hierarchy} {child ancestor : String} (differ : child ≠ ancestor) :
    hierarchy.isSubclassOf child ancestor ↔
      ∃ start target, hierarchy.classes[start]? = some child ∧
        hierarchy.classes[target]? = some ancestor ∧ hierarchy.Leads start target := by
  simp only [isSubclassOf, ← lookup_eq_some_iff, ← mem_reached]
  cases hierarchy.index.lookup child <;> cases hierarchy.index.lookup ancestor <;> simp [differ]

theorem isSubclassOf_iff {hierarchy : Hierarchy} {child ancestor : String} :
    hierarchy.isSubclassOf child ancestor ↔ hierarchy.Reaches child ancestor := by
  by_cases same : child = ancestor
  · subst same
    exact iff_of_true (hierarchy.isSubclassOf_self child) .refl
  · rw [isSubclassOf_iff_of_ne same]
    constructor
    · rintro ⟨start, target, atChild, atAncestor, path⟩
      exact (reaches_iff_leads atChild).mpr ⟨target, atAncestor, path⟩
    · intro path
      obtain ⟨start, atChild⟩ := List.mem_iff_getElem?.mp (path.eq_or_mem.resolve_left same)
      obtain ⟨target, atAncestor, path⟩ := (reaches_iff_leads atChild).mp path
      exact ⟨start, target, atChild, atAncestor, path⟩

theorem isSubclassOf_ofEntries {entries : List Entry} {child ancestor : String} :
    (ofEntries entries).isSubclassOf child ancestor ↔ Chain entries child ancestor :=
  isSubclassOf_iff.trans reaches_ofEntries

/-- A class with anything above it is recorded. -/
theorem Chain.eq_or_contains {entries : List Entry} {child ancestor : String}
    (chain : Chain entries child ancestor) :
    child = ancestor ∨ (ofEntries entries).contains child := by
  rcases chain.cases_head with same | ⟨parent, ⟨entry, member, rfl, _⟩, _⟩
  · exact .inl same
  · exact .inr (contains_iff.mpr ⟨entry, member, List.mem_cons_self⟩)

theorem records_append {entries added : List Entry} {child parent : String} :
    Records (entries ++ added) child parent ↔
      Records entries child parent ∨ Records added child parent := by
  simp only [Records, List.mem_append, or_and_right, exists_or]

theorem Chain.append {entries added : List Entry} {child ancestor : String}
    (chain : Chain entries child ancestor) : Chain (entries ++ added) child ancestor := by
  apply Relation.ReflTransGen.mono _ child ancestor chain
  intro child parent recorded
  exact records_append.mpr (.inl recorded)

end PropertyAudit.Hierarchy
