import PropertyAudit.Association

/-! Classes and their direct parents, as a graph with one node for each name. A class is below another
when a path of edges leads from the node of the one to the node of the other. -/
namespace PropertyAudit

namespace Hierarchy

/-- A class with the classes it extends and the interfaces it implements. -/
structure Entry where
  name : String
  parents : List String
deriving Repr, DecidableEq

def Entry.mentioned (entry : Entry) : List String := entry.name :: entry.parents

def Entry.edges (entry : Entry) : List (String × String) := entry.parents.map (entry.name, ·)

end Hierarchy

/-- Nodes are numbered in the order in which their classes are first named. -/
structure Hierarchy where
  classes : List String
  /-- The node of each class. -/
  index : List (String × Nat)
  /-- From child to parent, the newest first. -/
  edges : List (Nat × Nat)
  indexed : Indexes index classes
  inside : ∀ edge ∈ edges, edge.1 < classes.length ∧ edge.2 < classes.length

namespace Hierarchy

def empty : Hierarchy := ⟨[], [], [], .nil, nofun⟩

def size (hierarchy : Hierarchy) : Nat := hierarchy.classes.length

def isEmpty (hierarchy : Hierarchy) : Bool := hierarchy.classes.isEmpty

def contains (hierarchy : Hierarchy) (name : String) : Bool := (hierarchy.index.lookup name).isSome

theorem inside_of_le {edges : List (Nat × Nat)} {size more : Nat}
    (inside : ∀ edge ∈ edges, edge.1 < size ∧ edge.2 < size) (le : size ≤ more) :
    ∀ edge ∈ edges, edge.1 < more ∧ edge.2 < more := by
  intro edge among
  exact (inside edge among).imp (Nat.lt_of_lt_of_le · le) (Nat.lt_of_lt_of_le · le)

/-- The node of a class. A class that has none is added. -/
def node (hierarchy : Hierarchy) (name : String) : Hierarchy × Nat :=
  match unknown : hierarchy.index.lookup name with
  | some node => (hierarchy, node)
  | none =>
    ({ classes := hierarchy.classes ++ [name]
       index := Association.put name hierarchy.classes.length hierarchy.index
       edges := hierarchy.edges
       indexed := hierarchy.indexed.push unknown
       inside := inside_of_le hierarchy.inside (List.length_append ▸ Nat.le_add_right _ _) },
      hierarchy.classes.length)

/-- Puts an edge between two nodes. One that is there stays where it is. -/
def link (hierarchy : Hierarchy) (child parent : Nat) : Hierarchy :=
  if fresh : (child < hierarchy.size ∧ parent < hierarchy.size) ∧ (child, parent) ∉ hierarchy.edges then
    { hierarchy with
      edges := (child, parent) :: hierarchy.edges
      inside := List.forall_mem_cons.mpr ⟨fresh.1, hierarchy.inside⟩ }
  else hierarchy

def addParent (child : Nat) (hierarchy : Hierarchy) (parent : String) : Hierarchy :=
  let (extended, above) := hierarchy.node parent
  extended.link child above

def addEntry (hierarchy : Hierarchy) (entry : Entry) : Hierarchy :=
  let (extended, child) := hierarchy.node entry.name
  entry.parents.foldl (addParent child) extended

def ofEntries (entries : List Entry) : Hierarchy := entries.foldl addEntry empty

/-- The nodes that edges lead to from a node, the newest first. -/
def neighbours (hierarchy : Hierarchy) (node : Nat) : List Nat :=
  (hierarchy.edges.filter (·.1 == node)).map (·.2)

/-- Direct parents in the order in which they are first recorded. -/
def parentsOf (hierarchy : Hierarchy) (name : String) : List String :=
  match hierarchy.index.lookup name with
  | none => []
  | some node => ((hierarchy.neighbours node).filterMap (hierarchy.classes[·]?)).reverse

/-- The neighbours of a node that are yet to be met. They are put on a stack one by one, so that the oldest
comes up first. -/
def unseen (hierarchy : Hierarchy) (node : Nat) (seen : List Nat) : List Nat :=
  ((hierarchy.neighbours node).filter (!seen.contains ·)).reverse

/-- The nodes reached from `pending` beside those of `seen`. Each node is followed once and each
edge puts one node among the pending, so one more step than there are edges suffices from a single
node. -/
def reachedWithin (hierarchy : Hierarchy) : Nat → List Nat → List Nat → List Nat
  | 0, _, seen => seen
  | _, [], seen => seen
  | fuel + 1, node :: pending, seen =>
    if seen.contains node then hierarchy.reachedWithin fuel pending seen
    else
      hierarchy.reachedWithin fuel (hierarchy.unseen node (node :: seen) ++ pending) (node :: seen)

def reached (hierarchy : Hierarchy) (node : Nat) : List Nat :=
  hierarchy.reachedWithin (hierarchy.edges.length + 1) [node] []

/-- Whether `child` is `ancestor` or stands below it. -/
def isSubclassOf (hierarchy : Hierarchy) (child ancestor : String) : Bool :=
  child == ancestor ||
    match hierarchy.index.lookup child, hierarchy.index.lookup ancestor with
    | some start, some target => (hierarchy.reached start).contains target
    | _, _ => false

@[simp] theorem isSubclassOf_self (hierarchy : Hierarchy) (name : String) :
    hierarchy.isSubclassOf name name := by simp [isSubclassOf]

end Hierarchy
end PropertyAudit
