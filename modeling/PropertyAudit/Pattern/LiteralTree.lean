import PropertyAudit.Pattern.Program

/-! A choice of texts as a tree in which texts share what they begin with. Where a text ends, the
edges so far are closed off, and later texts open new ones, so that an earlier text still comes
first. -/
namespace PropertyAudit.Pattern

open Program (Builder Fragment)

/-- The closed groups of edges, each followed by the end of a text, and the edges still open, by
byte. -/
inductive LiteralTree where
  | node (closed : List (List (UInt8 × LiteralTree))) (opened : List (UInt8 × LiteralTree))

namespace LiteralTree

def leaf : LiteralTree := node [] []

def isLeaf : LiteralTree → Bool
  | node closed opened => closed.all (·.isEmpty) && opened.isEmpty

/-- Changes the tree that a byte leads to, or puts a new one in its place among the ascending bytes.
-/
def extend (byte : UInt8) (change : LiteralTree → LiteralTree) :
    List (UInt8 × LiteralTree) → List (UInt8 × LiteralTree)
  | [] => [(byte, change leaf)]
  | (other, tree) :: edges =>
    if other < byte then (other, tree) :: extend byte change edges
    else if other == byte then (other, change tree) :: edges
    else (byte, change leaf) :: (other, tree) :: edges

def insert : List UInt8 → LiteralTree → LiteralTree
  | [], node closed opened =>
    if isLeaf (node closed opened) && !closed.isEmpty then node closed opened
    else node (closed ++ [opened]) []
  | byte :: bytes, node closed opened => node closed (extend byte (insert bytes) opened)

def ofTexts (texts : List (List UInt8)) : LiteralTree :=
  texts.foldl (fun tree text => insert text tree) leaf

/-- The state for a group of edges, added to the branches built so far. -/
def addGroup (edges : List Edge) (branches : List Nat) : Builder (List Nat) := do
  match edges with
  | [] => return branches
  | [edge] => return branches ++ [← Program.addByte edge]
  | edges => return branches ++ [← Program.addBytes edges]

mutual
/-- Builds the state that begins a tree; every text ends in the state `stop`. -/
def build (stop : Nat) : LiteralTree → Builder Nat
  | node closed opened => do
    let branches ← buildClosed stop closed []
    let branches ← addGroup (← buildEdges stop opened) branches
    Program.addFork branches

def buildClosed (stop : Nat) : List (List (UInt8 × LiteralTree)) → List Nat → Builder (List Nat)
  | [], branches => pure branches
  | edges :: groups, branches => do
    let branches ← addGroup (← buildEdges stop edges) branches
    buildClosed stop groups (branches ++ [stop])

def buildEdges (stop : Nat) : List (UInt8 × LiteralTree) → Builder (List Edge)
  | [] => pure []
  | (byte, tree) :: edges => do
    let next ← if tree.isLeaf then pure stop else build stop tree
    let others ← buildEdges stop edges
    return ⟨⟨byte, byte⟩, next⟩ :: others
end

def fragment (texts : List (List UInt8)) : Builder Fragment := do
  let stop ← Program.addJump
  let start ← build stop (ofTexts texts)
  return ⟨start, stop⟩

end LiteralTree
end PropertyAudit.Pattern
