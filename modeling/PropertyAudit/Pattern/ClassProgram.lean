import Std.Data.HashMap
import PropertyAudit.Pattern.Program
import PropertyAudit.Unicode.Ranges

/-! The part of a program that reads one character of a set. Encodings share states: read forward
they share how they end, read backward how they begin. Shared states are found again in a table with
a fixed number of places, in which a later state may drive out an earlier one. -/
namespace PropertyAudit.Pattern.ClassProgram

open Text (ByteRange)
open Unicode (Ranges)
open Program (Builder Fragment)

/-! ### Finding states again -/

def mix (hash value : UInt64) : UInt64 := (hash ^^^ value) * 1099511628211

def hashOf (values : List UInt64) : UInt64 := values.foldl mix 14695981039346656037

/-- States by what they are made of, in as many places as the table has. -/
structure Places (α : Type) where
  count : UInt64
  taken : Std.HashMap UInt64 (α × Nat)

namespace Places

def find? [BEq α] (places : Places α) (key : α) (values : List UInt64) : Option Nat :=
  match places.taken[hashOf values % places.count]? with
  | some (other, state) => if other == key then some state else none
  | none => none

def put (places : Places α) (key : α) (values : List UInt64) (state : Nat) : Places α :=
  { places with taken := places.taken.insert (hashOf values % places.count) (key, state) }

end Places

/-! ### Forward -/

/-- A state under construction: its finished edges, and the bytes of the edge still open. -/
structure Growing where
  edges : List Edge
  opened : Option ByteRange

def Growing.closedWith (growing : Growing) (next : Nat) : List Edge :=
  match growing.opened with
  | some range => growing.edges ++ [⟨range, next⟩]
  | none => growing.edges

abbrev Sharing := StateT (Places (List Edge)) Builder

def edgeValues (edges : List Edge) : List UInt64 :=
  edges.flatMap fun edge =>
    [edge.range.first.toUInt64, edge.range.last.toUInt64, edge.next.toUInt64]

/-- The state with the given edges, built only if it is not found. -/
def shared (edges : List Edge) : Sharing Nat := do
  let values := edgeValues edges
  match (← get).find? edges values with
  | some state => return state
  | none =>
    let state ← Program.addBytes edges
    modify (·.put edges values state)
    return state

/-- Finishes the states beyond the first `kept + 1`, of which the last stands first, and closes the
open edge of the last one left. -/
def settle (kept next : Nat) : List Growing → Sharing (List Growing)
  | [] => pure []
  | growing :: rest => do
    if kept < rest.length then settle kept (← shared (growing.closedWith next)) rest
    else return ⟨growing.closedWith next, none⟩ :: rest

/-- How many of the first ranges the open edges spell already. -/
def spelled : List ByteRange → List Growing → Nat
  | range :: ranges, growing :: rest =>
    if growing.opened == some range then spelled ranges rest + 1 else 0
  | _, _ => 0

def opening (ranges : List ByteRange) : List Growing → List Growing
  | [] => []
  | growing :: rest =>
    match ranges with
    | [] => growing :: rest
    | range :: ranges =>
      (ranges.map fun range => ⟨[], some range⟩).reverse ++
        { growing with opened := some range } :: rest

def spell (stop : Nat) (growing : List Growing) (ranges : List ByteRange) :
    Sharing (List Growing) := do
  let kept := spelled ranges growing.reverse
  let growing ← settle kept stop growing
  return opening (ranges.drop kept) growing

def forwardStates (stop : Nat) (encodings : List (List ByteRange)) : Sharing Nat := do
  let growing ← encodings.foldlM (spell stop) [⟨[], none⟩]
  let growing ← settle 0 stop growing
  shared (growing.flatMap (·.edges))

def forward (encodings : List (List ByteRange)) : Builder Fragment := do
  let stop ← Program.addJump
  let (start, _) ← (forwardStates stop encodings).run ⟨10000, ∅⟩
  return ⟨start, stop⟩

/-! ### Backward -/

/-- The states that read an encoding from its end, `stop` being reached at its beginning. -/
def spellBackward (next : Nat) (places : Places Edge) :
    List ByteRange → Builder (Nat × Places Edge)
  | [] => pure (next, places)
  | range :: ranges => do
    let edge : Edge := ⟨range, next⟩
    let values := [next.toUInt64, range.first.toUInt64, range.last.toUInt64]
    match places.find? edge values with
    | some state => spellBackward state places ranges
    | none =>
      let state ← Program.addByte edge
      spellBackward state (places.put edge values state) ranges

def backwardBranches (fork stop : Nat) (places : Places Edge) :
    List (List ByteRange) → Builder Unit
  | [] => pure ()
  | encoding :: encodings => do
    let (state, places) ← spellBackward stop places encoding
    Program.connect fork state
    backwardBranches fork stop places encodings

def backward (encodings : List (List ByteRange)) : Builder Fragment := do
  let fork ← Program.addFork []
  let stop ← Program.addJump
  backwardBranches fork stop ⟨1000, ∅⟩ encodings
  return ⟨fork, stop⟩

/-! ### Both -/

def ascii (chars : Ranges) : Builder Fragment := do
  let stop ← Program.addJump
  let start ← Program.addBytes
    (chars.bounds.map fun (first, last) => ⟨⟨first.toUInt8, last.toUInt8⟩, stop⟩)
  return ⟨start, stop⟩

def encodings (chars : Ranges) : List (List ByteRange) :=
  chars.bounds.flatMap fun (first, last) => ByteRange.sequences first last

end PropertyAudit.Pattern.ClassProgram
