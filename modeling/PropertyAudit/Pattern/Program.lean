import PropertyAudit.Pattern.Look
import PropertyAudit.Text.ByteRange

/-! Programs that read a text byte by byte. A program is a list of states, and each state says which
states come next. Programs are built state by state; every state takes room, and building one that
takes more than it may fails. -/
namespace PropertyAudit.Pattern

open Text (ByteRange)

/-- A byte of the range leads to the state `next`. -/
structure Edge where
  range : ByteRange
  next : Nat
deriving Repr, DecidableEq, Inhabited

inductive State where
  | jump (next : Nat)
  | byte (edge : Edge)
  | bytes (edges : List Edge)
  | look (condition : Look) (next : Nat)
  | fork (nexts : List Nat)
  | accept
deriving Repr, DecidableEq, Inhabited

namespace State

/-- The number of states that may come next without a byte being read. -/
def width : State → Nat
  | jump _ | look _ _ => 1
  | fork nexts => nexts.length
  | byte _ | bytes _ | accept => 0

def target? (byte : UInt8) : State → Option Nat
  | .byte edge => if edge.range.contains byte then some edge.next else none
  | bytes edges => (edges.find? (·.range.contains byte)).map (·.next)
  | _ => none

/-- Points the state to another one. A fork gets one branch more. -/
def pointedTo (next : Nat) : State → State
  | jump _ => jump next
  | byte edge => byte { edge with next }
  | look condition _ => look condition next
  | fork nexts => fork (next :: nexts)
  | state => state

end State

structure Program where
  states : Array State
  start : Nat

namespace Program

/-- The bytes that a state takes, apart from what hangs on the number of its edges or branches. -/
def stateRoom : Nat := 32

def edgeRoom : Nat := 8

def branchRoom : Nat := 4

structure Draft where
  states : Array State
  /-- The room that edges and branches take. -/
  extraRoom : Nat
  /-- The room that the program may take, if it is bounded. -/
  limit : Option Nat

def Draft.room (draft : Draft) : Nat := stateRoom * draft.states.size + draft.extraRoom

def Draft.fits (draft : Draft) : Bool := draft.limit.all (draft.room ≤ ·)

abbrev Builder := StateT Draft Option

def add (state : State) (extraRoom : Nat) : Builder Nat := fun draft =>
  let number := draft.states.size
  let draft := { draft with
    states := draft.states.push state, extraRoom := draft.extraRoom + extraRoom }
  if draft.fits then some (number, draft) else none

def addJump : Builder Nat := add (.jump 0) 0

def addByte (edge : Edge) : Builder Nat := add (.byte edge) 0

def addBytes (edges : List Edge) : Builder Nat := add (.bytes edges) (edgeRoom * edges.length)

def addFork (nexts : List Nat) : Builder Nat := add (.fork nexts) (branchRoom * nexts.length)

def connect (source target : Nat) : Builder Unit := fun draft =>
  let grows := match draft.states[source]? with
    | some (.fork _) => branchRoom
    | _ => 0
  let draft := { draft with
    states := draft.states.modify source (·.pointedTo target)
    extraRoom := draft.extraRoom + grows }
  if draft.fits then some ((), draft) else none

/-- A part of a program: where it begins, and the state to be pointed to what comes after it. -/
structure Fragment where
  start : Nat
  stop : Nat

def nothing : Builder Fragment := do
  let state ← addJump
  return ⟨state, state⟩

def Fragment.followedBy (first second : Fragment) : Builder Fragment := do
  connect first.stop second.start
  return ⟨first.start, second.stop⟩

/-- Puts the fragments still to be built after the one that was. -/
def chainAfter (first : Fragment) : List (Builder Fragment) → Builder Fragment
  | [] => pure first
  | next :: rest => do
    let second ← next
    chainAfter (← first.followedBy second) rest

def chain : List (Builder Fragment) → Builder Fragment
  | [] => nothing
  | first :: rest => do chainAfter (← first) rest

def repeatedAfter (one : Builder Fragment) : Nat → Fragment → Builder Fragment
  | 0, first => pure first
  | n + 1, first => do
    let second ← one
    repeatedAfter one n (← first.followedBy second)

def exactly (one : Builder Fragment) : Nat → Builder Fragment
  | 0 => nothing
  | n + 1 => do repeatedAfter one n (← one)

def optional (one : Builder Fragment) : Builder Fragment := do
  let fork ← addFork []
  let inner ← one
  let stop ← addJump
  connect fork inner.start
  connect fork stop
  connect inner.stop stop
  return ⟨fork, stop⟩

/-- Any number of copies. A fragment that may take no bytes needs a way around it. -/
def anyNumber (one : Builder Fragment) (neverEmpty : Bool) : Builder Fragment := do
  if neverEmpty then
    let fork ← addFork []
    let inner ← one
    connect fork inner.start
    connect inner.stop fork
    return ⟨fork, fork⟩
  else
    let inner ← one
    let again ← addFork []
    connect inner.stop again
    connect again inner.start
    let around ← addFork []
    let stop ← addJump
    connect around inner.start
    connect around stop
    connect again stop
    return ⟨around, stop⟩

def atLeast (one : Builder Fragment) (neverEmpty : Bool) : Nat → Builder Fragment
  | 0 => anyNumber one neverEmpty
  | 1 => do
    let inner ← one
    let fork ← addFork []
    connect inner.stop fork
    connect fork inner.start
    return ⟨inner.start, fork⟩
  | n + 1 => do
    let first ← exactly one n
    let last ← one
    let fork ← addFork []
    connect first.stop last.start
    connect last.stop fork
    connect fork last.start
    return ⟨first.start, fork⟩

/-- Up to that many further copies after the state `stop`, each with a way past the remaining ones.
-/
def optionalCopies (one : Builder Fragment) (past : Nat) : Nat → Nat → Builder Nat
  | 0, stop => pure stop
  | n + 1, stop => do
    let fork ← addFork []
    let inner ← one
    connect stop fork
    connect fork inner.start
    connect fork past
    optionalCopies one past n inner.stop

def between (one : Builder Fragment) (least most : Nat) : Builder Fragment := do
  let first ← exactly one least
  let past ← addJump
  let stop ← optionalCopies one past (most - least) first.stop
  connect stop past
  return ⟨first.start, past⟩

def forkTo (fork stop : Nat) : List (Builder Fragment) → Builder Unit
  | [] => pure ()
  | choice :: choices => do
    let inner ← choice
    connect fork inner.start
    connect inner.stop stop
    forkTo fork stop choices

def oneOf : List (Builder Fragment) → Builder Fragment
  | [] => nothing
  | [only] => only
  | first :: second :: others => do
    let first ← first
    let second ← second
    let fork ← addFork []
    let stop ← addJump
    connect fork first.start
    connect first.stop stop
    connect fork second.start
    connect second.stop stop
    forkTo fork stop others
    return ⟨fork, stop⟩

end Program
end PropertyAudit.Pattern
