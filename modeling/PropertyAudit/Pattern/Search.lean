import PropertyAudit.Pattern.Compiled

/-! Searching texts with a program. All states that the program may be in are followed at once, one
byte after the other, so a text takes no more steps than the program has states for each of its
bytes. -/
namespace PropertyAudit.Pattern

structure Front where
  /-- The last round in which each state was reached. -/
  rounds : Array Nat
  round : Nat
  /-- The states reached in this round that take a byte. -/
  reading : List Nat
  accepted : Bool

namespace Front

def start (program : Program) : Front := ⟨Array.replicate program.states.size 0, 1, [], false⟩

def nextRound (front : Front) : Front := { front with round := front.round + 1, reading := [] }

/-- Adds the states given and all that they lead to without a byte. No state is taken twice, so the
number of branches in the program is enough `fuel`. -/
def reach (program : Program) (holds : Look → Bool) : Nat → List Nat → Front → Front
  | 0, _, front | _, [], front => front
  | fuel + 1, state :: states, front =>
    if front.rounds[state]?.getD 0 = front.round then reach program holds fuel states front
    else
      let front := { front with rounds := front.rounds.setIfInBounds state front.round }
      match program.states[state]? with
      | some (.jump next) => reach program holds fuel (next :: states) front
      | some (.fork nexts) => reach program holds fuel (nexts ++ states) front
      | some (.look condition next) =>
        if holds condition then reach program holds fuel (next :: states) front
        else reach program holds fuel states front
      | some .accept => reach program holds fuel states { front with accepted := true }
      | some _ =>
        reach program holds fuel states { front with reading := state :: front.reading }
      | none => reach program holds fuel states front

def readByte (program : Program) (branches : Nat) (holds : Look → Bool) (front : Front)
    (byte : UInt8) : Front :=
  let targets := front.reading.filterMap fun state =>
    program.states[state]?.bind (·.target? byte)
  front.nextRound.reach program holds (branches + targets.length) targets

end Front

namespace Program

def branches (program : Program) : Nat :=
  program.states.foldl (fun sum state => sum + state.width) 0

def findsFrom (program : Program) (branches : Nat) (front : Front) :
    Option Char → List Char → Bool
  | before, [] =>
    (front.reach program (·.holds before none) (branches + 1) [program.start]).accepted
  | before, c :: rest =>
    let front := front.reach program (·.holds before (some c)) (branches + 1) [program.start]
    front.accepted ||
      let front := (String.utf8EncodeChar c).foldl
        (Front.readByte program branches (·.holds (some c) rest.head?)) front
      front.accepted || findsFrom program branches front (some c) rest

def finds (program : Program) (text : String) : Bool :=
  program.findsFrom program.branches (.start program) none text.toList

end Program
end PropertyAudit.Pattern
