import PropertyAudit.Pattern.ClassProgram
import PropertyAudit.Pattern.LiteralTree
import PropertyAudit.Pattern.Regex

/-! Patterns as programs. A pattern is refused when its program, or the one that reads texts
backward, takes too much room. -/
namespace PropertyAudit.Pattern

open Program (Builder Fragment)

namespace Regex

def literal? : Regex → Option (List UInt8)
  | literal chars => some (chars.flatMap String.utf8EncodeChar)
  | _ => none

def texts? (choices : List Regex) : Option (List (List UInt8)) := choices.mapM literal?

def character (direction : Direction) (chars : Unicode.Ranges) : Builder Fragment :=
  if chars.isBelow 0x80 then ClassProgram.ascii chars
  else match direction with
    | .forward => ClassProgram.forward (ClassProgram.encodings chars)
    | .backward => ClassProgram.backward (ClassProgram.encodings chars)

def byteChain (direction : Direction) (bytes : List UInt8) : Builder Fragment :=
  Program.chain ((direction.arrange bytes).map fun byte => do
    let state ← Program.addByte ⟨⟨byte, byte⟩, 0⟩
    return ⟨state, state⟩)

/-- A group leaves marks where it begins and ends, but only read forward. -/
def marked (direction : Direction) (inner : Builder Fragment) : Builder Fragment :=
  match direction with
  | .backward => inner
  | .forward => do
    let start ← Program.addJump
    let inner ← inner
    let stop ← Program.addJump
    Program.connect start inner.start
    Program.connect inner.stop stop
    return ⟨start, stop⟩

mutual
def fragment (direction : Direction) : Regex → Builder Fragment
  | empty => Program.nothing
  | literal chars => byteChain direction (chars.flatMap String.utf8EncodeChar)
  | set chars => character direction chars
  | look condition => do
    let state ← Program.add (.look condition 0) 0
    return ⟨state, state⟩
  | group inner _ => marked direction (inner.fragment direction)
  | concat parts => Program.chain (direction.arrange (fragments direction parts))
  | alternate choices =>
    match texts? choices with
    | some texts =>
      LiteralTree.fragment (texts.map direction.arrange)
    | none => Program.oneOf (fragments direction choices)
  | repeated inner least most _ =>
    let one := inner.fragment direction
    match most with
    | none => Program.atLeast one inner.neverEmpty least
    | some most =>
      if least = 0 && most = 1 then Program.optional one
      else if least = most then Program.exactly one least
      else Program.between one least most

def fragments (direction : Direction) : List Regex → List (Builder Fragment)
  | [] => []
  | part :: parts => part.fragment direction :: fragments direction parts
end

/-- What lets a match begin anywhere: any number of bytes before it. -/
def beginning (anchored : Bool) : Builder Fragment :=
  if anchored then Program.nothing
  else Program.anyNumber (ClassProgram.ascii (.ofList [(0, 0xFF)])) true

def build (direction : Direction) (regex : Regex) : Builder Nat := do
  let before ← beginning (regex.anchored direction)
  let inner ← marked direction (regex.fragment direction)
  let stop ← Program.add .accept 0
  Program.connect inner.stop stop
  Program.connect before.stop inner.start
  return inner.start

def program? (direction : Direction) (limit : Option Nat) (regex : Regex) : Option Program := do
  let (start, draft) ← (regex.build direction).run ⟨#[], 0, limit⟩
  return ⟨draft.states, start⟩

def roomLimit : Nat := 10 * 1024 * 1024

/-- A choice of at least so many texts is free of that limit. -/
def manyTexts : Nat := 3000

def limit (regex : Regex) : Option Nat :=
  match regex with
  | alternate choices =>
    if manyTexts ≤ choices.length && (texts? choices).isSome then none else some roomLimit
  | _ => some roomLimit

/-- The program of a pattern, if it takes no more room than it may in both directions. -/
def compiled? (regex : Regex) : Option Program := do
  let program ← regex.program? .forward regex.limit
  let _ ← regex.program? .backward regex.limit
  return program

end Regex
end PropertyAudit.Pattern
