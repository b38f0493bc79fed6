import PropertyAudit.Pattern.Tree

/-! Patterns in a simple form. Characters that follow each other are one text, nested sequences and
nested choices are flat, a choice of characters is a set, and parts that all choices begin with
stand before the choice. How much room a compiled pattern takes hangs on this form. -/
namespace PropertyAudit.Pattern

open Unicode (Ranges)

inductive Regex where
  | empty
  | literal (chars : List Char)
  | set (chars : Ranges)
  | look (condition : Look)
  | group (inner : Regex) (number : Nat)
  | concat (parts : List Regex)
  | alternate (choices : List Regex)
  | repeated (inner : Regex) (least : Nat) (most : Option Nat) (greedy : Bool)

namespace Regex

mutual
def same : Regex → Regex → Bool
  | empty, empty => true
  | literal a, literal b => a == b
  | set a, set b => a == b
  | look a, look b => a == b
  | group a m, group b n => m == n && same a b
  | concat as, concat bs => sameAll as bs
  | alternate as, alternate bs => sameAll as bs
  | repeated a least most greedy, repeated b least' most' greedy' =>
    least == least' && most == most' && greedy == greedy' && same a b
  | _, _ => false

def sameAll : List Regex → List Regex → Bool
  | [], [] => true
  | a :: as, b :: bs => same a b && sameAll as bs
  | _, _ => false
end

mutual
/-- Whether every match is empty. A set without members has no match and does not count. -/
def onlyEmpty : Regex → Bool
  | empty | look _ => true
  | literal _ | set _ => false
  | group inner _ => inner.onlyEmpty
  | concat parts | alternate parts => allOnlyEmpty parts
  | repeated inner _ most _ => most.isSome && inner.onlyEmpty

def allOnlyEmpty : List Regex → Bool
  | [] => true
  | part :: parts => part.onlyEmpty && allOnlyEmpty parts
end

mutual
/-- The least number of characters of a match; nothing when a part has no match. -/
def shortest? : Regex → Option Nat
  | empty | look _ => some 0
  | literal chars => some chars.length
  | set chars => if chars.isEmpty then none else some 1
  | group inner _ => inner.shortest?
  | concat parts => shortestOfAll? parts
  | alternate choices => shortestOfAny? choices
  | repeated inner least _ _ => inner.shortest?.map (least * ·)

def shortestOfAll? : List Regex → Option Nat
  | [] => some 0
  | part :: parts => do some ((← part.shortest?) + (← shortestOfAll? parts))

def shortestOfAny? : List Regex → Option Nat
  | [] => none
  | [only] => only.shortest?
  | choice :: choices => do some (min (← choice.shortest?) (← shortestOfAny? choices))
end

def neverEmpty (regex : Regex) : Bool := regex.shortest?.any (0 < ·)

inductive Direction where
  | forward
  | backward
deriving DecidableEq

def Direction.arrange (direction : Direction) (parts : List α) : List α :=
  match direction with
  | forward => parts
  | backward => parts.reverse

mutual
/-- Whether every match begins where the text does, or for `backward` ends where it ends, as the
conditions at that side show. -/
def anchored (direction : Direction) : Regex → Bool
  | empty | literal _ | set _ => false
  | look condition =>
    condition == match direction with | .forward => .textStart | .backward => .textEnd
  | group inner _ => inner.anchored direction
  | concat parts =>
    match direction with
    | .forward => anchoredFirst direction parts
    | .backward => (anchoredLast direction parts).1
  | alternate choices => anchoredAll direction choices
  | repeated inner least _ _ => least != 0 && inner.anchored direction

/-- Whether one of the first parts is anchored, up to the first that takes characters. -/
def anchoredFirst (direction : Direction) : List Regex → Bool
  | [] => false
  | part :: parts =>
    part.anchored direction || (part.onlyEmpty && anchoredFirst direction parts)

/-- Likewise for the last parts; tells also whether all parts take no characters. -/
def anchoredLast (direction : Direction) : List Regex → Bool × Bool
  | [] => (false, true)
  | part :: parts =>
    let (found, bare) := anchoredLast direction parts
    (found || (bare && part.anchored direction), bare && part.onlyEmpty)

def anchoredAll (direction : Direction) : List Regex → Bool
  | [] => true
  | choice :: choices => choice.anchored direction && anchoredAll direction choices
end

/-! ### Forms made simple -/

def ofSet (chars : Ranges) : Regex :=
  match chars.bounds with
  | [(first, last)] => if first = last then literal [Char.ofNat first] else set chars
  | _ => set chars

def joinLiteral : Regex → List Regex → List Regex
  | literal chars, literal more :: parts => literal (chars ++ more) :: parts
  | part, parts => part :: parts

def sequence (parts : List Regex) : Regex :=
  let flat := parts.flatMap fun
    | concat inner => inner
    | empty => []
    | part => [part]
  match flat.foldr joinLiteral [] with
  | [] => empty
  | [only] => only
  | joined => concat joined

def characters? : List Regex → Option (List Nat)
  | [] => some []
  | literal [c] :: rest => (characters? rest).map (c.toNat :: ·)
  | _ => none

def sets? : List Regex → Option (List Ranges)
  | [] => some []
  | set chars :: rest => (sets? rest).map (chars :: ·)
  | _ => none

/-- A flat choice without regard to what its members begin with. -/
def plainChoice (choices : List Regex) : Regex :=
  let flat := choices.flatMap fun
    | alternate inner => inner
    | choice => [choice]
  match flat with
  | [] => set .empty
  | [only] => only
  | flat =>
    match characters? flat with
    | some codes => ofSet (.ofCodes codes)
    | none =>
      match sets? flat with
      | some sets => ofSet (.unions sets)
      | none => alternate flat

def commonPrefix : List Regex → List Regex → List Regex
  | a :: as, b :: bs => if same a b then a :: commonPrefix as bs else []
  | _, _ => []

def sequences? : List Regex → Option (List (List Regex))
  | [] => some []
  | concat parts :: rest => (sequences? rest).map (parts :: ·)
  | _ => none

/-- A choice, after the parts that all its members begin with. Members whose common parts were taken
away begin differently, so this need not be repeated. -/
def choice (choices : List Regex) : Regex :=
  match plainChoice choices with
  | alternate flat =>
    match sequences? flat with
    | some (first :: others) =>
      let shared := others.foldl commonPrefix first
      if shared.isEmpty then alternate flat
      else
        let rests := (first :: others).map fun parts => sequence (parts.drop shared.length)
        sequence (shared ++ [plainChoice rests])
    | _ => alternate flat
  | simple => simple

/-- A repetition. What matches only where nothing is taken need not be repeated. -/
def repetition (inner : Regex) (least : Nat) (most : Option Nat) (greedy : Bool) : Regex :=
  let least := if inner.onlyEmpty then min least 1 else least
  let most := if inner.onlyEmpty then some (min (most.getD 1) 1) else most
  match least, most with
  | 0, some 0 => empty
  | 1, some 1 => inner
  | least, most => repeated inner least most greedy

mutual
def ofTree : Tree → Regex
  | .empty => empty
  | .look condition => look condition
  | .set chars _ => ofSet chars
  | .group inner none => ofTree inner
  | .group inner (some number) => group (ofTree inner) number
  | .concat parts => sequence (ofTrees parts)
  | .alternate choices => choice (ofTrees choices)
  | .repeated inner least most greedy => repetition (ofTree inner) least most greedy

def ofTrees : List Tree → List Regex
  | [] => []
  | tree :: trees => ofTree tree :: ofTrees trees
end

end Regex
end PropertyAudit.Pattern
