/-! Sets of code points as ascending lists of closed ranges that leave gaps between them. Tables
give sets as text: blank separated items in hexadecimal, each a code point, two code points joined
by a hyphen, or such a pair with a step (`100-12E/2` for every second one). -/
namespace PropertyAudit.Unicode

def hexDigit? (c : Char) : Option Nat :=
  if '0' ≤ c && c ≤ '9' then some (c.toNat - '0'.toNat)
  else if 'a' ≤ c && c ≤ 'f' then some (c.toNat - 'a'.toNat + 10)
  else if 'A' ≤ c && c ≤ 'F' then some (c.toNat - 'A'.toNat + 10)
  else none

/-- The value of a text of hexadecimal digits, if it holds at least one and nothing else. -/
def hexadecimal? (text : String) : Option Nat :=
  match text.toList with
  | [] => none
  | digits => digits.foldlM (fun value c => (hexDigit? c).map (16 * value + ·)) 0

def lastCode : Nat := 0x10FFFF

/-- The next code point that is a character: surrogates are passed over. -/
def after (code : Nat) : Nat := if code = 0xD7FF then 0xE000 else code + 1

/-- The code point before that is a character. -/
def before (code : Nat) : Nat := if code = 0xE000 then 0xD7FF else code - 1

structure Ranges where
  bounds : List (Nat × Nat)
deriving BEq

namespace Ranges

def empty : Ranges := ⟨[]⟩

def all : Ranges := ⟨[(0, lastCode)]⟩

def isEmpty (ranges : Ranges) : Bool := ranges.bounds.isEmpty

def contains (ranges : Ranges) (code : Nat) : Bool :=
  ranges.bounds.any fun (first, last) => first ≤ code && code ≤ last

def isBelow (ranges : Ranges) (bound : Nat) : Bool := ranges.bounds.all (·.2 < bound)

/-- Whether two ranges overlap or follow each other without a gap. -/
def touch (a b : Nat × Nat) : Bool := max a.1 b.1 ≤ min a.2 b.2 + 1

/-- Joins the ranges that touch, `current` being the one before all others. -/
def joined (current : Nat × Nat) : List (Nat × Nat) → List (Nat × Nat)
  | [] => [current]
  | next :: rest =>
    if touch current next then joined (min current.1 next.1, max current.2 next.2) rest
    else current :: joined next rest

/-- The set of the members of some ranges, whatever their order. -/
def ofList (bounds : List (Nat × Nat)) : Ranges :=
  match bounds.mergeSort fun a b => a.1 < b.1 || (a.1 == b.1 && a.2 ≤ b.2) with
  | [] => empty
  | first :: rest => ⟨joined first rest⟩

def ofCodes (codes : List Nat) : Ranges := ofList (codes.map fun code => (code, code))

def unions (sets : List Ranges) : Ranges := ofList (sets.flatMap (·.bounds))

def union (a b : Ranges) : Ranges := unions [a, b]

def intersections : Nat → List (Nat × Nat) → List (Nat × Nat) → List (Nat × Nat)
  | 0, _, _ | _, [], _ | _, _, [] => []
  | fuel + 1, a :: as, b :: bs =>
    let others :=
      if a.2 < b.2 then intersections fuel as (b :: bs) else intersections fuel (a :: as) bs
    let common := (max a.1 b.1, min a.2 b.2)
    if common.1 ≤ common.2 then common :: others else others

def intersection (a b : Ranges) : Ranges :=
  ⟨intersections (a.bounds.length + b.bounds.length) a.bounds b.bounds⟩

/-- The gaps that ascending ranges leave behind the first of them. -/
def gapsAfter : List (Nat × Nat) → List (Nat × Nat)
  | [] => []
  | [last] => if last.2 < lastCode then [(after last.2, lastCode)] else []
  | a :: b :: rest => (after a.2, before b.1) :: gapsAfter (b :: rest)

/-- All gaps. Where two ranges meet across the surrogates the gap between them ends before it
begins. -/
def gaps : List (Nat × Nat) → List (Nat × Nat)
  | [] => [(0, lastCode)]
  | a :: rest => if 0 < a.1 then (0, before a.1) :: gapsAfter (a :: rest) else gapsAfter (a :: rest)

/-- All other characters. A gap that ends before it begins counts as the two characters at its ends.
-/
def complement (ranges : Ranges) : Ranges :=
  ⟨(gaps ranges.bounds).map fun gap => (min gap.1 gap.2, max gap.1 gap.2)⟩

def without (ranges removed : Ranges) : Ranges :=
  ranges.intersection ⟨(gaps removed.bounds).filter fun gap => gap.1 ≤ gap.2⟩

def symmetricDifference (a b : Ranges) : Ranges := (a.union b).without (a.intersection b)

/-- The pairs whose first part is a member, out of an ascending list. -/
def meeting : Nat → List (Nat × Nat) → List (Nat × α) → List (Nat × α)
  | 0, _, _ | _, [], _ | _, _, [] => []
  | fuel + 1, range :: ranges, pair :: pairs =>
    if pair.1 < range.1 then meeting fuel (range :: ranges) pairs
    else if range.2 < pair.1 then meeting fuel ranges (pair :: pairs)
    else pair :: meeting fuel (range :: ranges) pairs

def within (ranges : Ranges) (pairs : List (Nat × α)) : List (Nat × α) :=
  meeting (ranges.bounds.length + pairs.length) ranges.bounds pairs

def ofText (text : String) : List (Nat × Nat) :=
  (text.splitOn " ").flatMap fun item =>
    match item.splitOn "-" with
    | [one] => ((hexadecimal? one).map fun code => (code, code)).toList
    | [first, last] =>
      match hexadecimal? first, last.splitOn "/" with
      | some first, [last] => ((hexadecimal? last).map fun last => (first, last)).toList
      | some first, [last, step] =>
        match hexadecimal? last, hexadecimal? step with
        | some last, some step => (List.range ((last - first) / step + 1)).map fun n =>
            (first + n * step, first + n * step)
        | _, _ => []
      | _, _ => []
    | _ => []

def ofTexts (texts : List String) : Ranges := ⟨texts.flatMap ofText⟩

end Ranges
end PropertyAudit.Unicode
