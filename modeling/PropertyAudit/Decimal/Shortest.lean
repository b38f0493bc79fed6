import PropertyAudit.Decimal.Binary64

/-! Decimal text of binary numbers: the fewest digits that read back, and a fixed number of places.
-/
namespace PropertyAudit.Decimal

def decimalLength (n : Nat) : Nat := (Nat.toDigits 10 n).length

/-- The exponent `p` with `10 ^ p ≤ num / den < 10 ^ (p + 1)`. -/
def leadingExponent (num den : Nat) : Int :=
  let guess := (decimalLength num : Int) - decimalLength den
  let (n, d) := scaledRatio 10 num den (-guess)
  if d ≤ n then guess else guess - 1

/-- Digits of a decimal number and the exponent of the first of them. -/
structure Digits where
  digits : List Char
  exponent : Int

namespace Binary64

/-- Whether `n * 10 ^ power` lies so near to `a` that it reads back as `a`: within half the distance
to the neighbour on that side, the middle included when the mantissa is even. -/
def readsBack (a : Binary64) (n : Nat) (power : Int) : Bool :=
  let lower := if a.mantissa = leastFull && leastExponent < a.exponent then 1 else 2
  let (below, unit) := scaledRatio 2 (4 * a.mantissa - lower) 1 (a.exponent - 2)
  let (above, _) := scaledRatio 2 (4 * a.mantissa + 2) 1 (a.exponent - 2)
  let (num, den) := scaledRatio 10 n 1 power
  let inside := below * den < num * unit && num * unit < above * den
  let edge := below * den == num * unit || num * unit == above * den
  inside || edge && a.mantissa % 2 == 0

/-- The two neighbours of `a` on the grid of `10 ^ power` that read back, the nearer one first. -/
def onGrid (a : Binary64) (power : Int) : List Nat :=
  let (num, den) := a.ratio
  let (n, d) := scaledRatio 10 num den (-power)
  let down := n / d
  let order := if roundDiv n d = down then [down, down + 1] else [down + 1, down]
  order.filter (a.readsBack · power)

/-- The first grid, from coarse to fine, that holds a number reading back as `a`. -/
def shortestFrom (a : Binary64) (leading : Int) : Nat → Nat → Digits
  | 0, _ => ⟨['0'], 0⟩
  | steps + 1, count =>
    match a.onGrid (leading - count + 1) with
    | n :: _ =>
      let digits := Nat.toDigits 10 n
      let kept := (digits.reverse.dropWhile (· == '0')).reverse
      ⟨kept, leading + digits.length - count⟩
    | [] => shortestFrom a leading steps (count + 1)

def shortest (a : Binary64) : Digits :=
  if a.mantissa = 0 then ⟨['0'], 0⟩
  else
    let (num, den) := a.ratio
    a.shortestFrom (leadingExponent num den) 17 1

def positional (exponent : Int) : Bool := -5 ≤ exponent && exponent ≤ 15

/-- The shortest text that reads back: positional, with at least one place, for the exponents of
`positional`, and otherwise one digit before the point and a signed exponent. -/
def text (a : Binary64) : String :=
  let ⟨digits, exponent⟩ := a.shortest
  let sign := if a.negative then "-" else ""
  let body :=
    if positional exponent then
      if exponent < 0 then
        "0." ++ String.ofList (List.replicate (-exponent - 1).toNat '0' ++ digits)
      else
        let whole := exponent.toNat + 1
        let before := digits.take whole ++ List.replicate (whole - digits.length) '0'
        let after := digits.drop whole
        String.ofList before ++ "." ++ (if after.isEmpty then "0" else String.ofList after)
    else
      let mark := if exponent < 0 then "e-" else "e+"
      let fraction := match digits with
        | first :: second :: rest => String.ofList (first :: '.' :: second :: rest)
        | few => String.ofList few
      fraction ++ mark ++ toString exponent.natAbs
  sign ++ body

/-- The text with exactly `places` digits after the point, a half going to the even neighbour. -/
def fixed (a : Binary64) (places : Nat) : String :=
  let (num, den) := a.ratio
  let unit := Nat.pow 10 places
  let scaled := roundDiv (num * unit) den
  let digits := Nat.toDigits 10 (scaled % unit)
  let fraction := List.replicate (places - digits.length) '0' ++ digits
  (if a.negative then "-" else "") ++ toString (scaled / unit) ++
    (if places = 0 then "" else "." ++ String.ofList fraction)

end Binary64
end PropertyAudit.Decimal
