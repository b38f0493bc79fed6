/-! Binary numbers of 53 significant bits with exact arithmetic: an operation gives the number
nearest to the true result, the one with the even mantissa when two are equally near. -/
namespace PropertyAudit.Decimal

/-- The quotient rounded to the nearest natural number, a half to the even neighbour. -/
def roundDiv (num den : Nat) : Nat :=
  let quotient := num / den
  let twice := 2 * (num % den)
  if twice < den then quotient
  else if den < twice then quotient + 1
  else quotient + quotient % 2

/-- Numerator and denominator of `num / den * base ^ power`. -/
def scaledRatio (base num den : Nat) (power : Int) : Nat × Nat :=
  if 0 ≤ power then (num * Nat.pow base power.toNat, den)
  else (num, den * Nat.pow base (-power).toNat)

/-- The number `± mantissa * 2 ^ exponent`. -/
structure Binary64 where
  negative : Bool
  mantissa : Nat
  exponent : Int
deriving Repr, DecidableEq

namespace Binary64

def zero : Binary64 := ⟨false, 0, 0⟩

def leastExponent : Int := -1074

def greatestExponent : Int := 971

/-- The least mantissa of 53 bits. Only numbers with the least exponent have a smaller one. -/
def leastFull : Nat := Nat.pow 2 52

/-- The number nearest to `num / den`, unless that lies beyond the greatest one. -/
def ofRatio? (num den : Nat) : Option Binary64 :=
  if num = 0 then some zero
  else
    let guess := max leastExponent ((num.log2 : Int) - den.log2 - 53)
    let (n, d) := scaledRatio 2 num den (-guess)
    let exponent := if 2 * leastFull ≤ n / d then guess + 1 else guess
    let (n, d) := scaledRatio 2 num den (-exponent)
    let mantissa := roundDiv n d
    let (mantissa, exponent) :=
      if mantissa = 2 * leastFull then (leastFull, exponent + 1) else (mantissa, exponent)
    if greatestExponent < exponent then none else some ⟨false, mantissa, exponent⟩

def ofNat? (n : Nat) : Option Binary64 := ofRatio? n 1

def mul? (a b : Binary64) : Option Binary64 :=
  let (n, d) := scaledRatio 2 (a.mantissa * b.mantissa) 1 (a.exponent + b.exponent)
  (ofRatio? n d).map fun product => { product with negative := a.negative != b.negative }

def div? (a b : Binary64) : Option Binary64 :=
  let (n, d) := scaledRatio 2 a.mantissa b.mantissa (a.exponent - b.exponent)
  (ofRatio? n d).map fun quotient => { quotient with negative := a.negative != b.negative }

/-- Numerator and denominator of the magnitude. -/
def ratio (a : Binary64) : Nat × Nat := scaledRatio 2 a.mantissa 1 a.exponent

def powerOfTen? (n : Nat) : Option Binary64 := ofNat? (Nat.pow 10 n)

end Binary64
end PropertyAudit.Decimal
