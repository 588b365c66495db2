/-!
# Rounded ratios

Nonnegative ratios of natural numbers, rounded in two ways: to a whole number, and to the nearest
number with 53 significant binary digits. Both send a tie to the even neighbour.
-/

namespace Conformance

/-- A nonnegative ratio. The denominator is meant to be positive. -/
structure Ratio where
  num : Nat
  den : Nat
  deriving DecidableEq, Repr

namespace Ratio

/-- The nearest whole number, the even one of two. -/
def round (r : Ratio) : Nat :=
  let whole := r.num / r.den
  let twice := 2 * (r.num % r.den)
  if twice < r.den ∨ (twice = r.den ∧ whole % 2 = 0) then whole else whole + 1

def add (a b : Ratio) : Ratio := ⟨a.num * b.den + b.num * a.den, a.den * b.den⟩

/-- The ratio divided by a power of two. -/
def scaleDown (r : Ratio) (exponent : Int) : Ratio :=
  ⟨r.num <<< (-exponent).toNat, r.den <<< exponent.toNat⟩

/-- The exponent of the last of 53 significant binary digits. -/
def lastExponent (r : Ratio) : Int :=
  let guess : Int := (Nat.log2 r.num : Int) - (Nat.log2 r.den : Int) - 52
  let scaled := r.scaleDown guess
  if scaled.num / scaled.den < 0x10000000000000 then guess - 1 else guess

/-- The nearest number with 53 significant binary digits, the one with the even last digit of
    two. -/
def toDouble (r : Ratio) : Ratio :=
  if r.num = 0 then ⟨0, 1⟩
  else
    let exponent := r.lastExponent
    scaleDown ⟨(r.scaleDown exponent).round, 1⟩ (-exponent)

end Ratio
end Conformance
