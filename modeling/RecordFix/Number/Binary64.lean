/-!
# Binary numbers of sixty-four bits

A finite number of the format is `mantissa · 2 ^ exponent` with a mantissa below 2⁵³ and an exponent
from -1074 to 971. Everything here is exact arithmetic on natural numbers: `nearest` is the one
place where a number is rounded, to the nearest member of the format and to the even one of two.
-/

namespace RecordFix.Number

/-- The size of a finite number of the format, without its sign. -/
structure Magnitude where
  mantissa : Nat
  exponent : Int
  deriving DecidableEq, Repr

namespace Magnitude

/-- The magnitude zero. -/
def zero : Magnitude := ⟨0, -1074⟩

/-- The magnitude as a fraction. -/
def fraction (x : Magnitude) : Nat × Nat :=
  if 0 ≤ x.exponent then (x.mantissa * Nat.pow 2 x.exponent.toNat, 1)
  else (x.mantissa, Nat.pow 2 (-x.exponent).toNat)

/-- The quotient rounded to the nearest whole number, a half to the even neighbour. -/
def roundQuotient (num den : Nat) : Nat :=
  let q := num / den
  let r := num % den
  if den < 2 * r || (2 * r == den && q % 2 == 1) then q + 1 else q

/-- The exponent at which a positive fraction has fifty-three binary digits, or the lowest one. -/
def exponentOf (num den : Nat) : Int :=
  let k : Int := (num.log2 : Int) - den.log2
  let below := if 0 ≤ k then num < den * Nat.pow 2 k.toNat else num * Nat.pow 2 (-k).toNat < den
  max (if below then k - 53 else k - 52) (-1074)

/-- The member of the format nearest to a fraction; none if the fraction is beyond all of them. -/
def nearest (num den : Nat) : Option Magnitude :=
  if num = 0 then some zero
  else
    let e := exponentOf num den
    let m := if 0 ≤ e then roundQuotient num (den * Nat.pow 2 e.toNat)
      else roundQuotient (num * Nat.pow 2 (-e).toNat) den
    let x : Magnitude := if m = 0x20000000000000 then ⟨0x10000000000000, e + 1⟩ else ⟨m, e⟩
    if 971 < x.exponent then none else some x

/-- The rounded product. -/
def mul (x y : Magnitude) : Option Magnitude :=
  nearest (x.fraction.1 * y.fraction.1) (x.fraction.2 * y.fraction.2)

/-- The rounded quotient by a number that is not zero. -/
def div (x y : Magnitude) : Option Magnitude :=
  nearest (x.fraction.1 * y.fraction.2) (x.fraction.2 * y.fraction.1)

end Magnitude

/-- A finite number of the format with its sign, which zero has too. -/
structure Binary64 where
  negative : Bool
  magnitude : Magnitude
  deriving DecidableEq, Repr

end RecordFix.Number
