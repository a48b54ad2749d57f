/-!
# Double precision numbers

The finite numbers of IEEE 754 binary64 as exact values `± significand · 2 ^ exponent`, with
rounding of a quotient to the nearest of them.  All arithmetic is exact arithmetic on natural
numbers followed by one rounding.
-/

namespace SchemaDesign.Number

/-- A finite double precision number.  The significand has at most 53 bits; it has fewer only at
the least exponent, so that equal numbers of equal sign have equal parts. -/
structure Binary64 where
  negative : Bool
  significand : Nat
  exponent : Int
deriving DecidableEq, Repr

/-- The quotient of two natural numbers, rounded to the nearest natural number; of two that are
equally near the even one is taken. -/
def roundedQuotient (numerator denominator : Nat) : Nat :=
  let quotient := numerator / denominator
  let remainder := numerator % denominator
  if 2 * remainder < denominator then quotient
  else if denominator < 2 * remainder then quotient + 1
  else if quotient % 2 = 0 then quotient
  else quotient + 1

namespace Binary64

/-- The number of bits of a significand. -/
def precision : Nat := 53

/-- The exponent of the smallest positive number. -/
def leastExponent : Int := -1074

/-- The exponent of the largest numbers. -/
def greatestExponent : Int := 971

/-- Positive or negative zero. -/
def zero (negative : Bool) : Binary64 :=
  { negative, significand := 0, exponent := leastExponent }

instance : Inhabited Binary64 := ⟨zero false⟩

/-- The numerator and denominator of `numerator / denominator / 2 ^ exponent`. -/
def scaleDown (numerator denominator : Nat) (exponent : Int) : Nat × Nat :=
  match exponent with
  | .ofNat up => (numerator, denominator * Nat.pow 2 up)
  | .negSucc down => (numerator * Nat.pow 2 (down + 1), denominator)

/-- The exponent at which the whole part of a positive quotient has `precision` bits, or the least
exponent when that is greater. -/
def exponentOf (numerator denominator : Nat) : Int :=
  let guess : Int := (numerator.log2 : Int) - denominator.log2 - precision + 1
  let (scaled, unit) := scaleDown numerator denominator guess
  let exact := if scaled / unit < Nat.pow 2 (precision - 1) then guess - 1 else guess
  max exact leastExponent

/-- The number nearest to `± numerator / denominator`, ties going to the even significand, or
nothing when it would lie beyond the largest number. -/
def ofQuotient? (negative : Bool) (numerator denominator : Nat) : Option Binary64 :=
  if numerator = 0 then some (zero negative)
  else
    let exponent := exponentOf numerator denominator
    let (scaled, unit) := scaleDown numerator denominator exponent
    let rounded := roundedQuotient scaled unit
    let (significand, exponent) :=
      if rounded = Nat.pow 2 precision then (Nat.pow 2 (precision - 1), exponent + 1) else (rounded, exponent)
    if greatestExponent < exponent then none else some { negative, significand, exponent }

/-- The number nearest to a natural number of moderate size. -/
def ofNat (n : Nat) : Binary64 :=
  (ofQuotient? false n 1).getD (zero false)

/-- The number nearest to an integer of moderate size; zero is positive. -/
def ofInt (n : Int) : Binary64 :=
  (ofQuotient? (n < 0) n.natAbs 1).getD (zero false)

/-- The numerator of the magnitude over the denominator `x.unit`. -/
def magnitude (x : Binary64) : Nat :=
  x.significand * Nat.pow 2 x.exponent.toNat

/-- The denominator of the magnitude. -/
def unit (x : Binary64) : Nat :=
  Nat.pow 2 (-x.exponent).toNat

/-- The sum, rounded to the nearest number; a sum beyond the largest number leaves the first
summand. -/
def add (x y : Binary64) : Binary64 :=
  let signed (z : Binary64) (weight : Nat) : Int :=
    if z.negative then -(z.magnitude * weight : Nat) else (z.magnitude * weight : Nat)
  let sum := signed x y.unit + signed y x.unit
  let negative := if sum = 0 then x.negative && y.negative else sum < 0
  (ofQuotient? negative sum.natAbs (x.unit * y.unit)).getD x

/-- The product of the magnitudes with the sign of the first factor. -/
def scaleUp? (x y : Binary64) : Option Binary64 :=
  ofQuotient? x.negative (x.magnitude * y.magnitude) (x.unit * y.unit)

/-- The quotient of the magnitudes with the sign of the dividend. -/
def scaleDown? (x y : Binary64) : Option Binary64 :=
  ofQuotient? x.negative (x.magnitude * y.unit) (x.unit * y.magnitude)

/-- Whether the number is zero, of either sign. -/
def isZero (x : Binary64) : Bool :=
  x.significand == 0

end Binary64

end SchemaDesign.Number
