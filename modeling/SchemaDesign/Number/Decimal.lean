import SchemaDesign.Number.Binary64

/-!
# Decimal text of numbers

Writing a double precision number with the fewest digits that read back, or with two places, and
reading a decimal numeral.
-/

namespace SchemaDesign.Number

/-- The decimal digits of a natural number, most significant first. -/
def digits (n : Nat) : List Char :=
  Nat.toDigits 10 n

/-- The value of a run of decimal digits. -/
def valueOfDigits (text : List Char) : Nat :=
  text.foldl (fun value c => 10 * value + (c.toNat - '0'.toNat)) 0

namespace Binary64

/-- The numbers that round to a given one form an interval.  This holds twice its lower and upper
end and twice the number itself over one denominator, and whether the ends belong to it. -/
structure Rounding where
  low : Nat
  middle : Nat
  high : Nat
  unit : Nat
  closed : Bool

/-- The interval of magnitudes that round to the magnitude of a number. -/
def rounding (x : Binary64) : Rounding :=
  let narrow := x.significand = Nat.pow 2 (precision - 1) ∧ leastExponent < x.exponent
  let up := Nat.pow 2 x.exponent.toNat
  { low := (4 * x.significand - if narrow then 1 else 2) * up
    middle := 4 * x.significand * up
    high := (4 * x.significand + 2) * up
    unit := 4 * x.unit
    closed := x.significand % 2 == 0 }

/-- Whether the quotient `numerator / denominator` lies in the interval. -/
def Rounding.contains (r : Rounding) (numerator denominator : Nat) : Bool :=
  let point := numerator * r.unit
  if r.closed then r.low * denominator ≤ point && point ≤ r.high * denominator
  else r.low * denominator < point && point < r.high * denominator

/-- A decimal significand and the power of ten it is multiplied by. -/
structure Digits where
  significand : Nat
  power : Int
deriving DecidableEq, Repr

/-- The multiple of `10 ^ power` in the interval that is nearest to its middle, ties going to the
even multiple. -/
def Rounding.onGrid? (r : Rounding) (power : Int) : Option Digits :=
  let up := Nat.pow 10 power.toNat
  let down := Nat.pow 10 (-power).toNat
  let below := r.middle * down / (r.unit * up)
  let fits (n : Nat) : Bool := r.contains (n * up) down
  let nearest := roundedQuotient (r.middle * down) (r.unit * up)
  if fits nearest then some { significand := nearest, power }
  else if fits below then some { significand := below, power }
  else if fits (below + 1) then some { significand := below + 1, power }
  else none

/-- The first grid, from coarse to fine, that meets the interval. -/
def Rounding.coarsest (r : Rounding) : Nat → Int → Digits
  | 0, power => (r.onGrid? power).getD { significand := 0, power }
  | fuel + 1, power =>
      match r.onGrid? power with
      | some found => found
      | none => r.coarsest fuel (power - 1)

/-- The greatest power of ten that a magnitude may need as its grid. -/
def topPower (x : Binary64) : Int :=
  ((x.magnitude / x.unit).log2 * 302 / 1000 + 1 : Nat) -
    if x.magnitude < x.unit then ((x.unit / x.magnitude).log2 * 301 / 1000 : Nat) else 0

/-- The shortest decimal that reads back as the number, and of those the nearest to it. -/
def shortest (x : Binary64) : Digits :=
  if x.isZero then { significand := 0, power := 0 }
  else x.rounding.coarsest 20 (x.topPower + 1)

/-- The text of a decimal: positional for scientific exponents from -5 to 15, with a point and at
least one place, and otherwise with a signed exponent. -/
def Digits.text (d : Digits) : List Char :=
  let all := digits d.significand
  let last := all.length - 1
  let trailing := (all.reverse.takeWhile (· == '0')).length
  let figures := if d.significand = 0 then all else all.take (all.length - trailing)
  let exponent : Int := d.power + last
  if d.significand = 0 then ['0', '.', '0']
  else if -5 ≤ exponent ∧ exponent < 0 then
    '0' :: '.' :: (List.replicate (-exponent - 1).toNat '0' ++ figures)
  else if 0 ≤ exponent ∧ exponent ≤ 15 then
    let whole := exponent.toNat + 1
    let padded := figures ++ List.replicate (whole - figures.length) '0'
    let places := padded.drop whole
    padded.take whole ++ '.' :: (if places.isEmpty then ['0'] else places)
  else
    let mantissa :=
      match figures with
      | [] => []
      | [d] => [d]
      | d :: rest => d :: '.' :: rest
    mantissa ++ 'e' :: (if exponent < 0 then '-' else '+') :: digits exponent.natAbs

/-- The text of a number: the shortest decimal that reads back, after a minus sign if negative. -/
def text (x : Binary64) : String :=
  String.ofList ((if x.negative then ['-'] else []) ++ x.shortest.text)

/-- The number with two places, its exact value rounded to the nearest hundredth and ties going to
the even one. -/
def twoPlaces (x : Binary64) : String :=
  let hundredths := roundedQuotient (x.magnitude * 100) x.unit
  let all := digits hundredths
  let padded := List.replicate (3 - all.length) '0' ++ all
  let whole := padded.length - 2
  String.ofList ((if x.negative then ['-'] else []) ++
    (padded.take whole ++ '.' :: padded.drop whole))

/-- `10 ^ n`, rounded. -/
def powerOfTen (n : Nat) : Binary64 :=
  ofNat (Nat.pow 10 n)

/-- `± significand · 10 ^ power` by at most a few rounded steps: the significand is rounded, and is
then multiplied or divided by a rounded power of ten; powers below the range are reached in steps
of 308.  Nothing is returned when the value lies beyond the largest number. -/
def ofDecimal? (negative : Bool) (significand : Nat) (power : Int) : Option Binary64 :=
  let start := { ofNat significand with negative }
  match power with
  | .ofNat up =>
      if up ≤ 308 then start.scaleUp? (powerOfTen up)
      else if start.isZero then some start
      else none
  | .negSucc below => reduce 4 start (below + 1)
where
  /-- Division by `10 ^ down`; four steps of 308 bring every number to zero. -/
  reduce : Nat → Binary64 → Nat → Option Binary64
    | steps, x, down =>
        if x.isZero then some x
        else if down ≤ 308 then x.scaleDown? (powerOfTen down)
        else
          match steps with
          | 0 => some (zero x.negative)
          | steps + 1 =>
              match x.scaleDown? (powerOfTen 308) with
              | none => none
              | some smaller => reduce steps smaller (down - 308)

end Binary64

end SchemaDesign.Number
