/-!
# Double-precision numbers

A finite double is a sign, a significand and a power of two. Each value has one
normal form: the significand has 53 binary digits, or fewer at the least
exponent, so equality of the structure is equality of the value, the two zeros
apart. All arithmetic is exact arithmetic on natural numbers followed by one
rounding, half to even.
-/

namespace OpenBadges

/-- The finite double `± significand · 2 ^ exponent`. -/
structure Binary64 where
  /-- Whether the sign is set; zero has a sign too. -/
  negative : Bool
  /-- Below `2 ^ 53`, and at least `2 ^ 52` unless the exponent is the least one. -/
  significand : Nat
  /-- Between `-1074` and `971`. -/
  exponent : Int
deriving DecidableEq, Repr

namespace Binary64

/-- The least exponent, that of zero and of the subnormal numbers. -/
def leastExponent : Int := -1074

/-- The exponent of the largest finite doubles. -/
def greatestExponent : Int := 971

/-- Zero with the given sign. -/
def zero (negative : Bool) : Binary64 := ⟨negative, 0, leastExponent⟩

instance : Inhabited Binary64 := ⟨zero false⟩

/-- Whether the value is one of the two zeros. -/
def isZero (x : Binary64) : Bool := x.significand = 0

/-- Numerical equality: the two zeros are equal, all else only to itself. -/
def sameValue (x y : Binary64) : Bool := x = y || (x.isZero && y.isZero)

/-- The whole number nearest to `num / den`; of two equally near ones the even one. -/
def roundHalfEven (num den : Nat) : Nat :=
  let q := num / den
  let r := num % den
  if 2 * r < den then q
  else if den < 2 * r then q + 1
  else if q % 2 = 0 then q else q + 1

/-- The quotient `num / den` in units of `2 ^ e`, again as a quotient. -/
def inUnits (num den : Nat) (e : Int) : Nat × Nat :=
  if 0 ≤ e then (num, den * Nat.pow 2 e.toNat) else (num * Nat.pow 2 (-e).toNat, den)

/-- The double nearest to `num / den`, or `none` if that is beyond the largest. -/
def ofRatio? (negative : Bool) (num den : Nat) : Option Binary64 :=
  if num = 0 then some (zero negative)
  else
    -- the quotient has 53 binary digits in units of two to the guess, or one fewer
    let guess : Int := (num.log2 : Int) - den.log2 - 52
    let units := inUnits num den guess
    let fitted := if units.1 / units.2 < Nat.pow 2 52 then guess - 1 else guess
    let e := max fitted leastExponent
    let units := inUnits num den e
    let m := roundHalfEven units.1 units.2
    let (m, e) := if m = Nat.pow 2 53 then (Nat.pow 2 52, e + 1) else (m, e)
    if greatestExponent < e then none else some ⟨negative, m, e⟩

/-- The magnitude as a quotient of natural numbers. -/
def ratio (x : Binary64) : Nat × Nat :=
  if 0 ≤ x.exponent then (x.significand * Nat.pow 2 x.exponent.toNat, 1)
  else (x.significand, Nat.pow 2 (-x.exponent).toNat)

/-- The product of the magnitudes, rounded, under the sign of `x`. -/
def mul? (x y : Binary64) : Option Binary64 :=
  ofRatio? x.negative (x.ratio.1 * y.ratio.1) (x.ratio.2 * y.ratio.2)

/-- The quotient of the magnitudes, rounded, under the sign of `x`. -/
def div? (x y : Binary64) : Option Binary64 :=
  ofRatio? x.negative (x.ratio.1 * y.ratio.2) (x.ratio.2 * y.ratio.1)

/-- The double nearest to a whole number. -/
def ofInt? (n : Int) : Option Binary64 := ofRatio? (n < 0) n.natAbs 1

/-- The double nearest to `10 ^ k`. -/
def powerOfTen? (k : Nat) : Option Binary64 := ofRatio? false (Nat.pow 10 k) 1

/-- The greatest power of ten below the largest double. -/
def greatestPowerOfTen : Nat := 308

/-- Divides by `10 ^ k` in steps no longer than the greatest power of ten, rounding at each. -/
def divPowerOfTen? (x : Binary64) (k : Nat) : Option Binary64 :=
  if k ≤ greatestPowerOfTen then do x.div? (← powerOfTen? k)
  else if x.isZero then some x
  else do
    let x ← x.div? (← powerOfTen? greatestPowerOfTen)
    divPowerOfTen? x (k - greatestPowerOfTen)
termination_by k
decreasing_by simp only [greatestPowerOfTen] at *; omega

/--
The value of `significand · 10 ^ exponent`: the significand is rounded to a
double, and that is multiplied or divided by a rounded power of ten. The two
roundings can leave the result one unit away from the double nearest to the
numeral. `none` if the value is beyond the largest double.
-/
def ofDecimal? (negative : Bool) (significand : Nat) (exponent : Int) : Option Binary64 := do
  let x ← ofRatio? negative significand 1
  if 0 ≤ exponent then
    if exponent.toNat ≤ greatestPowerOfTen then x.mul? (← powerOfTen? exponent.toNat)
    else if x.isZero then some x else none
  else x.divPowerOfTen? (-exponent).toNat

end Binary64

end OpenBadges
