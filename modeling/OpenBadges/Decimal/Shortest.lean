import OpenBadges.Decimal.Binary64

/-!
# The shortest decimal of a double

Every double is the nearest one to all the reals of some interval around it.
The shortest decimal of a double is the one with the fewest digits in that
interval, and of those the nearest to the double; which of two equally near ones
it is, is a matter of taste. It is found by trying 1, 2, … 17 digits: on the grid
of decimals with that many digits only the two neighbours of the value need a
look, because if any point of the grid lies in the interval then so does one of
them.
-/

namespace OpenBadges.Decimal

/-- The decimal `coefficient · 10 ^ exponent`. -/
structure Numeral where
  /-- The digits, read as a whole number. -/
  coefficient : Nat
  exponent : Int
deriving DecidableEq, Repr

/-- The numeral of the same value whose coefficient does not end in a zero. -/
def Numeral.stripped (d : Numeral) : Numeral :=
  if h : d.coefficient ≠ 0 ∧ d.coefficient % 10 = 0 then
    Numeral.stripped ⟨d.coefficient / 10, d.exponent + 1⟩
  else d
termination_by d.coefficient
decreasing_by omega

/-- The number of decimal digits of `n`. -/
def digitCount (n : Nat) : Nat := (Nat.toDigits 10 n).length

/-- A quotient in units of `10 ^ p`, again as a quotient. -/
def inPowers (num den : Nat) (p : Int) : Nat × Nat :=
  if 0 ≤ p then (num, den * Nat.pow 10 p.toNat) else (num * Nat.pow 10 (-p).toNat, den)

/-- The power of ten of the first digit of `num / den`. -/
def leadingPower (num den : Nat) : Int :=
  let guess : Int := (digitCount num : Int) - digitCount den
  let units := inPowers num den guess
  if units.1 < units.2 then guess - 1 else guess

/-- The reals that round to a given double, over a common denominator. -/
structure Interval where
  low : Nat
  value : Nat
  high : Nat
  /-- What the three are divided by. -/
  den : Nat
  /-- Whether the two ends belong to it. -/
  closed : Bool

/-- The interval around a double. Below a power of two the next double is only half as far. -/
def Interval.around (x : Binary64) : Interval :=
  let m := x.significand
  let below := if m = Nat.pow 2 52 ∧ Binary64.leastExponent < x.exponent then 1 else 2
  let e := x.exponent - 2
  let scale := if 0 ≤ e then Nat.pow 2 e.toNat else 1
  let den := if 0 ≤ e then 1 else Nat.pow 2 (-e).toNat
  ⟨(4 * m - below) * scale, 4 * m * scale, (4 * m + 2) * scale, den, m % 2 = 0⟩

/-- Whether `c · 10 ^ p` lies in the interval. -/
def Interval.holds (i : Interval) (c : Nat) (p : Int) : Bool :=
  let point := if 0 ≤ p then c * Nat.pow 10 p.toNat * i.den else c * i.den
  let scale := if 0 ≤ p then 1 else Nat.pow 10 (-p).toNat
  if i.closed then i.low * scale ≤ point && point ≤ i.high * scale
  else i.low * scale < point && point < i.high * scale

/-- Which of two equally near decimals to take. -/
inductive Tie where
  /-- The one whose last digit is even. -/
  | toEven
  | up
deriving DecidableEq, Repr

/-- Whether a tie between `c` and `c + 1` goes to `c`. -/
def Tie.goesDown : Tie → Nat → Bool
  | toEven, c => c % 2 = 0
  | up, _ => false

/-- The nearest decimal in the interval with digits down to `10 ^ p`, if there is one. -/
def Interval.nearest? (i : Interval) (tie : Tie) (p : Int) : Option Numeral :=
  let units := inPowers i.value i.den p
  let c := units.1 / units.2
  let r := units.1 % units.2
  let takesLower := 2 * r < units.2 || (2 * r = units.2 && tie.goesDown c)
  match i.holds c p, i.holds (c + 1) p with
  | true, true => some ⟨if takesLower then c else c + 1, p⟩
  | true, false => some ⟨c, p⟩
  | false, true => some ⟨c + 1, p⟩
  | false, false => none

/-- Seventeen digits tell any two doubles apart. -/
def mostDigits : Nat := 17

/-- The shortest decimal that reads back as the magnitude of `x`. -/
def shortest (tie : Tie) (x : Binary64) : Numeral :=
  if x.isZero then ⟨0, 0⟩
  else
    let i := Interval.around x
    let top := leadingPower i.value i.den
    let found := (List.range mostDigits).findSome? fun (n : Nat) => i.nearest? tie (top - n)
    (found.getD ⟨i.value / i.den, 0⟩).stripped

end OpenBadges.Decimal
