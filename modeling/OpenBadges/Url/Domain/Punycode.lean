/-!
# Punycode

A label in any script, written in letters, digits and hyphens. The ASCII
characters of the label come first, and a hyphen behind them if there are any.
Then come numbers that say what to insert, in the order of the characters and
from left to right: each counts the places at which nothing is inserted, where
the places of one character come after all those of the character before it.

A number is written with 36 digits, the lowest first. Each digit has a threshold,
and the first digit below its threshold is the last of the number. The thresholds
follow a bias that adapts to the size of the numbers so far.
-/

namespace OpenBadges.Url.Punycode

def base : Nat := 36

def firstBias : Nat := 72

/-- The first character to insert. -/
def firstInserted : Nat := 128

/-- Numbers do not reach this. -/
def limit : Nat := 4294967296

/-- The threshold of the digit at a place, which is counted from one in steps of `base`. -/
def threshold (place bias : Nat) : Nat :=
  if place ≤ bias then 1 else if bias + 26 ≤ place then 26 else place - bias

theorem threshold_pos (place bias : Nat) : 0 < threshold place bias := by
  unfold threshold; split <;> (try split) <;> omega

/-- The bias that fits to a number, which goes down in steps. -/
def biasOf (place n : Nat) : Nat :=
  if 455 < n then biasOf (place + base) (n / 35) else place + 36 * n / (n + 38)
termination_by n
decreasing_by exact Nat.div_lt_self (by omega) (by omega)

/-- The bias after a number; `points` are the characters that the label then has. -/
def adapted (n points : Nat) (isFirst : Bool) : Nat :=
  let n := if isFirst then n / 700 else n / 2
  biasOf 0 (n + n / points)

/-! ## Writing -/

/-- A digit as a character: the letters, and then the decimal digits. -/
def digitChar (d : Nat) : Char :=
  if d < 26 then Char.ofNat ('a'.toNat + d) else Char.ofNat ('0'.toNat + (d - 26))

/-- The digits of a number from a place on. -/
def digitsFrom (bias place n : Nat) : List Char :=
  let t := threshold place bias
  if n < t then [digitChar n]
  else digitChar (t + (n - t) % (base - t)) :: digitsFrom bias (place + base) ((n - t) / (base - t))
termination_by n
decreasing_by
  have h := threshold_pos place bias
  have h' := Nat.div_le_self (n - threshold place bias) (base - threshold place bias)
  omega

/-- What is known while a label is written. -/
structure Encoder where
  written : List Char
  /-- How many places have passed since the last number. -/
  delta : Nat
  bias : Nat
  /-- How many characters are in place. -/
  points : Nat
  /-- Whether no number has been written yet. -/
  isFirst : Bool

/-- Passes a character of the label on the way through the places of `m`. -/
def Encoder.pass (m : Nat) (e : Encoder) (c : Char) : Encoder :=
  if c.toNat < m then { e with delta := e.delta + 1 }
  else if c.toNat = m then
    ⟨e.written ++ digitsFrom e.bias base e.delta, 0, adapted e.delta (e.points + 1) e.isFirst,
      e.points + 1, false⟩
  else e

/-- Inserts all occurrences of some characters, of which `next` is the first possible one. -/
def Encoder.insertAll (label : List Char) (e : Encoder) (next : Nat) : List Nat → List Char
  | [] => e.written
  | m :: ms =>
    let e := { e with delta := e.delta + (m - next) * (e.points + 1) }
    let e := label.foldl (Encoder.pass m) e
    Encoder.insertAll label { e with delta := e.delta + 1 } (m + 1) ms

/-- The characters to insert, each once and in order. -/
def inserted (label : List Char) : List Nat :=
  (((label.map Char.toNat).filter (firstInserted ≤ ·)).mergeSort (· ≤ ·)).eraseDups

/-- A label in letters, digits and hyphens. -/
def encode (label : List Char) : List Char :=
  let plain := label.filter (·.toNat < firstInserted)
  let start := if plain.isEmpty then [] else plain ++ ['-']
  Encoder.insertAll label ⟨start, 0, firstBias, plain.length, true⟩ firstInserted (inserted label)

/-! ## Reading -/

def digitValue? (c : Char) : Option Nat :=
  if 'a' ≤ c ∧ c ≤ 'z' then some (c.toNat - 'a'.toNat)
  else if c.isDigit then some (c.toNat - '0'.toNat + 26)
  else none

/-- What is known while a label is read. -/
structure Decoder where
  label : List Char
  /-- The character that is inserted now. -/
  next : Nat
  /-- The place at which the last one was inserted, and one more. -/
  place : Nat
  bias : Nat
  /-- Whether no number has been read yet. -/
  isFirst : Bool

/-- Inserts a character, so many places after the last one. -/
def Decoder.insert? (d : Decoder) (delta : Nat) : Option Decoder :=
  let place := d.place + delta
  let points := d.label.length + 1
  let next := d.next + place / points
  let place := place % points
  if limit ≤ d.place + delta ∨ !next.isValidChar then none
  else
    some ⟨d.label.insertIdx place (Char.ofNat next), next, place + 1,
      adapted delta points d.isFirst, false⟩

/--
Reads numbers and inserts what they say. Of the number being read, `n` is the value
so far, `weight` what the next digit counts for, and `place` its place.
-/
def Decoder.readAll (d : Decoder) (n weight place : Nat) : List Char → Option (List Char)
  | [] => if place = base then some d.label else none
  | c :: cs => do
    let digit ← digitValue? c
    let n := n + digit * weight
    let t := threshold place d.bias
    if limit ≤ n then none
    else if digit < t then Decoder.readAll (← d.insert? n) 0 1 base cs
    else
      let weight := weight * (base - t)
      if limit ≤ weight then none else Decoder.readAll d n weight (place + base) cs

/-- What stands before and after the last hyphen; one at the very start does not count. -/
def cutAtHyphen (code : List Char) : List Char × List Char :=
  let after := (code.reverse.takeWhile (· ≠ '-')).reverse
  let before := code.take (code.length - after.length - 1)
  if before.isEmpty then ([], code) else (before, after)

def decode? (code : List Char) : Option (List Char) :=
  let (plain, numbers) := cutAtHyphen code
  Decoder.readAll ⟨plain, firstInserted, 0, firstBias, true⟩ 0 1 base numbers

end OpenBadges.Url.Punycode
