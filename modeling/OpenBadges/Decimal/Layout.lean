import OpenBadges.Decimal.Shortest

/-!
# Writing doubles

The digits of a double are its shortest decimal. What is left to decide is how
they are laid out, and a `Layout` holds those decisions: which numbers are
written without an exponent, whether a whole number keeps a point, and which of
two equally near decimals is written.
-/

namespace OpenBadges.Decimal

/-- How the digits of a number are laid out. -/
structure Layout where
  /-- The least and greatest place of the point, counted from before the first
  digit, at which no exponent is needed; without bounds there never is one. -/
  positional : Option (Int × Int)
  /-- Whether a whole number ends in `.0`. -/
  keepsPoint : Bool
  /-- Which of two equally near decimals is written. -/
  tie : Tie

/-- The digits of a natural number. -/
def digits (n : Nat) : List Char := Nat.toDigits 10 n

def zeros (n : Int) : List Char := List.replicate n.toNat '0'

/-- The digits with the point after `point` of them. -/
def Layout.place (l : Layout) (ds : List Char) (point : Int) : List Char :=
  if point ≤ 0 then '0' :: '.' :: zeros (-point) ++ ds
  else if (ds.length : Int) ≤ point then
    ds ++ zeros (point - ds.length) ++ (if l.keepsPoint then ['.', '0'] else [])
  else ds.take point.toNat ++ '.' :: ds.drop point.toNat

/-- The digits with the point after the first of them, and the exponent that makes up for it. -/
def scientific (ds : List Char) (point : Int) : List Char :=
  let mantissa := match ds with
    | d :: e :: es => d :: '.' :: e :: es
    | ds => ds
  let power := point - 1
  mantissa ++ 'e' :: (if power < 0 then '-' else '+') :: digits power.natAbs

def Layout.render (l : Layout) (x : Binary64) : String :=
  let d := shortest l.tie x
  let ds := digits d.coefficient
  let point := ds.length + d.exponent
  let inside := match l.positional with
    | none => true
    | some (least, greatest) => least ≤ point && point ≤ greatest
  String.ofList <|
    (if x.negative then ['-'] else []) ++
      if inside then l.place ds point else scientific ds point

end OpenBadges.Decimal
