import CardRules.Decimal.Binary64

/-!
# Shortest decimal text

The fewest decimal digits that read back as a given number, and their layout. For each count of
digits the two neighbours of the value on that decimal grid are tried; the first grid with a
neighbour that rounds to the value wins. Of two such neighbours the nearer is taken, and of two
equally near ones the even.
-/

namespace CardRules.Decimal

/-- The whole part of the logarithm to base ten of `num / den`, for a quotient between `10 ^ (-n)`
and `10 ^ n`. -/
def floorLog10 (n num den : Nat) : Int :=
  if den ≤ num then (Nat.toDigits 10 (num / den)).length - 1
  else -(((List.range n).find? fun j => den ≤ num * Nat.pow 10 (j + 1)).getD n + 1 : Nat)

/-- Decimal digits and the power of ten they are counted in. -/
structure Digits where
  significand : Nat
  exponent : Int
  deriving DecidableEq, Repr

/-- The magnitude nearest to a decimal one, in units. -/
def Digits.units (d : Digits) : Nat :=
  if 0 ≤ d.exponent then roundUnits (d.significand * Nat.pow 10 d.exponent.toNat * unitsPerOne) 1
  else roundUnits (d.significand * unitsPerOne) (Nat.pow 10 (-d.exponent).toNat)

/-- The neighbour of `units` on the grid of powers `10 ^ exponent` that reads back as `units`. -/
def onGrid? (units : Nat) (exponent : Int) : Option Digits :=
  let num := if 0 ≤ exponent then units else units * Nat.pow 10 (-exponent).toNat
  let den := if 0 ≤ exponent then unitsPerOne * Nat.pow 10 exponent.toNat else unitsPerOne
  let below : Digits := ⟨num / den, exponent⟩
  let above : Digits := ⟨num / den + 1, exponent⟩
  match below.units == units, above.units == units with
  | true, true => some (if roundDiv num den = below.significand then below else above)
  | true, false => some below
  | false, true => some above
  | false, false => none

/-- The shortest digits of a magnitude above zero. Seventeen digits always read back. -/
def shortest (units : Nat) : Digits :=
  let top := floorLog10 330 units unitsPerOne
  ((List.range 17).findSome? fun n : Nat => onGrid? units (top - n)).getD ⟨0, 0⟩

/-! ## Layout -/

/-- How a format writes floating-point numbers. -/
structure Layout where
  /-- The least decimal exponent written without a power of ten. -/
  plainFrom : Int
  /-- The decimal exponent from which on a power of ten is written. -/
  plainBelow : Int
  /-- The least number of digits in a written exponent. -/
  exponentDigits : Nat
  infinity : String
  nan : String

/-- Zeros in front of digits to make up a width. -/
def padded (width : Nat) (ds : List Char) : List Char :=
  List.replicate (width - ds.length) '0' ++ ds

/-- The digits with the point after the first `places`, zeros filled in on either side; at least one
digit stands on each side of the point. -/
def pointed (ds : List Char) (places : Int) : List Char :=
  if places ≤ 0 then ['0', '.'] ++ List.replicate (-places).toNat '0' ++ ds
  else if places < ds.length then ds.take places.toNat ++ '.' :: ds.drop places.toNat
  else ds ++ List.replicate (places.toNat - ds.length) '0' ++ ['.', '0']

/-- The digits with the point after the first and a power of ten behind. -/
def scientific (width : Nat) (ds : List Char) (exponent : Int) : List Char :=
  ds.take 1 ++ (if ds.length ≤ 1 then [] else '.' :: ds.drop 1)
    ++ ['e', if exponent < 0 then '-' else '+'] ++ padded width (Nat.toDigits 10 exponent.natAbs)

/-- A number in a layout. -/
def Layout.write (l : Layout) : Binary64 → String
  | .nan => l.nan
  | .infinite s => if s then "-" ++ l.infinity else l.infinity
  | .finite s u =>
    let d := shortest u
    let ds := Nat.toDigits 10 d.significand
    let ds := (ds.reverse.dropWhile (· = '0')).reverse
    let places : Int := (Nat.toDigits 10 d.significand).length + d.exponent
    let body :=
      if u = 0 then ['0', '.', '0']
      else if l.plainFrom ≤ places - 1 && places - 1 < l.plainBelow then pointed ds places
      else scientific l.exponentDigits ds (places - 1)
    String.ofList (if s then '-' :: body else body)

end CardRules.Decimal
