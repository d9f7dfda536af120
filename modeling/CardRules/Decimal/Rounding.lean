/-!
# Rounding to 53 bits

Magnitudes of binary64 numbers are counted in *units* of `2 ^ (-1074)`, the smallest one above zero.
A magnitude is representable when it has at most 53 significant bits, so that small magnitudes,
which are below `2 ^ 53` units, need no rule of their own. `roundUnits` takes a quotient to the
nearest representable magnitude, a half going to the even neighbour.
-/

namespace CardRules.Decimal

/-- `num / den` to the nearest whole number, a half going to the even neighbour. -/
def roundDiv (num den : Nat) : Nat :=
  let q := num / den
  let r := num % den
  if 2 * r < den then q
  else if den < 2 * r then q + 1
  else if q % 2 = 0 then q else q + 1

/-- How many low bits of `n` lie beyond its 53 leading ones. -/
def excessBits (n : Nat) : Nat := n.log2 - 52

/-- `num / den` to the nearest whole number with at most 53 significant bits. -/
def roundUnits (num den : Nat) : Nat :=
  let s := excessBits (num / den)
  roundDiv num (den * Nat.pow 2 s) * Nat.pow 2 s

/-- One, counted in units. -/
def unitsPerOne : Nat := Nat.pow 2 1074

/-- The magnitude from which on a number is infinite, counted in units. -/
def infiniteFrom : Nat := Nat.pow 2 2098

end CardRules.Decimal
