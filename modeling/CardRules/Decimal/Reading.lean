import CardRules.Decimal.Binary64

/-!
# Decimal fractions

The binary64 number nearest to a decimal fraction. Exponents far outside the range of binary64 are
settled by their size, so that reading never builds a number longer than the text warrants.
-/

namespace CardRules.Decimal

/-- The number nearest to `digits * 10 ^ exponent`. -/
def Binary64.ofDecimal (negative : Bool) (digits : Nat) (exponent : Int) : Binary64 :=
  let places : Int := (Nat.toDigits 10 digits).length
  if digits = 0 then .finite negative 0
  else if 310 < places + exponent then .infinite negative
  else if places + exponent < -330 then .finite negative 0
  else if 0 ≤ exponent then ofRatio negative (digits * Nat.pow 10 exponent.toNat * unitsPerOne) 1
  else ofRatio negative (digits * unitsPerOne) (Nat.pow 10 (-exponent).toNat)

end CardRules.Decimal
