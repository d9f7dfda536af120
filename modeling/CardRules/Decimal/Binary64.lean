import CardRules.Decimal.Rounding

/-!
# Binary64 numbers

Floating-point numbers as exact values. Every operation is the exact one on rational numbers,
rounded once (`ofRatio`), with the usual rules for infinities, for the absence of a value (`nan`) and
for the sign of zero.
-/

namespace CardRules.Decimal

/-- A binary64 number. A finite one is a sign and a magnitude in units of `2 ^ (-1074)` with at most
53 significant bits. -/
inductive Binary64 where
  | nan
  | infinite (negative : Bool)
  | finite (negative : Bool) (units : Nat)
  deriving DecidableEq, Repr, Inhabited

namespace Binary64

/-- The number nearest to `num / den` units, infinite if that is too large. -/
def ofRatio (negative : Bool) (num den : Nat) : Binary64 :=
  let units := roundUnits num den
  if units < infiniteFrom then .finite negative units else .infinite negative

/-- The number nearest to `z` units; `zeroSign` is the sign of a zero. -/
def ofUnits (z : Int) (zeroSign : Bool) : Binary64 :=
  if z = 0 then .finite zeroSign 0 else ofRatio (z < 0) z.natAbs 1

/-- The number nearest to a whole number. -/
def ofInt (i : Int) : Binary64 := ofUnits (i * unitsPerOne) false

/-- The units of a finite number with their sign. -/
def signedUnits (negative : Bool) (units : Nat) : Int := if negative then -units else units

/-! ## Inspection -/

def isNaN : Binary64 → Bool
  | .nan => true
  | _ => false

/-- Zero of either sign. -/
def isZero : Binary64 → Bool
  | .finite _ 0 => true
  | _ => false

/-- The sign bit; that of `nan` counts as positive. -/
def isNegative : Binary64 → Bool
  | .nan => false
  | .infinite s => s
  | .finite s _ => s

/-- Whether the number is finite and whole. -/
def isWhole : Binary64 → Bool
  | .finite _ u => u % unitsPerOne == 0
  | _ => false

/-- The number itself, unless it is infinite. -/
def bounded? : Binary64 → Option Binary64
  | .infinite _ => none
  | x => some x

/-- The whole part of a finite number, toward zero. -/
def truncate? : Binary64 → Option Int
  | .finite s u => some (signedUnits s (u / unitsPerOne))
  | _ => none

/-! ## Order -/

/-- The order of two numbers; `nan` has no place in it and zeros of both signs are equal. -/
def compare? : Binary64 → Binary64 → Option Ordering
  | .nan, _ => none
  | _, .nan => none
  | .infinite s, .infinite t => some (compare t s)
  | .infinite s, .finite _ _ => some (if s then .lt else .gt)
  | .finite _ _, .infinite t => some (if t then .gt else .lt)
  | .finite s u, .finite t v => some (compare (signedUnits s u) (signedUnits t v))

/-- The order of a whole number and a binary64 number, without rounding. -/
def compareInt? (i : Int) : Binary64 → Option Ordering
  | .nan => none
  | .infinite t => some (if t then .gt else .lt)
  | .finite t v => some (compare (i * unitsPerOne) (signedUnits t v))

/-! ## Arithmetic -/

def neg : Binary64 → Binary64
  | .nan => .nan
  | .infinite s => .infinite (!s)
  | .finite s u => .finite (!s) u

/-- A sum of zero is negative only if both terms are. -/
def add : Binary64 → Binary64 → Binary64
  | .nan, _ => .nan
  | _, .nan => .nan
  | .infinite s, .infinite t => if s = t then .infinite s else .nan
  | .infinite s, .finite _ _ => .infinite s
  | .finite _ _, .infinite t => .infinite t
  | .finite s u, .finite t v => ofUnits (signedUnits s u + signedUnits t v) (s && t)

def sub (x y : Binary64) : Binary64 := x.add y.neg

def mul : Binary64 → Binary64 → Binary64
  | .nan, _ => .nan
  | _, .nan => .nan
  | .infinite s, .infinite t => .infinite (s != t)
  | .infinite s, .finite t v => if v = 0 then .nan else .infinite (s != t)
  | .finite s u, .infinite t => if u = 0 then .nan else .infinite (s != t)
  | .finite s u, .finite t v => ofRatio (s != t) (u * v) unitsPerOne

def div : Binary64 → Binary64 → Binary64
  | .nan, _ => .nan
  | _, .nan => .nan
  | .infinite _, .infinite _ => .nan
  | .infinite s, .finite t _ => .infinite (s != t)
  | .finite s _, .infinite t => .finite (s != t) 0
  | .finite s u, .finite t v =>
    if v = 0 then (if u = 0 then .nan else .infinite (s != t))
    else ofRatio (s != t) (u * unitsPerOne) v

/-- The remainder of a division toward zero, which is exact and has the sign of `x`. -/
def rem : Binary64 → Binary64 → Binary64
  | .nan, _ => .nan
  | _, .nan => .nan
  | .infinite _, _ => .nan
  | x@(.finite _ _), .infinite _ => x
  | .finite s u, .finite _ v => if v = 0 then .nan else .finite s (u % v)

/-- The remainder with the sign of the divisor. -/
def mod (x y : Binary64) : Binary64 :=
  let r := x.rem y
  if r.isZero then .finite y.isNegative 0
  else if r.isNegative != y.isNegative then r.add y else r

end Binary64

end CardRules.Decimal
