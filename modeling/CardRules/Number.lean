import CardRules.Decimal.Shortest

/-!
# Numbers

A number is a whole number of any size or a binary64 number. Operations on two whole numbers are
exact, the quotient apart, which is the nearest binary64 number; an operation that meets a binary64
number works in binary64. Both ways a whole number may be too large for binary64, and the operation
then has no result (`none`). Comparisons never round. Whole numbers are computed with at any length,
but they are read and written only up to `longestNumeral` digits.
-/

namespace CardRules

open Decimal

inductive Number where
  | int (i : Int)
  | float (x : Binary64)
  deriving DecidableEq, Repr, Inhabited

/-- The most digits that the text of a whole number may have. -/
def longestNumeral : Nat := 4300

/-- The comparisons of two ordered values. -/
inductive Comparison where
  | lt | le | gt | ge
  deriving DecidableEq, Repr

/-- Whether a comparison holds of values in the given order. -/
def Comparison.holds : Comparison → Ordering → Bool
  | .lt, o => o == .lt
  | .le, o => o != .gt
  | .gt, o => o == .gt
  | .ge, o => o != .lt

namespace Number

/-- How messages write floating-point numbers. -/
def messageLayout : Layout := ⟨-4, 16, 2, "inf", "nan"⟩

/-- How a snapshot writes floating-point numbers. -/
def snapshotLayout : Layout := ⟨-4, 16, 2, "Infinity", "NaN"⟩

/-- The number in a layout; whole numbers are written in plain digits. -/
def writeIn (l : Layout) : Number → String
  | .int i => toString i
  | .float x => l.write x

/-- Whether a number has a text. A whole number with too many digits has none. -/
def hasText : Number → Bool
  | .int i => i.natAbs < Nat.pow 10 longestNumeral
  | .float _ => true

/-- The nearest binary64 number, unless a whole number is too large to have one. -/
def toBinary64? : Number → Option Binary64
  | .float x => some x
  | .int i => (Binary64.ofInt i).bounded?

/-- The order of two numbers; `nan` has no place in it. -/
def compare? : Number → Number → Option Ordering
  | .int i, .int j => some (compare i j)
  | .int i, .float y => Binary64.compareInt? i y
  | .float x, .int j => (Binary64.compareInt? j x).map Ordering.swap
  | .float x, .float y => x.compare? y

/-- Equality of value: `1` equals `1.0` and `nan` equals nothing. -/
def eqv (a b : Number) : Bool := a.compare? b == some .eq

/-- Whether a comparison holds; none holds of `nan`. -/
def holds (op : Comparison) (a b : Number) : Bool := (a.compare? b).any op.holds

def isZero : Number → Bool
  | .int i => i == 0
  | .float x => x.isZero

def isNaN : Number → Bool
  | .int _ => false
  | .float x => x.isNaN

/-- Whether two numbers stand for the same data: they are equal, or both are `nan`. -/
def alike (a b : Number) : Bool := a.eqv b || (a.isNaN && b.isNaN)

@[simp] theorem alike_self (a : Number) : a.alike a = true := by
  rcases a with i | _ | s | ⟨s, u⟩ <;>
    simp [alike, eqv, compare?, isNaN, Binary64.compare?, Binary64.isNaN]

def neg : Number → Number
  | .int i => .int (-i)
  | .float x => .float x.neg

/-- An operation with a rule for whole numbers and one for binary64 numbers. -/
def lift (whole : Int → Int → Int) (real : Binary64 → Binary64 → Binary64) :
    Number → Number → Option Number
  | .int i, .int j => some (.int (whole i j))
  | a, b => do return .float (real (← a.toBinary64?) (← b.toBinary64?))

def add : Number → Number → Option Number := lift (· + ·) Binary64.add

def sub : Number → Number → Option Number := lift (· - ·) Binary64.sub

def mul : Number → Number → Option Number := lift (· * ·) Binary64.mul

/-- The remainder with the sign of the divisor. -/
def mod : Number → Number → Option Number := lift Int.fmod Binary64.mod

/-- The quotient, always a binary64 number; of two whole numbers it is rounded once. -/
def div : Number → Number → Option Number
  | .int i, .int j =>
    (Binary64.ofRatio ((i < 0) != (j < 0)) (i.natAbs * unitsPerOne) j.natAbs).bounded?.map .float
  | a, b => do return .float ((← a.toBinary64?).div (← b.toBinary64?))

end Number

end CardRules
