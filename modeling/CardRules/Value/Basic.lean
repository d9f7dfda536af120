import CardRules.Entries

/-!
# Values

The data that rules, snapshots, parameters and events are made of. Objects keep the order of their
entries. The keys of an object are texts as a rule; an object that has been given an entry under some
other scalar is *keyed*.
-/

namespace CardRules

inductive Value where
  | null
  | bool (b : Bool)
  | number (n : Number)
  | text (s : String)
  | list (items : List Value)
  | object (entries : List (String × Value))
  /-- An object with a key that is no text. -/
  | keyed (entries : List (Scalar × Value))
  deriving Repr, Inhabited

namespace Value

/-! ## Decidable equality -/

mutual

/-- Equality of values is decidable. -/
def decEq : (a b : Value) → Decidable (a = b)
  | .null, b => match b with
    | .null => isTrue rfl
    | .bool _ | .number _ | .text _ | .list _ | .object _ | .keyed _ => isFalse (by simp)
  | .bool x, b => match b with
    | .bool y => decidable_of_iff (x = y) (by simp)
    | .null | .number _ | .text _ | .list _ | .object _ | .keyed _ => isFalse (by simp)
  | .number x, b => match b with
    | .number y => decidable_of_iff (x = y) (by simp)
    | .null | .bool _ | .text _ | .list _ | .object _ | .keyed _ => isFalse (by simp)
  | .text x, b => match b with
    | .text y => decidable_of_iff (x = y) (by simp)
    | .null | .bool _ | .number _ | .list _ | .object _ | .keyed _ => isFalse (by simp)
  | .list xs, b => match b with
    | .list ys => @decidable_of_iff _ (xs = ys) (by simp) (decEqList xs ys)
    | .null | .bool _ | .number _ | .text _ | .object _ | .keyed _ => isFalse (by simp)
  | .object xs, b => match b with
    | .object ys => @decidable_of_iff _ (xs = ys) (by simp) (decEqEntries xs ys)
    | .null | .bool _ | .number _ | .text _ | .list _ | .keyed _ => isFalse (by simp)
  | .keyed xs, b => match b with
    | .keyed ys => @decidable_of_iff _ (xs = ys) (by simp) (decEqKeyed xs ys)
    | .null | .bool _ | .number _ | .text _ | .list _ | .object _ => isFalse (by simp)

/-- Equality of lists of values is decidable. -/
def decEqList : (a b : List Value) → Decidable (a = b)
  | [], [] => isTrue rfl
  | [], _ :: _ => isFalse (by simp)
  | _ :: _, [] => isFalse (by simp)
  | x :: xs, y :: ys =>
    have := decEq x y
    have := decEqList xs ys
    decidable_of_iff (x = y ∧ xs = ys) (by simp)

/-- Equality of lists of entries is decidable. -/
def decEqEntries : (a b : List (String × Value)) → Decidable (a = b)
  | [], [] => isTrue rfl
  | [], _ :: _ => isFalse (by simp)
  | _ :: _, [] => isFalse (by simp)
  | (k, x) :: xs, (l, y) :: ys =>
    have := decEq x y
    have := decEqEntries xs ys
    decidable_of_iff ((k = l ∧ x = y) ∧ xs = ys) (by simp)

/-- Equality of lists of entries under scalars is decidable. -/
def decEqKeyed : (a b : List (Scalar × Value)) → Decidable (a = b)
  | [], [] => isTrue rfl
  | [], _ :: _ => isFalse (by simp)
  | _ :: _, [] => isFalse (by simp)
  | (k, x) :: xs, (l, y) :: ys =>
    have := decEq x y
    have := decEqKeyed xs ys
    decidable_of_iff ((k = l ∧ x = y) ∧ xs = ys) (by simp)

end

instance : DecidableEq Value := decEq

/-! ## Abbreviations and readings -/

/-- A whole number as a value. -/
abbrev int (i : Int) : Value := .number (.int i)

/-- A binary64 number as a value. -/
abbrev float (x : Decimal.Binary64) : Value := .number (.float x)

/-- The number a value counts as in arithmetic on scores and seats, where truth values count as one
and zero. -/
def asNumber? : Value → Option Number
  | .bool b => some (.int (if b then 1 else 0))
  | .number n => some n
  | _ => none

/-- Null, false, zero and every empty text, list or object: a value that counts as left out. -/
def isVoid : Value → Bool
  | .null => true
  | .bool b => !b
  | .number n => n.isZero
  | .text s => s == ""
  | .list xs => xs.isEmpty
  | .object es => es.isEmpty
  | .keyed es => es.isEmpty

/-! ## Keys and entries -/

/-- The value that is a scalar. -/
def ofScalar : Scalar → Value
  | .null => .null
  | .bool b => .bool b
  | .number n => .number n
  | .text s => .text s

/-- The scalar a value is. Lists and objects are none. -/
def scalar? : Value → Option Scalar
  | .null => some .null
  | .bool b => some (.bool b)
  | .number n => some (.number n)
  | .text s => some (.text s)
  | .list _ | .object _ | .keyed _ => none

/-- The entries of an object. -/
def entries? : Value → Option (Entries Value)
  | .object es => some (es.map fun e => (.text e.1, e.2))
  | .keyed es => some es
  | _ => none

/-- An entry under a text. -/
def textEntry? : Scalar × Value → Option (String × Value)
  | (.text k, v) => some (k, v)
  | _ => none

/-- The object with the given entries. -/
def ofEntries (es : Entries Value) : Value :=
  match es.mapM textEntry? with
  | some es => .object es
  | none => .keyed es

end Value

end CardRules
