import CardRules.Number

/-!
# Scalars

Values without parts. They are what entries can be kept under: two scalars that are *alike* are one
key, so a truth value is the same key as one or zero, and `1` the same as `1.0`.
-/

namespace CardRules

inductive Scalar where
  | null
  | bool (b : Bool)
  | number (n : Number)
  | text (s : String)
  deriving DecidableEq, Repr, Inhabited

namespace Scalar

/-- The number a scalar counts as, where truth values count as one and zero. -/
def asNumber? : Scalar → Option Number
  | .bool b => some (.int (if b then 1 else 0))
  | .number n => some n
  | _ => none

/-- Whether two scalars stand for the same data. -/
def alike (a b : Scalar) : Bool :=
  match a, b with
  | .null, .null => true
  | .text s, .text t => s == t
  | a, b =>
    match a.asNumber?, b.asNumber? with
    | some m, some n => m.alike n
    | _, _ => false

@[simp] theorem alike_self (a : Scalar) : a.alike a = true := by
  cases a <;> simp [alike, asNumber?]

end Scalar

end CardRules
