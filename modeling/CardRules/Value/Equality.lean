import CardRules.Table
import CardRules.Value.Basic

/-!
# Equality of value

Two values are *alike* when they stand for the same data: numbers are compared by value, a truth
value inside a list or object equals one or zero, and objects are compared without regard to the
order of their entries. A `nan` inside a list or object is alike to `nan`, since it stands for
itself. At the top of a comparison the rule is stricter (`equals`): a truth value equals truth values
alone, and `nan` equals nothing.
-/

namespace CardRules.Value

mutual

/-- Whether two values stand for the same data. -/
def alike : Value → Value → Bool
  | .null, b => match b with
    | .null => true
    | _ => false
  | .bool x, b => match b.asNumber? with
    | some n => (Number.int (if x then 1 else 0)).alike n
    | none => false
  | .number m, b => match b.asNumber? with
    | some n => m.alike n
    | none => false
  | .text s, b => match b with
    | .text t => s == t
    | _ => false
  | .list xs, b => match b with
    | .list ys => alikeItems xs ys
    | _ => false
  | .object es, b => match b with
    | .object fs => es.length == fs.length && alikeEntries es fs
    | _ => false
  | .keyed es, b => match b with
    | .keyed fs => es.length == fs.length && alikeKeyed es fs
    | _ => false
termination_by structural a => a

/-- Whether two lists have the same length and alike values in each place. -/
def alikeItems : List Value → List Value → Bool
  | [], [] => true
  | x :: xs, y :: ys => alike x y && alikeItems xs ys
  | _, _ => false
termination_by structural xs => xs

/-- Whether a table has an alike value at each of the keys. -/
def alikeEntries : List (String × Value) → Table Value → Bool
  | [], _ => true
  | (k, v) :: es, fs =>
    (match fs.get? k with
      | some w => alike v w
      | none => false) && alikeEntries es fs
termination_by structural es => es

/-- Whether entries under scalars have alike values under alike keys. -/
def alikeKeyed : List (Scalar × Value) → Entries Value → Bool
  | [], _ => true
  | (k, v) :: es, fs =>
    (match fs.get? k with
      | some w => alike v w
      | none => false) && alikeKeyed es fs
termination_by structural es => es

end

/-- Equality in which numbers are compared as numbers throughout, so that `nan` differs from itself
at the top. -/
def same (a b : Value) : Bool :=
  match a, b with
  | .number m, .number n => m.eqv n
  | a, b => alike a b

/-- Equality as a condition tests it. -/
def equals (a b : Value) : Bool :=
  match a, b with
  | .bool x, .bool y => x == y
  | .bool _, _ | _, .bool _ => false
  | a, b => same a b

end CardRules.Value
