import CardRules.Value.Writing

/-!
# Faults

A *fault* is a failure outside the vocabulary of rule errors: an operation met a value of a shape it
has no meaning for. Faults arise when a snapshot, a flag written by a rule or a caller's argument
holds something other than the rules expect.
-/

namespace CardRules

inductive Fault where
  /-- A value of a kind the operation is not defined for. -/
  | wrongKind
  /-- A value without the operation or entry asked for. -/
  | missingMember
  /-- A place outside a list. -/
  | outOfRange
  /-- A key absent from an object. -/
  | missingKey
  /-- A value of the right kind with no reading, such as a text that spells no number, or with no
  text, such as a whole number with too many digits. -/
  | unreadable
  /-- A remainder by zero. -/
  | zeroDivisor
  /-- A number too large for binary64. -/
  | overflow
  /-- Effect lists nested beyond the interpreter's budget. -/
  | nestedTooDeeply
  deriving DecidableEq, Repr, Inhabited

namespace Value

/-- A value as a message names it, if it has a text. -/
def shown? (v : Value) : Except Fault String :=
  if v.hasText then .ok v.shown else .error .unreadable

/-- Truth in a condition. Null, false, zero, `nan` and the empty text are false; every list and
object is true, also an empty one. Whether a number is `nan` is asked of its binary64 form, so a
whole number that has none has no truth. -/
def truth? : Value → Except Fault Bool
  | .null => .ok false
  | .bool b => .ok b
  | .number n =>
    match n.toBinary64? with
    | some x => .ok (!n.isZero && !x.isNaN)
    | none => .error .overflow
  | .text s => .ok (s != "")
  | .list _ | .object _ | .keyed _ => .ok true

/-- The number of characters, items or entries of a value that has such. -/
def size? : Value → Except Fault Nat
  | .text s => .ok s.length
  | .list xs => .ok xs.length
  | .object es => .ok es.length
  | .keyed es => .ok es.length
  | _ => .error .wrongKind

/-- The parts of a value in order: the items of a list, the characters of a text and the keys of an
object. -/
def parts? : Value → Except Fault (List Value)
  | .list xs => .ok xs
  | .text s => .ok (s.toList.map fun c => .text (String.singleton c))
  | .object es => .ok (es.map fun e => .text e.1)
  | .keyed es => .ok (es.map fun e => .ofScalar e.1)
  | _ => .error .wrongKind

/-- The value under a name, null if an object has none. -/
def named? (v : Value) (name : String) : Except Fault Value :=
  match v.entries? with
  | some es => .ok ((es.get? (.text name)).getD .null)
  | none => .error .missingMember

/-- The key and the value that a value of two parts stands for. -/
def pair? (v : Value) : Except Fault (Scalar × Value) := do
  match ← v.parts? with
  | [k, x] =>
    match k.scalar? with
    | some k => return (k, x)
    | none => throw .wrongKind
  | _ => throw .unreadable

/-- The object that a value stands for: itself if it is one, the object of the pairs that its parts
are, or an empty one if the value is void. -/
def asObject? (v : Value) : Except Fault Value :=
  if v.isVoid then .ok (.object [])
  else if v.entries?.isSome then .ok v
  else do return .ofEntries (Entries.putAll [] (← (← v.parts?).mapM pair?))

end Value

end CardRules
