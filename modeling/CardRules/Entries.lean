import CardRules.Scalar

/-!
# Entries

Finite maps from scalars, in the order in which their keys came in. They differ from tables in what
their keys are and in that keys are compared by what they stand for: an entry that is put under a key
alike to an earlier one replaces its value and leaves the earlier key.
-/

namespace CardRules

/-- Entries in the order of their keys' first arrival. -/
abbrev Entries (α : Type) := List (Scalar × α)

namespace Entries

variable {α : Type}

/-- The value under a key. -/
def get? (es : Entries α) (key : Scalar) : Option α :=
  (es.find? fun e => e.1.alike key).map (·.2)

/-- The entries with `value` under `key`, in the place of an alike key or last. -/
def put (key : Scalar) (value : α) : Entries α → Entries α
  | [] => [(key, value)]
  | (k, v) :: rest => if k.alike key then (k, value) :: rest else (k, v) :: put key value rest

/-- The entries with others put into them in order. -/
def putAll (es new : Entries α) : Entries α := new.foldl (fun es e => es.put e.1 e.2) es

/-- The entries without a key. -/
def erase (es : Entries α) (key : Scalar) : Entries α := es.filter fun e => !e.1.alike key

/-! ## What `put` and `erase` do to look-ups -/

@[simp] theorem get?_put_self (key : Scalar) (v : α) (es : Entries α) :
    (es.put key v).get? key = some v := by
  induction es with
  | nil => simp [put, get?]
  | cons e es ih =>
    obtain ⟨k, w⟩ := e
    cases h : k.alike key with
    | true => simp [put, get?, h]
    | false => simpa [put, get?, h] using ih

@[simp] theorem get?_erase_self (key : Scalar) (es : Entries α) : (es.erase key).get? key = none := by
  simp [erase, get?]

end Entries

end CardRules
