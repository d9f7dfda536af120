/-!
# Tables

Finite maps from names that keep the order in which their keys came in. A table is a list of entries
with different keys; `put` keeps it so.
-/

namespace CardRules

/-- Entries in the order of their keys' first arrival. -/
abbrev Table (α : Type) := List (String × α)

namespace Table

variable {α : Type}

/-- The value at a key. -/
def get? (t : Table α) (key : String) : Option α := t.lookup key

/-- Whether the table has the key. -/
def has (t : Table α) (key : String) : Bool := (t.get? key).isSome

/-- The table with `value` at `key`, which keeps its place if it has one and comes last if not. -/
def put (key : String) (value : α) : Table α → Table α
  | [] => [(key, value)]
  | (k, v) :: rest => if k = key then (key, value) :: rest else (k, v) :: put key value rest

/-- The table with every entry of another put into it in order. -/
def putAll (t new : Table α) : Table α := new.foldl (fun t e => t.put e.1 e.2) t

/-- The table without a key. -/
def erase (t : Table α) (key : String) : Table α := t.filter fun e => e.1 != key

/-- The keys in order. -/
def keys (t : Table α) : List String := t.map (·.1)

/-! ## What `put` does to look-ups -/

@[simp] theorem get?_nil (key : String) : get? ([] : Table α) key = none := rfl

theorem get?_cons (k key : String) (v : α) (t : Table α) :
    get? ((k, v) :: t) key = if key = k then some v else get? t key := by
  by_cases h : key = k
  · simp [get?, h]
  · have hb : (key == k) = false := by simpa using h
    rw [get?, List.lookup_cons, hb, if_neg h]
    rfl

@[simp] theorem get?_put_self (key : String) (v : α) (t : Table α) :
    (t.put key v).get? key = some v := by
  induction t with
  | nil => simp [put, get?_cons]
  | cons e t ih =>
    obtain ⟨k, w⟩ := e
    by_cases h : k = key
    · simp [put, h, get?_cons]
    · simp [put, h, get?_cons, Ne.symm h, ih]

theorem get?_put_ne {key key' : String} (v : α) (t : Table α) (hne : key' ≠ key) :
    (t.put key v).get? key' = t.get? key' := by
  induction t with
  | nil => simp [put, get?_cons, hne]
  | cons e t ih =>
    obtain ⟨k, w⟩ := e
    by_cases h : k = key
    · subst h; simp [put, get?_cons, hne]
    · simp [put, h, get?_cons, ih]

end Table

end CardRules
