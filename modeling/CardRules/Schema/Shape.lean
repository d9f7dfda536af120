import CardRules.Schema.Scalar
import CardRules.Table

/-!
# Checks of lists, tables and models

A *model* is an object with known fields. Each field has two spellings, a camel one and one with
underscores; the camel one wins where both are given, and the other then stays as an extra entry. The
normal form of a model holds every field under its camel name, in order, with defaults filled in,
and then the extra entries. Issues of all parts are collected in order.
-/

namespace CardRules.Schema

/-! ## Collecting -/

/-- The values of all results, or the issues of all that failed. -/
def collect {α : Type} : List (Except (List Issue) α) → Except (List Issue) (List α)
  | [] => .ok []
  | .ok a :: rs =>
    match collect rs with
    | .ok as => .ok (a :: as)
    | .error is => .error is
  | .error is :: rs =>
    match collect rs with
    | .ok _ => .error is
    | .error js => .error (is ++ js)

/-- A result with its issues moved under a step. -/
def under {α : Type} (s : Step) : Except (List Issue) α → Except (List Issue) α
  | .ok a => .ok a
  | .error is => .error (is.map (Issue.under s))

/-! ## Optional values, lists and tables -/

/-- Null, or a value that passes. -/
def optional (check : Check) : Check
  | .null => .ok .null
  | v => check v

/-- The checks of the items from a place on. -/
def itemsFrom (check : Check) : Nat → List Value → List (Except (List Issue) Value)
  | _, [] => []
  | i, v :: vs => under (.place i) (check v) :: itemsFrom check (i + 1) vs

/-- A list whose items pass. -/
def listOf (check : Check) : Check
  | .list vs => (collect (itemsFrom check 0 vs)).map .list
  | _ => problem .notList

/-- The check of an entry. -/
def entryOf (check : Check) (e : String × Value) : Except (List Issue) (String × Value) :=
  under (.key e.1) ((check e.2).map (e.1, ·))

/-- An object whose values pass, whatever its keys are. -/
def tableOf (check : Check) : Check
  | .object es => (collect (es.map (entryOf check))).map .object
  | _ => problem .notObject

/-! ## Models -/

/-- A field of a model. -/
structure Field where
  /-- The camel spelling. -/
  camel : String
  /-- The spelling with underscores. -/
  name : String
  check : Check
  /-- The normal form of a field that is left out, unless it is required. -/
  default : Option Value

namespace Field

/-- The value given for a field, with the spelling it is given under. -/
def given? (f : Field) (es : Table Value) : Option (String × Value) :=
  match Table.get? es f.camel with
  | some v => some (f.camel, v)
  | none => (Table.get? es f.name).map (f.name, ·)

/-- The normal form of a field, under its camel name. Issues are found under the spelling that was
used, and a missing field under the camel one. -/
def read (es : Table Value) (f : Field) : Except (List Issue) (String × Value) :=
  match f.given? es with
  | some (key, v) => under (.key key) ((f.check v).map (f.camel, ·))
  | none =>
    match f.default with
    | some v => .ok (f.camel, v)
    | none => .error [⟨[.key f.camel], .missing⟩]

/-- Whether a key gives the field its value. -/
def takes (es : Table Value) (key : String) (f : Field) : Bool :=
  key == f.camel || (key == f.name && !Table.has es f.camel)

end Field

/-- The entries that give no field its value. -/
def extrasOf (fields : List Field) (es : Table Value) : Table Value :=
  es.filter fun e => !fields.any (Field.takes es e.1)

/-- A model: its known fields, then its extra entries. -/
def model (title : String) (fields : List Field) : Check
  | .object es =>
    (collect (fields.map (Field.read es))).map fun known => .object (known ++ extrasOf fields es)
  | _ => problem (.notModel title)

end CardRules.Schema
