import CardRules.Schema.Shape

/-!
# Views of checked values

A value that has passed a check has the shape the check promises. These functions read it as plain
data; a value of any other shape reads as empty.
-/

namespace CardRules.Schema

def asText : Value → String
  | .text s => s
  | _ => ""

def asWhole : Value → Int
  | .number (.int i) => i
  | _ => 0

def asNumber : Value → Number
  | .number n => n
  | _ => .int 0

def asTruth : Value → Bool
  | .bool b => b
  | _ => false

def asItems : Value → List Value
  | .list xs => xs
  | _ => []

def asEntries : Value → Table Value
  | .object es => es
  | _ => []

/-- Null as none. -/
def asOption {α : Type} (f : Value → α) : Value → Option α
  | .null => none
  | v => some (f v)

def asTexts (v : Value) : List String := (asItems v).map asText

/-- The values of a table, each read. -/
def asTable {α : Type} (f : Value → α) (v : Value) : Table α :=
  (asEntries v).map fun (k, v) => (k, f v)

/-- The value of a model's field. -/
def fieldOf (v : Value) (camel : String) : Value := ((asEntries v).get? camel).getD .null

/-! ## Fields -/

/-- A field that must be given. -/
def required (camel name : String) (check : Check) : Field := ⟨camel, name, check, none⟩

/-- A field with a default. -/
def withDefault (camel name : String) (check : Check) (default : Value) : Field :=
  ⟨camel, name, check, some default⟩

/-- A field that may be null and is null by default. -/
def nullable (camel name : String) (check : Check) : Field :=
  withDefault camel name (optional check) .null

end CardRules.Schema
