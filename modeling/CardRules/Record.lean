import CardRules.FieldName
import CardRules.Value.Equality
import CardRules.Value.Writing

/-!
# Records

A record of the game has declared fields and *extras*, further entries under names that spell no
declared field. Rules address both by name: a name whose underscored spelling is that of a declared
field means that field, any other name means the extra of exactly that name. Everything here is
stated once for all kinds of record.
-/

namespace CardRules

/-- A kind of record: its declared fields and how they are kept. -/
class Record (ρ : Type) where
  /-- The declared fields. -/
  Field : Type
  /-- The name a message gives to the kind of record. -/
  title : String
  /-- All declared fields, in the order messages list them. -/
  fields : List Field
  /-- The underscored name of a field. -/
  name : Field → String
  get : ρ → Field → Value
  set : ρ → Field → Value → ρ
  extras : ρ → Table Value
  withExtras : ρ → Table Value → ρ

namespace Record

variable {ρ : Type} [Record ρ]

/-- The declared field that a name spells. -/
def field? (ρ : Type) [Record ρ] (n : String) : Option (Field ρ) :=
  (fields : List (Field ρ)).find? fun f => name f == FieldName.underscored n

/-- The value under a name, null where there is none. -/
def read (r : ρ) (n : String) : Value :=
  match field? ρ n with
  | some f => get r f
  | none => ((extras r).get? n).getD .null

/-- Whether there is a value under a name. -/
def has (r : ρ) (n : String) : Bool := (field? ρ n).isSome || (extras r).has n

/-- The record with a value under a name. -/
def write (r : ρ) (n : String) (v : Value) : ρ :=
  match field? ρ n with
  | some f => set r f v
  | none => withExtras r ((extras r).put n v)

/-- The record with the value of each entry written under its key, in order. -/
def writeAll (r : ρ) (es : Table Value) : ρ := es.foldl (fun r e => write r e.1 e.2) r

/-- A field put among fields in the order of their names. -/
def insertByName (f : Field ρ) : List (Field ρ) → List (Field ρ)
  | [] => [f]
  | g :: gs => if name g < name f then g :: insertByName f gs else f :: g :: gs

/-- All declared fields, in the order snapshots list them. -/
def fieldsByName (ρ : Type) [Record ρ] : List (Field ρ) := fields.foldr insertByName []

/-- The record as an object: the declared fields under their camel names, then the extras. -/
def snapshot (r : ρ) : Value :=
  .object (Table.putAll ((fieldsByName ρ).map fun f => (FieldName.camel (name f), get r f))
    (extras r))

/-- Whether two records hold alike values. -/
def alike (r s : ρ) : Bool :=
  fields.all (fun f => (get r f).alike (get s f))
    && (Value.object (extras r)).alike (.object (extras s))

/-- Whether two records hold equal values. Unlike `alike` this fails of two records whose field is
`nan`. -/
def equal (r s : ρ) : Bool :=
  fields.all (fun f => (get r f).same (get s f))
    && (Value.object (extras r)).alike (.object (extras s))

/-- Whether every value of a record has a text. -/
def hasText (r : ρ) : Bool :=
  fields.all (fun f => (get r f).hasText) && (Value.object (extras r)).hasText

/-- The record as messages write it. -/
def written (r : ρ) : String :=
  let declared := fields.map fun f => name f ++ "=" ++ (get r f).written
  title ρ ++ "(" ++ Value.joined ", " (declared ++ ["extras=" ++ (Value.object (extras r)).written])
    ++ ")"

end Record

end CardRules
