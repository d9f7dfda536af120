import CardRules.Text.Quoted
import CardRules.Value.Basic

/-!
# Written values

Two ways to write a value. Messages use `written`, with quoted texts, or `shown`, which leaves a text
that stands alone bare. A value with a number too long to be written has no text (`hasText`). The
`{param}` part of a log text uses `compact`: JSON without blanks, with characters outside ASCII as
they are.
-/

namespace CardRules.Value

/-- Parts with a separator between neighbours. -/
def joined (separator : String) (parts : List String) : String := separator.intercalate parts

/-- A key as messages write it. -/
def writtenKey : Scalar → String
  | .null => "None"
  | .bool b => if b then "True" else "False"
  | .number n => n.writeIn Number.messageLayout
  | .text s => Text.quoted s

mutual

/-- A value as messages write it. -/
def written : Value → String
  | .null => writtenKey .null
  | .bool b => writtenKey (.bool b)
  | .number n => writtenKey (.number n)
  | .text s => writtenKey (.text s)
  | .list xs => "[" ++ joined ", " (writtenItems xs) ++ "]"
  | .object es => "\x7b" ++ joined ", " (writtenEntries es) ++ "\x7d"
  | .keyed es => "\x7b" ++ joined ", " (writtenKeyed es) ++ "\x7d"
termination_by structural v => v

/-- The items of a list as messages write them. -/
def writtenItems : List Value → List String
  | [] => []
  | x :: xs => written x :: writtenItems xs
termination_by structural xs => xs

/-- The entries of an object as messages write them. -/
def writtenEntries : List (String × Value) → List String
  | [] => []
  | (k, v) :: es => (Text.quoted k ++ ": " ++ written v) :: writtenEntries es
termination_by structural es => es

/-- The entries of a keyed object as messages write them. -/
def writtenKeyed : List (Scalar × Value) → List String
  | [] => []
  | (k, v) :: es => (writtenKey k ++ ": " ++ written v) :: writtenKeyed es
termination_by structural es => es

end

/-- A value as a message names it: a text as it is, all else as `written`. -/
def shown : Value → String
  | .text s => s
  | v => written v

/-- Whether a key has a text. -/
def keyHasText : Scalar → Bool
  | .number n => n.hasText
  | _ => true

mutual

/-- Whether a value has a text: every number in it has one. -/
def hasText : Value → Bool
  | .null | .bool _ | .text _ => true
  | .number n => n.hasText
  | .list xs => itemsHaveText xs
  | .object es => entriesHaveText es
  | .keyed es => keyedHaveText es
termination_by structural v => v

/-- Whether the items of a list have texts. -/
def itemsHaveText : List Value → Bool
  | [] => true
  | x :: xs => hasText x && itemsHaveText xs
termination_by structural xs => xs

/-- Whether the entries of an object have texts. -/
def entriesHaveText : List (String × Value) → Bool
  | [] => true
  | (_, v) :: es => hasText v && entriesHaveText es
termination_by structural es => es

/-- Whether the entries of a keyed object have texts. -/
def keyedHaveText : List (Scalar × Value) → Bool
  | [] => true
  | (k, v) :: es => keyHasText k && hasText v && keyedHaveText es
termination_by structural es => es

end

/-! ## JSON -/

/-- One character of a JSON text. Quotes, backslashes and control characters are escaped. -/
def jsonChar (c : Char) : List Char :=
  if c = '"' || c = '\\' then ['\\', c]
  else if c = '\n' then ['\\', 'n']
  else if c = '\r' then ['\\', 'r']
  else if c = '\t' then ['\\', 't']
  else if c = '\x08' then ['\\', 'b']
  else if c = '\x0c' then ['\\', 'f']
  else if c.toNat < 0x20 then ['\\', 'u'] ++ Text.hex 4 c.toNat
  else [c]

/-- A JSON text. -/
def jsonText (s : String) : String :=
  String.ofList ('"' :: s.toList.flatMap jsonChar ++ ['"'])

/-- A scalar as JSON. -/
def compactScalar : Scalar → String
  | .null => "null"
  | .bool b => if b then "true" else "false"
  | .number n => n.writeIn Number.snapshotLayout
  | .text s => jsonText s

/-- A key in JSON, where every key is a text. -/
def jsonKey : Scalar → String
  | .text s => jsonText s
  | k => jsonText (compactScalar k)

mutual

/-- A value as JSON without blanks. -/
def compact : Value → String
  | .null => compactScalar .null
  | .bool b => compactScalar (.bool b)
  | .number n => compactScalar (.number n)
  | .text s => compactScalar (.text s)
  | .list xs => "[" ++ joined "," (compactItems xs) ++ "]"
  | .object es => "\x7b" ++ joined "," (compactEntries es) ++ "\x7d"
  | .keyed es => "\x7b" ++ joined "," (compactKeyed es) ++ "\x7d"
termination_by structural v => v

/-- The items of a list as JSON. -/
def compactItems : List Value → List String
  | [] => []
  | x :: xs => compact x :: compactItems xs
termination_by structural xs => xs

/-- The entries of an object as JSON. -/
def compactEntries : List (String × Value) → List String
  | [] => []
  | (k, v) :: es => (jsonText k ++ ":" ++ compact v) :: compactEntries es
termination_by structural es => es

/-- The entries of a keyed object as JSON. -/
def compactKeyed : List (Scalar × Value) → List String
  | [] => []
  | (k, v) :: es => (jsonKey k ++ ":" ++ compact v) :: compactKeyed es
termination_by structural es => es

end

end CardRules.Value
