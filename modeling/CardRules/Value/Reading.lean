import CardRules.Decimal.Reading
import CardRules.Table
import CardRules.Value.Basic

/-!
# Reading JSON

`Value.ofJson?` reads one JSON text. A number with a point or an exponent is a binary64 number, any
other is whole. The numbers that have no digits are read under the names they are written with,
`Infinity`, `-Infinity` and `NaN`. Of entries with the same key the last value stays, in the place
of the first.
-/

namespace CardRules.Value.Reading

/-- The text from its first character that is no JSON blank. -/
def skip (cs : List Char) : List Char :=
  cs.dropWhile fun c => c = ' ' || c = '\t' || c = '\n' || c = '\r'

def isDigit (c : Char) : Bool := '0' ≤ c && c ≤ '9'

/-- The number that ASCII digits spell. -/
def digits (cs : List Char) : Nat := cs.foldl (fun n c => 10 * n + (c.toNat - '0'.toNat)) 0

/-- The value of a hexadecimal digit. -/
def hexDigit? (c : Char) : Option Nat :=
  if '0' ≤ c && c ≤ '9' then some (c.toNat - '0'.toNat)
  else if 'a' ≤ c && c ≤ 'f' then some (c.toNat - 'a'.toNat + 10)
  else if 'A' ≤ c && c ≤ 'F' then some (c.toNat - 'A'.toNat + 10)
  else none

/-- The character a one-letter escape stands for. -/
def escaped? : Char → Option Char
  | 'n' => some '\n'
  | 't' => some '\t'
  | 'r' => some '\r'
  | 'b' => some '\x08'
  | 'f' => some '\x0c'
  | '"' => some '"'
  | '\\' => some '\\'
  | '/' => some '/'
  | _ => none

/-- The characters read so far with the UTF-16 unit `unit` after them, where `high` is a first half
of a pair that still waits for its second. -/
def pushUnit (acc : List Char) (high : Option Nat) (unit : Nat) : List Char × Option Nat :=
  if 0xd800 ≤ unit && unit < 0xdc00 then (acc, some unit)
  else match high with
    | some h =>
      if 0xdc00 ≤ unit && unit < 0xe000 then
        (Char.ofNat (0x10000 + (h - 0xd800) * 0x400 + (unit - 0xdc00)) :: acc, none)
      else (Char.ofNat unit :: acc, none)
    | none => (Char.ofNat unit :: acc, none)

/-- The rest of a text up to its closing quote, `acc` being what was read so far, last first. -/
def text (acc : List Char) (high : Option Nat) : List Char → Option (String × List Char)
  | '"' :: cs => some (String.ofList acc.reverse, cs)
  | '\\' :: 'u' :: a :: b :: c :: d :: cs =>
    match hexDigit? a, hexDigit? b, hexDigit? c, hexDigit? d with
    | some a, some b, some c, some d =>
      let (acc, high) := pushUnit acc high (((a * 16 + b) * 16 + c) * 16 + d)
      text acc high cs
    | _, _, _, _ => none
  | '\\' :: e :: cs =>
    match escaped? e with
    | some c => text (c :: acc) none cs
    | none => none
  | c :: cs => text (c :: acc) none cs
  | [] => none

/-- The sign of an exponent and what follows it. -/
def exponentSign : List Char → Bool × List Char
  | '-' :: cs => (true, cs)
  | '+' :: cs => (false, cs)
  | cs => (false, cs)

/-- A number, with the text behind it. -/
def number (cs : List Char) : Option (Number × List Char) :=
  let (negative, cs) := match cs with
    | '-' :: cs => (true, cs)
    | cs => (false, cs)
  let whole := cs.takeWhile isDigit
  let cs := cs.dropWhile isDigit
  if whole.isEmpty then none else
  let (fraction, cs) := match cs with
    | '.' :: cs => (some (cs.takeWhile isDigit), cs.dropWhile isDigit)
    | cs => (none, cs)
  let (exponent, cs) := match cs with
    | 'e' :: cs | 'E' :: cs =>
      let (minus, cs) := exponentSign cs
      let n : Int := digits (cs.takeWhile isDigit)
      (some (if minus then -n else n), cs.dropWhile isDigit)
    | cs => (none, cs)
  if fraction.isNone && exponent.isNone then
    let n : Int := digits whole
    some (.int (if negative then -n else n), cs)
  else
    let places := fraction.getD []
    some (.float (.ofDecimal negative (digits (whole ++ places))
      (exponent.getD 0 - places.length)), cs)

mutual

/-- A value, with the text behind it. `fuel` bounds the number of nested steps. -/
def value : Nat → List Char → Option (Value × List Char)
  | 0, _ => none
  | fuel + 1, cs => match skip cs with
    | 'n' :: 'u' :: 'l' :: 'l' :: cs => some (.null, cs)
    | 't' :: 'r' :: 'u' :: 'e' :: cs => some (.bool true, cs)
    | 'f' :: 'a' :: 'l' :: 's' :: 'e' :: cs => some (.bool false, cs)
    | 'N' :: 'a' :: 'N' :: cs => some (.number (.float .nan), cs)
    | 'I' :: 'n' :: 'f' :: 'i' :: 'n' :: 'i' :: 't' :: 'y' :: cs =>
      some (.number (.float (.infinite false)), cs)
    | '-' :: 'I' :: 'n' :: 'f' :: 'i' :: 'n' :: 'i' :: 't' :: 'y' :: cs =>
      some (.number (.float (.infinite true)), cs)
    | '"' :: cs => (text [] none cs).map fun (s, cs) => (.text s, cs)
    | '[' :: cs => match skip cs with
      | ']' :: cs => some (.list [], cs)
      | cs => (items fuel cs).map fun (xs, cs) => (.list xs, cs)
    | '\x7b' :: cs => match skip cs with
      | '\x7d' :: cs => some (.object [], cs)
      | cs => (entries fuel cs).map fun (es, cs) => (.object (Table.putAll [] es), cs)
    | cs => (number cs).map fun (n, cs) => (.number n, cs)

/-- The items of a list up to its end. -/
def items : Nat → List Char → Option (List Value × List Char)
  | 0, _ => none
  | fuel + 1, cs => do
    let (x, cs) ← value fuel cs
    match skip cs with
    | ',' :: cs => (items fuel cs).map fun (xs, cs) => (x :: xs, cs)
    | ']' :: cs => some ([x], cs)
    | _ => none

/-- The entries of an object up to its end. -/
def entries : Nat → List Char → Option (List (String × Value) × List Char)
  | 0, _ => none
  | fuel + 1, cs => match skip cs with
    | '"' :: cs => do
      let (k, cs) ← text [] none cs
      match skip cs with
      | ':' :: cs =>
        let (v, cs) ← value fuel cs
        match skip cs with
        | ',' :: cs => (entries fuel cs).map fun (es, cs) => ((k, v) :: es, cs)
        | '\x7d' :: cs => some ([(k, v)], cs)
        | _ => none
      | _ => none
    | _ => none

end

end CardRules.Value.Reading

namespace CardRules

/-- The value that a JSON text writes. -/
def Value.ofJson? (s : String) : Option Value :=
  let cs := s.toList
  match Value.Reading.value (2 * cs.length + 2) cs with
  | some (v, rest) => if (Value.Reading.skip rest).isEmpty then some v else none
  | none => none

end CardRules
