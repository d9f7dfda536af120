import CardRules.Decimal.Reading
import CardRules.Schema.Issue
import CardRules.Text.Blank

/-!
# Lenient readings of scalars

A check takes a value to its normal form or says what is wrong with it. Numbers and truth values are
read leniently: also from texts, and from one another where nothing is lost.
-/

namespace CardRules.Schema

open Decimal Text

/-- A check of a value: its normal form, or the issues found. -/
abbrev Check := Value → Except (List Issue) Value

/-- One problem with the whole value. -/
def problem {α : Type} (p : Problem) : Except (List Issue) α := .error [⟨[], p⟩]

/-! ## Texts and anything -/

/-- Texts alone. -/
def text : Check
  | .text s => .ok (.text s)
  | _ => problem .notText

/-- Any value. -/
def anything : Check := .ok

/-- Any object. -/
def anyObject : Check
  | .object es => .ok (.object es)
  | _ => problem .notObject

/-! ## Numerals in texts -/

def isDigit (c : Char) : Bool := '0' ≤ c && c ≤ '9'

/-- The number that ASCII digits spell. -/
def digits (cs : List Char) : Nat := cs.foldl (fun n c => 10 * n + (c.toNat - '0'.toNat)) 0

/-- The sign in front of a numeral, and the numeral. -/
def signed : List Char → Bool × List Char
  | '-' :: cs => (true, cs)
  | '+' :: cs => (false, cs)
  | cs => (false, cs)

/-- Digits without the underscores that stand alone between two of them. None if anything else is
there, or nothing at all. -/
def grouped? : List Char → Option (List Char)
  | [] => none
  | [c] => if isDigit c then some [c] else none
  | c :: '_' :: cs => if isDigit c then (grouped? cs).map (c :: ·) else none
  | c :: cs => if isDigit c then (grouped? cs).map (c :: ·) else none

/-- The text without the zeros at its start and the underscores among them. A zero right before the
end or a point stays. -/
def withoutLeadingZeros : List Char → List Char
  | '0' :: cs =>
    match cs.dropWhile fun c => c = '0' || c = '_' with
    | [] => if cs.getLast? = some '_' then '0' :: cs else ['0']
    | '.' :: rest =>
      if (cs.takeWhile (· ≠ '.')).getLast? = some '_' then '0' :: cs else '0' :: '.' :: rest
    | rest => if (rest.head?.map isDigit).getD false then rest else '0' :: cs
  | cs => cs

/-- The text without a fraction of zeros. -/
def withoutZeroFraction (cs : List Char) : List Char :=
  match cs.dropWhile (· ≠ '.') with
  | '.' :: zeros =>
    if !zeros.isEmpty && zeros.all (· = '0') then cs.takeWhile (· ≠ '.') else cs
  | _ => cs

/-- The numeral behind leading zeros and a minus sign. -/
def minusBehindZeros? : List Char → Option (List Char)
  | '0' :: cs =>
    match cs.dropWhile fun c => c = '0' || c = '_' with
    | '-' :: '_' :: ds | '-' :: ds => some ds
    | _ => none
  | _ => none

/-- Digits without a zero in front of others. -/
def unpadded? : List Char → Option (List Char)
  | '0' :: _ :: _ => none
  | ds => some ds

/-- The whole number a text spells: blanks around it, a sign, leading zeros, underscores between
digits and a fraction of zeros are allowed. A minus sign may also stand behind the leading zeros,
if there is none in front and no further zeros pad what follows. -/
def wholeOfText? (s : String) : Option Int :=
  let (negative, cs) := signed (trimBy isWhiteSpace s.toList)
  match negative, minusBehindZeros? cs with
  | false, some ds =>
    ((grouped? (withoutZeroFraction ds)).bind unpadded?).map fun ds => -digits ds
  | _, _ =>
    (grouped? (withoutZeroFraction (withoutLeadingZeros cs))).map fun ds =>
      if negative then -digits ds else digits ds

/-- The text in small letters of ASCII. -/
def lowered (cs : List Char) : List Char := cs.map Char.toLower

/-- The power of ten a text ends with: none at all counts as zero. -/
def exponentOf? : List Char → Option Int
  | [] => some 0
  | e :: cs =>
    if e = 'e' || e = 'E' then
      let (negative, ds) := signed cs
      if !ds.isEmpty && ds.all isDigit then some (if negative then -digits ds else digits ds)
      else none
    else none

/-- The binary64 number a text without blanks spells in digits, with a point and an exponent, or by
name. -/
def plainNumber? (cs : List Char) : Option Binary64 :=
  let (negative, cs) := signed cs
  if lowered cs = ['n', 'a', 'n'] then some .nan
  else if lowered cs = ['i', 'n', 'f'] || lowered cs = ['i', 'n', 'f', 'i', 'n', 'i', 't', 'y'] then
    some (.infinite negative)
  else
    let whole := cs.takeWhile isDigit
    let rest := cs.dropWhile isDigit
    let (places, rest) := match rest with
      | '.' :: rest => (rest.takeWhile isDigit, rest.dropWhile isDigit)
      | rest => ([], rest)
    if whole.isEmpty && places.isEmpty then none
    else (exponentOf? rest).map fun e =>
      .ofDecimal negative (digits (whole ++ places)) (e - places.length)

/-- Whether every underscore of a text stands alone between two other characters. -/
def underscoresApart : List Char → Bool
  | [] => true
  | ['_'] => false
  | '_' :: '_' :: _ => false
  | _ :: cs => underscoresApart cs

/-- The binary64 number a text spells; underscores alone between two characters are passed over. -/
def numberOfText? (s : String) : Option Binary64 :=
  (plainNumber? (trimBy isWhiteSpace s.toList)).or <|
    if s.toList.contains '_' && s.toList.head? ≠ some '_' && underscoresApart s.toList then
      plainNumber? (s.toList.filter (· ≠ '_'))
    else none

/-! ## Numbers and truth values -/

/-- The least whole number too large for 64 bits with a sign. -/
def wordEnd : Nat := Nat.pow 2 63

/-- Whole numbers: also truth values, binary64 numbers without a fraction, and texts. -/
def whole : Check
  | .number (.int i) => .ok (.int i)
  | .bool b => .ok (.int (if b then 1 else 0))
  | .number (.float x) =>
    match x with
    | .finite _ _ =>
      if !x.isWhole then problem .hasFraction
      else match x.truncate? with
        | some i => if i.natAbs < wordEnd then .ok (.int i) else problem .tooLargeForWhole
        | none => problem .notFinite
    | _ => problem .notFinite
  | .text s =>
    match wholeOfText? s with
    | some i => .ok (.int i)
    | none => problem .unreadableWhole
  | _ => problem .notWhole

/-- The words for yes. -/
def truthWords : List String := ["1", "on", "t", "true", "y", "yes"]

/-- The words for no. -/
def falsityWords : List String := ["0", "off", "f", "false", "n", "no"]

/-- The truth value of a whole number: one is true, zero is false, and what lies outside 64 bits is
no candidate at all. -/
def truthOfWhole (i : Int) : Except (List Issue) Value :=
  if i = 1 then .ok (.bool true)
  else if i = 0 then .ok (.bool false)
  else if -wordEnd ≤ i ∧ i < wordEnd then problem .unreadableTruth
  else problem .notTruth

/-- Truth values: also the numbers one and zero, and words for yes and no. A binary64 number counts
as the whole number it is, if it is one above `-2 ^ 63`. -/
def truth : Check
  | .bool b => .ok (.bool b)
  | .number (.int i) => truthOfWhole i
  | .number (.float x) =>
    if x.isWhole then
      match x.truncate? with
      | some i => if i = -wordEnd then problem .notTruth else truthOfWhole i
      | none => problem .notTruth
    else problem .notTruth
  | .text s =>
    let word := String.ofList (lowered s.toList)
    if truthWords.contains word then .ok (.bool true)
    else if falsityWords.contains word then .ok (.bool false)
    else problem .unreadableTruth
  | _ => problem .notTruth

/-- The issues of a value that is neither a whole nor a binary64 number. -/
def neitherNumber {α : Type} (asWhole asReal : Problem) : Except (List Issue) α :=
  .error [⟨[.key "int"], asWhole⟩, ⟨[.key "float"], asReal⟩]

/-- Numbers as they are: also truth values, which become whole, and texts, which are read as whole
numbers first. -/
def number : Check
  | .number n => .ok (.number n)
  | .bool b => .ok (.int (if b then 1 else 0))
  | .text s =>
    match wholeOfText? s with
    | some i => .ok (.int i)
    | none =>
      match numberOfText? s with
      | some x => .ok (.float x)
      | none => neitherNumber .unreadableWhole .unreadableNumber
  | _ => neitherNumber .notWhole .notNumber

end CardRules.Schema
