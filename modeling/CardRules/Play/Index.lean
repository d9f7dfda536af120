import CardRules.Fault
import CardRules.Text.Blank
import CardRules.Text.Digit

/-!
# Index parameters

A parameter that names a place in a hand may be a whole number, a binary64 number without a fraction
or the text of a whole number. `asIndex?` turns these into whole numbers and leaves all else as it
is, for the effect to refuse. A text of digit marks that spells no number, such as a superscript
digit or a digit between information separators, has no reading at all, and neither has one with too
many digits.
-/

namespace CardRules

open Text

/-- Whether a text without blanks around it has the form of an index: hyphens and then digit marks,
at least one. -/
def looksLikeIndex (cs : List Char) : Bool :=
  let digits := cs.dropWhile (· = '-')
  !digits.isEmpty && digits.all isDigitMark

/-- The whole number that a text without white space around it spells: at most one hyphen and then
decimal digits. -/
def wholeOf? (cs : List Char) : Option Int :=
  let (negative, ds) := match cs with
    | '-' :: ds => (true, ds)
    | ds => (false, ds)
  if !ds.isEmpty && ds.all isDecimalDigit && ds.length ≤ longestNumeral then
    some (if negative then -(digitsValue ds : Int) else digitsValue ds)
  else none

/-- A parameter as a whole number where it names one. -/
def asIndex? : Value → Except Fault Value
  | .number (.float x) =>
    if x.isWhole then
      match x.truncate? with
      | some i => .ok (.int i)
      | none => .ok (.float x)
    else .ok (.float x)
  | .text s =>
    if looksLikeIndex (trimBy isBlank s.toList) then
      match wholeOf? (trimBy isWhiteSpace s.toList) with
      | some i => .ok (.int i)
      | none => .error .unreadable
    else .ok (.text s)
  | v => .ok v

/-- The place that an index names among `size` places. -/
def slot? (index : Value) (size : Nat) : Option Nat :=
  match index with
  | .number (.int i) => if 0 ≤ i ∧ i < size then some i.toNat else none
  | _ => none

end CardRules
