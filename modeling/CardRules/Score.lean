import CardRules.Fault

/-!
# Cards and their scores

A card is a code whose last character is its suit and whose other characters are its rank. A hand
scores the sum of the values of its cards' ranks, where a rank without a value counts zero.
-/

namespace CardRules

/-- The rank of a card code. -/
def cardRank (code : String) : String := String.ofList code.toList.dropLast

/-- The value of a card in a table of rank values. -/
def cardValue? (values : Value) (card : Value) : Except Fault Value :=
  match values.entries?, card with
  | some es, .text code => .ok ((es.get? (.text (cardRank code))).getD (.int 0))
  | some _, _ => .error .wrongKind
  | none, _ => .error .missingMember

/-- A running sum with a card's value added. -/
def addValue? (sum : Number) (v : Value) : Except Fault Number :=
  match v.asNumber? with
  | none => .error .wrongKind
  | some n =>
    match sum.add n with
    | some n => .ok n
    | none => .error .overflow

/-- The score of a hand by a table of rank values. -/
def handScore? (values : Value) (hand : Value) : Except Fault Number := do
  (← hand.parts?).foldlM (fun sum card => do addValue? sum (← cardValue? values card)) (.int 0)

end CardRules
