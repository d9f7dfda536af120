import CardRules.Random

/-!
# Shuffling

A list is shuffled from its last place down to its second: a draw picks a place up to the current
one, and the two items change places. A draw that picks no place of the list stops the shuffle, with
the exchanges made so far left in the list.
-/

namespace CardRules

/-- The list with the items in two places exchanged. -/
def exchange {α : Type} (xs : List α) (i j : Nat) : List α :=
  match xs[i]?, xs[j]? with
  | some x, some y => (xs.set i y).set j x
  | _, _ => xs

/-- The whole part of a draw times `n`. -/
def scaledDraw? (draw : Number) (n : Nat) : Except Fault Int :=
  match draw.mul (.int n) with
  | none => .error .overflow
  | some (.int i) => .ok i
  | some (.float x) =>
    match x.truncate? with
    | some i => .ok i
    | none => .error (if x.isNaN then .unreadable else .overflow)

/-- The place that a possibly negative index names in a list of `size` items; a negative index
counts from the end. -/
def placeOf? (i : Int) (size : Nat) : Option Nat :=
  if 0 ≤ i then if i < size then some i.toNat else none
  else if 0 ≤ i + size then some (i + size).toNat else none

/-- What a shuffle leaves: the list, the source, and the fault that stopped it, if any. -/
structure Shuffled (α : Type) where
  items : List α
  source : Source
  fault : Option Fault

/-- The steps of a shuffle from place `i` down to place one. -/
def shuffleFrom {α : Type} (source : Source) : Nat → List α → Shuffled α
  | 0, xs => ⟨xs, source, none⟩
  | i + 1, xs =>
    let (draw, source) := source.next
    match scaledDraw? draw (i + 2) with
    | .error f => ⟨xs, source, some f⟩
    | .ok j =>
      match placeOf? j xs.length with
      | none => ⟨xs, source, some .outOfRange⟩
      | some j => shuffleFrom source i (exchange xs (i + 1) j)

/-- The list shuffled with draws of the source. -/
def shuffle {α : Type} (source : Source) (xs : List α) : Shuffled α :=
  shuffleFrom source (xs.length - 1) xs

end CardRules
