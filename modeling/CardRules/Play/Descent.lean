import CardRules.Play.Operation

/-!
# What effects come down to

To run, an effect reads the game, and then carries out an operation, runs one nested list of effects
or does nothing. All conditions and gates are in the reading, which leaves the game alone.
-/

namespace CardRules

/-- A leaf effect: an operation and the circumstances it runs in. -/
structure Leaf where
  circumstances : Circumstances
  operation : Operation
  deriving DecidableEq, Repr

/-- Carries out a leaf effect. -/
def Leaf.perform (b : Rulebook) (l : Leaf) : Play Unit := Play.perform b l.circumstances l.operation

/-- What is left of an effect once its condition or the gate of its ability was read. -/
inductive Descent where
  | leaf (l : Leaf)
  /-- A nested list of effects: those of the rule, or those of a branch. -/
  | list (rule : Option String) (c : Circumstances) (raws : List RawEffect)
  | nothing

namespace Rulebook

/-- The effects of an ability, if it may run with the parameters. -/
def abilityDescent? (b : Rulebook) (g : Game) (actor : Value) (id : String) (params : Value) :
    Except Failure Descent := do
  let r ← b.checkedAbility? g actor id params
  return .list (some id) { playerId := actor, params, abilityContext := params } r.effects

/-- The effects of the ability bound to a card, if one is. -/
def boundDescent? (b : Rulebook) (g : Game) (actor index card : Value) :
    Except Failure Descent := do
  match ← orFault (b.document.abilityForCard? card) with
  | none | some "" => return .nothing
  | some id => b.abilityDescent? g actor id (.object [("handIndex", index), ("cardCode", card)])

/-- The effects of the ability bound to the card in a place of the current player's hand. -/
def cardDescent? (b : Rulebook) (c : Circumstances) (g : Game) (indexParam : Option String) :
    Except Failure Descent := do
  let index ← orFault (do asIndex? (← c.param? indexParam))
  let seat ← orFault g.currentSeat?
  let p ← orFault (g.player? seat)
  let size ← orFault p.hand.size?
  match slot? index size with
  | some n => b.boundDescent? g c.playerId index (← orFault (Play.cardAt? p.hand n))
  | none => b.boundDescent? g c.playerId index .null

/-- The effects of the action or ability with an id, if it may run. Parameters may be left out. -/
def ruleDescent? (b : Rulebook) (g : Game) (kind : RuleKind) (actor id params : Value) :
    Except Failure Descent := do
  match kind with
  | .action =>
    let id ← idText? .action id
    let r ← b.checkedAction? g actor id
    let params ← orFault params.asObject?
    return .list (some id) { playerId := actor, params } r.effects
  | .ability =>
    let params ← orFault params.asObject?
    let id ← idText? .ability id
    b.abilityDescent? g actor id params

/-- What an effect comes down to in a game. -/
def effectDescent? (b : Rulebook) (c : Circumstances) (g : Game) : Effect → Except Failure Descent
  | .operation o => .ok (.leaf ⟨c, o⟩)
  | .branch condition yes no => do
    let passed ← b.holds? g c ((condition.map Value.text).getD .null)
    return .list none c (if passed then yes else no)
  | .cardAbility indexParam => b.cardDescent? c g indexParam

/-- What a raw effect comes down to in a game. -/
def descent? (b : Rulebook) (c : Circumstances) (g : Game) (raw : RawEffect) :
    Except Failure Descent := do
  let e ← (CheckedEffect.ofRaw? raw).mapError .rule
  b.effectDescent? c g e.effect

end Rulebook

end CardRules
