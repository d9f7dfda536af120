import CardRules.Play.Operation

/-!
# Executing rules

Effects run one after another, depth first: the effects of a branch or of a card's ability run to
their end before the list that contains them goes on. A rule error is named after the operation whose
effect it came out of first, and after the innermost rule that was running. Every nested list of
effects takes a step of a budget; an operation never does.
-/

namespace CardRules

namespace Play

/-- Runs effects that are nested one level deeper, in their circumstances. -/
abbrev Nested := Circumstances → List RawEffect → Play Unit

/-! ## Abilities -/

/-- Runs effects as those of a rule, which names the rule errors that no inner rule has named. -/
def inRule {σ : Type} (id : String) (x : EStateM Failure σ Unit) : EStateM Failure σ Unit :=
  mapRule (RuleError.inRule id) x

/-- Runs an ability with parameters, if it may run. -/
def ability (b : Rulebook) (nested : Nested) (actor : Value) (id : String) (params : Value) :
    Play Unit := do
  let r ← lift (b.checkedAbility? (← game) actor id params)
  inRule id (nested { playerId := actor, params, abilityContext := params } r.effects)

/-- Runs the ability bound to a card, if one is. -/
def boundAbility (b : Rulebook) (nested : Nested) (actor index card : Value) : Play Unit := do
  match ← orFault (b.document.abilityForCard? card) with
  | none | some "" => return ()
  | some id => ability b nested actor id (.object [("handIndex", index), ("cardCode", card)])

/-- Runs the ability bound to a card of the current player's hand, if there is such a card and it
has one. -/
def cardAbility (b : Rulebook) (nested : Nested) (c : Circumstances) (indexParam : Option String) :
    Play Unit := do
  let index ← orFault (do asIndex? (← c.param? indexParam))
  let seat ← orFault (← game).currentSeat?
  let hand := (← player seat).hand
  let card ← match slot? index (← orFault hand.size?) with
    | some n => orFault (cardAt? hand n)
    | none => pure .null
  boundAbility b nested c.playerId index card

/-! ## Effects -/

/-- Runs an effect. -/
def effect (b : Rulebook) (nested : Nested) (c : Circumstances) : Effect → Play Unit
  | .operation o => perform b c o
  | .branch condition yes no => do
    let condition := (condition.map Value.text).getD .null
    let passed ← lift (b.holds? (← game) c condition)
    nested c (if passed then yes else no)
  | .cardAbility indexParam => cardAbility b nested c indexParam

/-- Runs a step of an effect's operation, which names the rule errors that have no operation yet.
Only a text names an operation. -/
def inOp {σ : Type} (op : Value) (x : EStateM Failure σ Unit) : EStateM Failure σ Unit :=
  match op with
  | .text op => mapRule (RuleError.inOp op) x
  | _ => x

/-- Reads a raw effect and runs it. -/
def rawEffect (b : Rulebook) (nested : Nested) (c : Circumstances) (raw : RawEffect) : Play Unit :=
  inOp (RawEffect.op raw) do
    let e ← lift ((CheckedEffect.ofRaw? raw).mapError .rule)
    effect b nested c e.effect

/-- Runs effects in order, within a budget for lists nested in one another. -/
def effects (b : Rulebook) : Nat → Nested
  | _, _, [] => return ()
  | 0, _, _ :: _ => throw (.fault .nestedTooDeeply)
  | n + 1, c, raws => raws.forM (rawEffect b (effects b n) c)

end Play

/-! ## The budget -/

/-- The keys under which an effect may hold lists of effects. -/
def branchKeys : List String := ["then", "else", "else_"]

mutual

/-- How deep lists of effects are nested in a value that stands for an effect. -/
def depthInEffect : Value → Nat
  | .object es => depthInBranches es
  | _ => 0
termination_by structural v => v

/-- How deep lists of effects are nested in the branches of an effect. -/
def depthInBranches : List (String × Value) → Nat
  | [] => 0
  | (k, v) :: es =>
    max (if branchKeys.contains k then depthInBranch v else 0) (depthInBranches es)
termination_by structural es => es

/-- How deep lists of effects are nested in a branch, itself included. -/
def depthInBranch : Value → Nat
  | .list xs => depthInEffects xs + 1
  | _ => 0
termination_by structural v => v

/-- How deep lists of effects are nested in a list of effects. -/
def depthInEffects : List Value → Nat
  | [] => 0
  | x :: xs => max (depthInEffect x) (depthInEffects xs)
termination_by structural xs => xs

end

/-- The branch depth of effects: zero without branches. -/
def branchDepth (raws : List RawEffect) : Nat := (raws.map depthInBranches).foldl max 0

/-- The greatest branch depth of the rules of a table. -/
def deepestOf (rules : Table Rule) : Nat := (rules.map fun e => branchDepth e.2.effects).foldl max 0

/-- The budget for abilities that trigger the abilities of further cards. -/
def chainBudget : Nat := 1000

/-- The budget of a call that starts with effects of a given branch depth. Without abilities that
trigger further abilities, the first two terms and the two lists they are nested in are enough. -/
def Rulebook.budget (b : Rulebook) (depth : Nat) : Nat :=
  depth + deepestOf b.document.abilities + 2 + chainBudget

namespace Play

/-! ## Calls -/

/-- Runs effects in their circumstances. -/
def runEffects (b : Rulebook) (c : Circumstances) (raws : List RawEffect) : Play Unit :=
  effects b (b.budget (branchDepth raws)) c raws

/-- Runs an action, if it may run. Parameters may be left out. -/
def runAction (b : Rulebook) (actor id params : Value) : Play Unit := do
  let id ← lift (Rulebook.idText? .action id)
  let r ← lift (b.checkedAction? (← game) actor id)
  let params ← orFault params.asObject?
  inRule id (runEffects b { playerId := actor, params } r.effects)

/-- Runs an ability, if it may run. Parameters may be left out. -/
def runAbility (b : Rulebook) (actor id params : Value) : Play Unit := do
  let params ← orFault params.asObject?
  let id ← lift (Rulebook.idText? .ability id)
  ability b (runEffects b) actor id params

end Play

end CardRules
