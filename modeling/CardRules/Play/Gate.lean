import CardRules.Condition
import CardRules.Rules.Document

/-!
# Gates

When a rule may run. An action is gated by its phases, if it declares any list of them, and by its
conditions; an ability by its phases, if it declares at least one, and by its conditions, which see
the parameters it would run with. Gates read the game and never change it.
-/

namespace CardRules

/-- A rule document as it is played. -/
structure Rulebook where
  document : Document
  /-- Whether an id that no player has is an error. -/
  strict : Bool := false
  deriving DecidableEq, Repr, Inhabited

namespace Rulebook

/-- Whether a condition holds. The scope is only built for a condition that is not blank. -/
def holds? (b : Rulebook) (g : Game) (c : Circumstances) (condition : Value) : Except Failure Bool :=
  match conditionText? condition with
  | none => .ok true
  | some text => do
    let scope ← orFault (scopeOf? g b.document.metadata.normal c)
    truthIn text scope

/-- The first condition that does not hold, if there is one. -/
def failing? (b : Rulebook) (g : Game) (c : Circumstances) :
    List String → Except Failure (Option String)
  | [] => .ok none
  | condition :: rest => do
    if ← b.holds? g c (.text condition) then b.failing? g c rest else return some condition

/-! ## Ids -/

/-- No rule has the id. Null names no rule. -/
def ruleNotFound (kind : RuleKind) (id : Value) : Failure :=
  .rule { cause := .ruleNotFound kind id, ruleId := if id = .null then none else some id }

/-- The text that an id is. Rules have texts for ids, so no rule has any other scalar for its id; a
list or object is no id. -/
def idText? (kind : RuleKind) (id : Value) : Except Failure String :=
  match id.scalar? with
  | some (.text s) => .ok s
  | some _ => .error (ruleNotFound kind id)
  | none => .error (.fault .wrongKind)

/-! ## Phases -/

/-- Whether a phase is one of a list. -/
def phaseIn (phases : List String) : Value → Bool
  | .text phase => phases.contains phase
  | _ => false

/-- Whether an action may run in a phase. A list of no phases allows none. -/
def actionPhaseAllowed (r : Rule) (phase : Value) : Bool :=
  match r.phases with
  | none => true
  | some phases => phaseIn phases phase

/-- Whether an ability may run in a phase. A list of no phases allows all. -/
def abilityPhaseAllowed (r : Rule) (phase : Value) : Bool :=
  match r.phases with
  | none | some [] => true
  | some phases => phaseIn phases phase

/-! ## Actions -/

/-- Whether an action may run now. -/
def actionAllowed? (b : Rulebook) (g : Game) (actor : Value) (r : Rule) : Except Failure Bool :=
  if actionPhaseAllowed r g.turn.phase then
    (b.failing? g { playerId := actor } r.conditions).map Option.isNone
  else .ok false

/-- The action with an id. -/
def action? (b : Rulebook) (id : String) : Except Failure Rule :=
  match b.document.action? id with
  | some r => .ok r
  | none => .error (ruleNotFound .action (.text id))

/-- Whether the action with an id may run now. -/
def idAllowed? (b : Rulebook) (g : Game) (actor : Value) (id : String) : Except Failure Bool := do
  b.actionAllowed? g actor (← b.action? id)

/-- The ability with an id. -/
def ability? (b : Rulebook) (id : String) : Except Failure Rule :=
  match b.document.ability? id with
  | some r => .ok r
  | none => .error (ruleNotFound .ability (.text id))

/-- The ids of the actions among `actions` that may run now. -/
def allowedAmong? (b : Rulebook) (g : Game) (actor : Value) :
    Table Rule → Except Failure (List String)
  | [] => .ok []
  | (id, r) :: rest => do
    let allowed ← b.actionAllowed? g actor r
    let ids ← b.allowedAmong? g actor rest
    return if allowed then id :: ids else ids

/-- The ids of all actions that may run now, in the order of the document. -/
def availableActions? (b : Rulebook) (g : Game) (actor : Value) : Except Failure (List String) :=
  b.allowedAmong? g actor b.document.actions

/-- The action with an id, if it may run now. -/
def checkedAction? (b : Rulebook) (g : Game) (actor : Value) (id : String) :
    Except Failure Rule := do
  let r ← b.action? id
  if actionPhaseAllowed r g.turn.phase then
    match ← b.failing? g { playerId := actor } r.conditions with
    | none => return r
    | some condition =>
      throw (.rule { cause := .actionNotAllowed id condition, ruleId := some (.text id) })
  else throw (.rule { cause := .phaseNotAllowed .action id g.turn.phase, ruleId := some (.text id) })

/-! ## Abilities -/

/-- The ability with an id, if it may run now with the parameters. -/
def checkedAbility? (b : Rulebook) (g : Game) (actor : Value) (id : String) (params : Value) :
    Except Failure Rule := do
  let r ← b.ability? id
  if abilityPhaseAllowed r g.turn.phase then
    match ← b.failing? g { playerId := actor, abilityContext := params } r.conditions with
    | none => return r
    | some condition =>
      throw (.rule { cause := .conditionNotSatisfied id condition, ruleId := some (.text id) })
  else throw (.rule { cause := .phaseNotAllowed .ability id g.turn.phase, ruleId := some (.text id) })

end Rulebook

end CardRules
