import CardRules.Failure

/-!
# Conditions

A condition is an expression read in the scope of a game. A blank condition, or none, always holds.
-/

namespace CardRules

open CardRules.Expr (Operand Scope Interrupt)

/-- The value of an expression's text in a scope. -/
def evaluate (text : String) (scope : Scope) : Except Failure Operand :=
  match Expr.parse text with
  | .error e => .error (.of (.invalidExpression text (.parsing e)))
  | .ok e =>
    match Expr.eval scope Expr.evalDepth e with
    | .ok x => .ok x
    | .error (.reason r) => .error (.of (.invalidExpression text (.evaluation r)))
    | .error (.fault f) => .error (.fault f)

/-- The truth of an expression's text in a scope. -/
def truthIn (text : String) (scope : Scope) : Except Failure Bool := do
  orFault (← evaluate text scope).truth?

/-- The text of a condition that is not blank. -/
def conditionText? (condition : Value) : Option String :=
  match condition with
  | .null => none
  | v => if Text.isBlankText v.shown then none else some v.shown

/-- Whether a condition holds in a scope. -/
def holdsIn (condition : Value) (scope : Scope) : Except Failure Bool :=
  match conditionText? condition with
  | none => .ok true
  | some text => truthIn text scope

/-- What the rules know when they read a condition, apart from the game. -/
structure Circumstances where
  /-- The player who acts. -/
  playerId : Value
  /-- The parameters of the rule or effect that is running. -/
  params : Value := .object []
  /-- The parameters of the ability that is running, if one is. -/
  abilityContext : Value := .null
  deriving DecidableEq, Repr

/-- The scope of a condition: the game, the document's metadata and the circumstances, with the
parameters and the ability context as the objects they stand for. Without players there is no current
and no next player. -/
def scopeOf? (g : Game) (metadata : Table Value) (c : Circumstances) : Except Fault Scope := do
  let values := (metadata.get? "cardValues").getD .null
  let seated (seat? : Except Fault Nat) : Except Fault Operand :=
    if g.players.isEmpty then .ok .null
    else do
      let seat ← seat?
      return .player seat (← g.player? seat)
  let current ← seated g.currentSeat?
  let next ← seated g.nextSeat?
  let params ← c.params.asObject?
  let abilityContext ← c.abilityContext.asObject?
  let size (n : Nat) : Operand := .data (.object [("size", .int n)])
  return {
    names :=
      [("state", .game g), ("metadata", .data (.object metadata)), ("currentPlayer", current),
       ("nextPlayer", next), ("deck", size g.deck.length), ("discard", size g.discard.length),
       ("turn", .turn g.turn), ("params", .data params),
       ("abilityContext", .data abilityContext), ("playerId", .data c.playerId)]
    functions := [("handScore", .handScore (if values.isVoid then .object [] else values))] }

end CardRules
