import CardRules.Failure

/-!
# Runs

What a call on a game has done so far: the game as it stands, the events reported and the texts given
to the reader of the log. There is no rollback: a failure leaves everything done before it in place,
so a step of a run has a resulting run also when it fails.
-/

namespace CardRules

structure Run where
  game : Game
  /-- The events reported, oldest first. -/
  events : List Value := []
  /-- The texts given to the reader of the log, oldest first. -/
  sink : List String := []
  deriving DecidableEq, Repr, Inhabited

/-- A step of a run. -/
abbrev Play := EStateM Failure Run

namespace Play

/-- The game as it stands. -/
def game : Play Game := do return (← get).game

/-- Changes the game. -/
def modifyGame (f : Game → Game) : Play Unit := modify fun r => { r with game := f r.game }

/-- Reports an event. -/
def emit (event : Value) : Play Unit := modify fun r => { r with events := r.events ++ [event] }

/-- Gives a text to the reader of the log. -/
def tell (text : String) : Play Unit := modify fun r => { r with sink := r.sink ++ [text] }

/-- Fails for a cause. -/
def fail {α : Type} (c : Cause) : Play α := throw (.of c)

/-- A result that does not change the run. -/
def lift {α : Type} : Except Failure α → Play α
  | .ok a => pure a
  | .error e => throw e

/-- A result that does not change the run, with faults as failures. -/
def orFault {α : Type} (x : Except Fault α) : Play α := lift (CardRules.orFault x)

/-- A step with the rule errors it ends in changed, whatever its state is. -/
def mapRule {σ α : Type} (f : RuleError → RuleError) (x : EStateM Failure σ α) :
    EStateM Failure σ α := fun s =>
  match x s with
  | .ok a s => .ok a s
  | .error e s => .error (e.mapRule f) s

/-- The player in a seat. -/
def player (seat : Nat) : Play Player := do orFault ((← game).player? seat)

/-- Changes the player in a seat. -/
def modifyPlayer (seat : Nat) (f : Player → Player) : Play Unit :=
  modifyGame fun g => g.modifyPlayer seat f

end Play

end CardRules
