import CardRules.Record
import CardRules.Fault

/-!
# Turn, round and match

The records beside the players: the turn, which names the phase and the current seat and holds the
flags that last until the turn is over; the round; and the match as a whole.
-/

namespace CardRules

/-- The phase of a fresh turn. -/
def mainPhase : String := "main_turn"

/-- The phase of a decided match. -/
def gameOverPhase : String := "game_over"

/-! ## The turn -/

structure Turn where
  phase : Value := .text mainPhase
  seat : Value := .int 0
  drawn : Value := .bool false
  justBurned : Value := .bool false
  usedAbility : Value := .bool false
  discarded : Value := .bool false
  extras : Table Value := []
  deriving DecidableEq, Repr, Inhabited

namespace Turn

/-- The declared fields of a turn. -/
inductive Field where
  | phase | seat | drawn | justBurned | usedAbility | discarded
  deriving DecidableEq, Repr

instance : Record Turn where
  Field := Field
  title := "TurnState"
  fields := [.phase, .seat, .drawn, .justBurned, .usedAbility, .discarded]
  name
    | .phase => "phase_id"
    | .seat => "current_player_index"
    | .drawn => "has_drawn"
    | .justBurned => "just_burned"
    | .usedAbility => "has_used_ability"
    | .discarded => "has_discarded"
  get t
    | .phase => t.phase
    | .seat => t.seat
    | .drawn => t.drawn
    | .justBurned => t.justBurned
    | .usedAbility => t.usedAbility
    | .discarded => t.discarded
  set t f v := match f with
    | .phase => { t with phase := v }
    | .seat => { t with seat := v }
    | .drawn => { t with drawn := v }
    | .justBurned => { t with justBurned := v }
    | .usedAbility => { t with usedAbility := v }
    | .discarded => { t with discarded := v }
  extras := Turn.extras
  withExtras t es := { t with extras := es }

/-- The turn with its four flags cleared. -/
def resetFlags (t : Turn) : Turn :=
  { t with
    drawn := .bool false
    justBurned := .bool false
    usedAbility := .bool false
    discarded := .bool false }

end Turn

/-! ## The round -/

structure Round where
  number : Value := .int 1
  extras : Table Value := []
  deriving DecidableEq, Repr, Inhabited

namespace Round

/-- The declared field of a round. -/
inductive Field where
  | number
  deriving DecidableEq, Repr

instance : Record Round where
  Field := Field
  title := "RoundState"
  fields := [.number]
  name
    | .number => "number"
  get r
    | .number => r.number
  set r f v := match f with
    | .number => { r with number := v }
  extras := Round.extras
  withExtras r es := { r with extras := es }

end Round

/-! ## The match -/

/-- The match as a whole: whether it is decided, and for whom. -/
structure Contest where
  decided : Value := .bool false
  winner : Value := .null
  extras : Table Value := []
  deriving DecidableEq, Repr, Inhabited

namespace Contest

/-- The declared fields of a match. -/
inductive Field where
  | decided | winner
  deriving DecidableEq, Repr

instance : Record Contest where
  Field := Field
  title := "MatchState"
  fields := [.decided, .winner]
  name
    | .decided => "has_winner"
    | .winner => "winner_id"
  get c
    | .decided => c.decided
    | .winner => c.winner
  set c f v := match f with
    | .decided => { c with decided := v }
    | .winner => { c with winner := v }
  extras := Contest.extras
  withExtras c es := { c with extras := es }

end Contest

/-- A record from a snapshot, with the defaults of `fresh` where the snapshot has no entry. -/
def recordOfSnapshot? {ρ : Type} [Record ρ] (fresh : ρ) : Value → Except Fault ρ
  | .object es => .ok (Record.writeAll fresh es)
  | _ => .error .missingMember

end CardRules
