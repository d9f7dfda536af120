import CardRules.Failure
import CardRules.Rules.Effect

/-!
# References to players and records

Rules name players by their part in the turn (`currentPlayer`, `nextPlayer`) or by id, and the
records that flags are written to by name. An id that no player has falls back to the first player,
unless look-ups are strict.
-/

namespace CardRules

/-! ## Players -/

namespace Game

/-- The seat whose player's id is the value, or else the first whose id is written the same way.
Null is written like nothing else. -/
def seatNamed? (g : Game) (id : Value) : Option Nat :=
  match g.seatOfId? id with
  | some seat => some seat
  | none => if id = .null then none else g.players.findIdx? fun p => p.id.shown == id.shown

/-- The seat a reference means; without one it is the acting player's. -/
def resolveSeat? (g : Game) (strict : Bool) (actor ref : Value) : Except Failure Nat :=
  if ref = .text currentPlayerRef then orFault g.currentSeat?
  else if ref = .text nextPlayerRef then orFault g.nextSeat?
  else
    let id := if ref = .null then actor else ref
    match g.seatNamed? id with
    | some seat => .ok seat
    | none =>
      if strict || g.players.isEmpty then .error (.of (.playerNotFound id)) else .ok 0

end Game

/-! ## Records -/

/-- A record that a flag can be written to. -/
inductive Target where
  | turn | round | contest
  | player (seat : Nat)
  deriving DecidableEq, Repr

namespace Game

/-- The record a reference means. -/
def resolveTarget? (g : Game) (ref : Value) : Except Failure Target :=
  if ref = .text "turn" then .ok .turn
  else if ref = .text "round" then .ok .round
  else if ref = .text "match" then .ok .contest
  else if ref = .text currentPlayerRef ∨ ref = .text "turn.currentPlayer" then
    (orFault g.currentSeat?).map .player
  else if ref = .text nextPlayerRef then (orFault g.nextSeat?).map .player
  else .error (.of (.unsupportedTarget ref))

/-- The value of a record under a name. -/
def readTarget (g : Game) (n : String) : Target → Value
  | .turn => Record.read g.turn n
  | .round => Record.read g.round n
  | .contest => Record.read g.contest n
  | .player seat => (g.players[seat]?.map (Record.read · n)).getD .null

/-- Whether a record has a value under a name. -/
def targetHas (g : Game) (n : String) : Target → Bool
  | .turn => Record.has g.turn n
  | .round => Record.has g.round n
  | .contest => Record.has g.contest n
  | .player seat => (g.players[seat]?.map (Record.has · n)).getD false

/-- The game with a value written into a record. -/
def writeTarget (g : Game) (n : String) (v : Value) : Target → Game
  | .turn => { g with turn := Record.write g.turn n v }
  | .round => { g with round := Record.write g.round n v }
  | .contest => { g with contest := Record.write g.contest n v }
  | .player seat => g.modifyPlayer seat (Record.write · n v)

end Game

end CardRules
