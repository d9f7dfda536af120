import CardRules.Game.Player
import CardRules.Game.Turn

/-!
# The game

The state of one match. The deck and the discard pile are stacks whose top is the end of the list;
the log grows at its end. `snapshot` writes the state as one value and `ofSnapshot?` reads it back.
-/

namespace CardRules

structure Game where
  deck : List Value := []
  discard : List Value := []
  players : List Player := []
  turn : Turn := {}
  round : Round := {}
  contest : Contest := {}
  log : List Value := []
  /-- Kept as it was loaded; what effects report goes to the caller. -/
  events : List Value := []
  deriving DecidableEq, Repr, Inhabited

namespace Game

/-! ## Snapshots -/

/-- The state as one value. -/
def snapshot (g : Game) : Value :=
  .object
    [("deck", .list g.deck), ("discard", .list g.discard),
     ("players", .list (g.players.map Record.snapshot)), ("turn", Record.snapshot g.turn),
     ("round", Record.snapshot g.round), ("match", Record.snapshot g.contest),
     ("log", .list g.log), ("events", .list g.events)]

/-- The state a snapshot holds. A part that is missing is empty or fresh; the first part that cannot
be read decides the fault. -/
def ofSnapshot? : Value → Except Fault Game
  | .object es => do
    let part (n : String) (absent : Value) := (Table.get? es n).getD absent
    let deck ← (part "deck" (.list [])).parts?
    let discard ← (part "discard" (.list [])).parts?
    let players ← (← (part "players" (.list [])).parts?).mapM Player.ofSnapshot?
    let turn ← recordOfSnapshot? {} (part "turn" (.object []))
    let round ← recordOfSnapshot? {} (part "round" (.object []))
    let contest ← recordOfSnapshot? {} (part "match" (.object []))
    let log ← (part "log" (.list [])).parts?
    let events ← (part "events" (.list [])).parts?
    return { deck, discard, players, turn, round, contest, log, events }
  | _ => .error .missingMember

/-! ## Seats -/

/-- The number of players. -/
def seats (g : Game) : Nat := g.players.length

/-- The seat that a value names as a place in the list of players. A negative number counts from the
last seat, and truth values count as one and zero. -/
def seatAt? (g : Game) (v : Value) : Except Fault Nat :=
  match v.asNumber? with
  | some (.int i) =>
    if 0 ≤ i then if i < g.seats then .ok i.toNat else .error .outOfRange
    else if 0 ≤ i + g.seats then .ok (i + g.seats).toNat else .error .outOfRange
  | _ => .error .wrongKind

/-- The number of the seat after the current one: the turn's seat plus one, modulo the number of
seats. -/
def nextSeatValue? (g : Game) : Except Fault Value :=
  match g.turn.seat.asNumber? with
  | none => .error .wrongKind
  | some n =>
    if g.seats = 0 then .error .zeroDivisor
    else match (n.add (.int 1)).bind (·.mod (.int g.seats)) with
      | some n => .ok (.number n)
      | none => .error .overflow

/-- The seat whose turn it is. -/
def currentSeat? (g : Game) : Except Fault Nat := g.seatAt? g.turn.seat

/-- The seat after the current one. -/
def nextSeat? (g : Game) : Except Fault Nat := do g.seatAt? (← g.nextSeatValue?)

/-- The first seat whose player has the id. -/
def seatOfId? (g : Game) (id : Value) : Option Nat := g.players.findIdx? fun p => p.id.same id

/-- The player in a seat. -/
def player? (g : Game) (seat : Nat) : Except Fault Player :=
  match g.players[seat]? with
  | some p => .ok p
  | none => .error .outOfRange

/-- The state with the player in a seat changed. -/
def modifyPlayer (g : Game) (seat : Nat) (f : Player → Player) : Game :=
  { g with players := g.players.modify seat f }

/-! ## Cards -/

/-- Every card of the deck, the discard pile and the hands in seat order. -/
def allCards? (g : Game) : Except Fault (List Value) := do
  return g.deck ++ g.discard ++ (← g.players.mapM fun p => p.hand.parts?).flatten

/-! ## Reading, equality and text -/

/-- Whether two states hold alike data. -/
def alike (g h : Game) : Bool :=
  Value.alikeItems g.deck h.deck && Value.alikeItems g.discard h.discard
    && (g.players.length == h.players.length
      && (g.players.zip h.players).all fun (p, q) => Record.alike p q)
    && Record.alike g.turn h.turn && Record.alike g.round h.round
    && Record.alike g.contest h.contest
    && Value.alikeItems g.log h.log && Value.alikeItems g.events h.events

/-- Whether every value of the state has a text. -/
def hasText (g : Game) : Bool :=
  [g.deck, g.discard, g.log, g.events].all Value.itemsHaveText && g.players.all Record.hasText
    && Record.hasText g.turn && Record.hasText g.round && Record.hasText g.contest

/-- The state as messages write it. -/
def written (g : Game) : String :=
  let parts :=
    ["deck=" ++ (Value.list g.deck).written, "discard=" ++ (Value.list g.discard).written,
     "players=[" ++ Value.joined ", " (g.players.map Record.written) ++ "]",
     "turn=" ++ Record.written g.turn, "round=" ++ Record.written g.round,
     "match=" ++ Record.written g.contest, "log=" ++ (Value.list g.log).written,
     "events=" ++ (Value.list g.events).written]
  "GameState(" ++ Value.joined ", " parts ++ ")"

end Game

end CardRules
