import CardRules.Play.Deal
import CardRules.Sharing

/-!
# Sessions

A session is one match with its rules, which it shares with no other session, and its status. A move
in a session may be atomic: a rule error then takes back everything the move has done to the game,
but not what it has done to lists of the rules. A lobby keeps the sessions and lists those that are
still going on.
-/

namespace CardRules

inductive Status where
  | active | gameOver | abandoned
  deriving DecidableEq, Repr

/-- The word for a status. -/
def Status.text : Status → String
  | .active => "active"
  | .gameOver => "game_over"
  | .abandoned => "abandoned"

structure Session where
  rulebook : Rulebook
  game : Game
  status : Status := .active
  /-- What the game shares with the rules. -/
  sharing : Sharing := {}
  deriving DecidableEq, Repr

namespace Session

/-- A session on a fresh match. -/
def start (rulebook : Rulebook) (source : Source) (players deck shuffled : Value) :
    Except Fault Session :=
  (newGame rulebook.document.metadata source players deck shuffled).1.map fun game =>
    { rulebook, game }

/-- The session as a run leaves it. -/
def leave (s : Session) (r : SharedRun) : Session :=
  { s with game := r.run.game, sharing := r.sharing }

/-- The session after a move that succeeded: a decided match is over. -/
def succeed (s : Session) (r : SharedRun) : Session :=
  { s.leave r with status := if r.run.game.contest.decided.isVoid then s.status else .gameOver }

/-- The session after a move that was taken back. The game is a copy of what it was, and the lists of
rules keep what the move has done to them. -/
def restore (s : Session) (r : SharedRun) : Session :=
  { s with sharing := { held := s.sharing.copied, changed := r.sharing.changed } }

/-- What a move leaves: the session, the events or the failure, and the texts of its log. -/
structure Moved where
  session : Session
  result : Except Failure (List Value)
  sink : List String
  deriving Repr

/-- Makes a move. -/
def move (s : Session) (atomic : Bool) (step : SharedPlay Unit) : Moved :=
  match step { run := { game := s.game }, sharing := s.sharing } with
  | .ok () r => ⟨s.succeed r, .ok r.run.events, r.run.sink⟩
  | .error (.rule e) r =>
    ⟨if atomic then s.restore r else s.leave r, .error (.rule e), r.run.sink⟩
  | .error (.fault f) r => ⟨s.leave r, .error (.fault f), r.run.sink⟩

/-- Runs an action in a session. -/
def runAction (s : Session) (atomic : Bool) (actor id params : Value) : Moved :=
  s.move atomic (SharedPlay.runRule s.rulebook .action actor id params)

/-- Runs an ability in a session. -/
def runAbility (s : Session) (atomic : Bool) (actor id params : Value) : Moved :=
  s.move atomic (SharedPlay.runRule s.rulebook .ability actor id params)

end Session

/-- A session under the id its host has given it. -/
structure HostedSession where
  id : Scalar
  session : Session
  /-- Whether the session was ended. Those who hold it can still play on. -/
  ended : Bool := false
  deriving DecidableEq, Repr

/-- The session after it was ended. A match that is still going on counts as abandoned. -/
def HostedSession.finish (h : HostedSession) : HostedSession :=
  if h.ended then h
  else if h.session.status = .active then
    { h with ended := true, session := { h.session with status := .abandoned } }
  else { h with ended := true }

/-- The sessions of a host, the newest first. An id means the newest session with that id. -/
structure Lobby where
  hosted : List HostedSession := []
  deriving DecidableEq, Repr

namespace Lobby

/-- The session of an id, also after it was ended. -/
def session? (l : Lobby) (id : Scalar) : Option Session :=
  (l.hosted.find? fun h => h.id.alike id).map HostedSession.session

/-- The session of an id that was not ended. -/
def find? (l : Lobby) (id : Scalar) : Option Session :=
  match l.hosted.find? fun h => h.id.alike id with
  | some h => if h.ended then none else some h.session
  | none => none

/-- The lobby with a new session under an id. -/
def create (l : Lobby) (id : Scalar) (session : Session) : Lobby := ⟨{ id, session } :: l.hosted⟩

/-- The sessions with the newest one of an id changed. -/
def changeNewest (id : Scalar) (f : HostedSession → HostedSession) :
    List HostedSession → List HostedSession
  | [] => []
  | h :: rest => if h.id.alike id then f h :: rest else h :: changeNewest id f rest

/-- The lobby with the session of an id replaced. -/
def put (l : Lobby) (id : Scalar) (session : Session) : Lobby :=
  ⟨changeNewest id (fun h => { h with session }) l.hosted⟩

/-- Ends the session of an id, if there is one. -/
def finish (l : Lobby) (id : Scalar) : Lobby := ⟨changeNewest id HostedSession.finish l.hosted⟩

/-- The ids of the sessions that are active, the oldest first. -/
def active (l : Lobby) : List Scalar :=
  ((l.hosted.filter fun h => !h.ended && h.session.status == .active).map HostedSession.id).reverse

end Lobby

end CardRules
