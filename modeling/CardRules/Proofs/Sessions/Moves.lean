import CardRules.Proofs.Sessions.Lending
import CardRules.Session

/-!
# Moves in a session

A session goes through moves one after another; `Session.made` lists each with the session it was
made in and what it left. An atomic move that fails by the rules leaves the game and the status as
they were, and one that succeeds does what it does without being atomic. But a list of the rules that
a failed move has changed stays changed, so that the moves after it may do something else
(`failed_move_felt`). Failed atomic moves can be erased from the history where they change no such
list, and they do not as long as rules lend none (`failed_moves_erased`).
-/

namespace CardRules

/-- A move in a session. -/
structure Move where
  atomic : Bool
  kind : RuleKind
  actor : Value
  id : Value
  params : Value
  deriving DecidableEq, Repr

namespace Move

/-- The move with nothing taken back if it fails. -/
def plain (m : Move) : Move := { m with atomic := false }

/-- What the move does to a run. -/
def play (b : Rulebook) (m : Move) : SharedPlay Unit :=
  SharedPlay.runRule b m.kind m.actor m.id m.params

/-- The call that the move makes on a game. -/
def call (m : Move) : Call := .ofRule m.kind m.actor m.id m.params

end Move

namespace Session

variable {s : Session}

/-- Makes a move of either kind. -/
def make (s : Session) (m : Move) : Moved :=
  match m.kind with
  | .action => s.runAction m.atomic m.actor m.id m.params
  | .ability => s.runAbility m.atomic m.actor m.id m.params

theorem make_eq (s : Session) (m : Move) : s.make m = s.move m.atomic (m.play s.rulebook) := by
  unfold make Move.play
  cases m.kind <;> rfl

/-- A move that was made: the session it was made in and what it left. -/
structure Made where
  before : Session
  move : Move
  moved : Moved

namespace Made

def succeeded (x : Made) : Bool := x.moved.result.isOk

/-- The move succeeded or failed by the rules. -/
def EndsByRules (x : Made) : Prop := ∀ f, x.moved.result ≠ .error (.fault f)

instance (x : Made) : Decidable x.EndsByRules :=
  match h : x.moved.result with
  | .ok _ => .isTrue fun f => by simp [h]
  | .error (.rule _) => .isTrue fun f => by simp [h]
  | .error (.fault f) => .isFalse fun hx => hx f h

/-- The move leaves what is shared with the rules as it was. -/
def KeepsSharing (x : Made) : Prop := x.moved.session.sharing = x.before.sharing

/-- No step of the move lends a list of a rule. -/
def LendsNothing (x : Made) : Prop :=
  ∀ step ∈ x.move.call.steps x.before.rulebook x.before.game, step.LendsNothing

instance (x : Made) : Decidable x.LendsNothing :=
  inferInstanceAs (Decidable (∀ step ∈ _, Step.LendsNothing step))

end Made

/-- Moves made one after another, each in the session that the one before left. -/
def made (s : Session) : List Move → List Made
  | [] => []
  | m :: ms => ⟨s, m, s.make m⟩ :: (s.make m).session.made ms

/-- The session after moves. -/
def after (s : Session) (moves : List Move) : Session :=
  moves.foldl (fun s m => (s.make m).session) s

/-- The moves that succeeded. -/
def successes (s : Session) (moves : List Move) : List Made := (s.made moves).filter Made.succeeded

/-! ## Atomic moves -/

/-- What a move leaves: the end of its play decides, and if that is a rule error, whether the move
is atomic. -/
theorem move_cases (s : Session) (step : SharedPlay Unit) :
    (∃ r : SharedRun, ∀ atomic, s.move atomic step = ⟨s.succeed r, .ok r.run.events, r.run.sink⟩) ∨
      (∃ (e : RuleError) (r : SharedRun), ∀ atomic, s.move atomic step =
        ⟨if atomic then s.restore r else s.leave r, .error (.rule e), r.run.sink⟩) ∨
      ∃ (f : Fault) (r : SharedRun), ∀ atomic, s.move atomic step =
        ⟨s.leave r, .error (.fault f), r.run.sink⟩ := by
  unfold move
  rcases step { run := { game := s.game }, sharing := s.sharing } with ⟨⟨⟩, r⟩ | ⟨e | f, r⟩
  · exact .inl ⟨r, fun _ => rfl⟩
  · exact .inr (.inl ⟨e, r, fun _ => rfl⟩)
  · exact .inr (.inr ⟨f, r, fun _ => rfl⟩)

/-- A success does not depend on whether the move is atomic. -/
theorem make_plain {m : Move} (h : (s.make m).result.isOk = true) : s.make m.plain = s.make m := by
  rw [make_eq] at h ⊢
  rw [make_eq]
  rcases s.move_cases (m.play s.rulebook) with ⟨r, hr⟩ | ⟨e, r, hr⟩ | ⟨f, r, hr⟩
  · exact (hr m.plain.atomic).trans (hr m.atomic).symm
  · rw [hr] at h
    cases h
  · rw [hr] at h
    cases h

/-- An atomic move that fails by the rules is taken back. -/
theorem session_make_of_failed {m : Move} (hatomic : m.atomic = true)
    (hends : ∀ f, (s.make m).result ≠ .error (.fault f))
    (hfailed : (s.make m).result.isOk = false) : ∃ r, (s.make m).session = s.restore r := by
  rw [make_eq, hatomic] at hends hfailed ⊢
  rcases s.move_cases (m.play s.rulebook) with ⟨r, hr⟩ | ⟨e, r, hr⟩ | ⟨f, r, hr⟩
  · rw [hr] at hfailed
    cases hfailed
  · rw [hr]
    exact ⟨r, rfl⟩
  · exact absurd (congrArg Moved.result (hr true)) (hends f)

/-- A session is the same again if nothing has become of what it shares. -/
theorem restore_eq_self {r : SharedRun} (h : (s.restore r).sharing = s.sharing) :
    s.restore r = s := by
  obtain ⟨rulebook, game, status, sharing⟩ := s
  exact congrArg (Session.mk rulebook game status) h

/-- As long as nothing is shared, a move that lends nothing leaves it so. -/
theorem sharing_make (hheld : s.sharing.held = []) {m : Move}
    (hlends : ∀ step ∈ m.call.steps s.rulebook s.game, step.LendsNothing) :
    (s.make m).session.sharing = s.sharing := by
  have hplay : m.play s.rulebook ⟨{ game := s.game }, s.sharing⟩ =
      SharedPlay.withSharing s.sharing (m.call.play s.rulebook { game := s.game }) :=
    SharedPlay.follows_runRule (r := { game := s.game }) hlends s.sharing hheld
  have hcopied : ({ held := s.sharing.copied, changed := s.sharing.changed } : Sharing) =
      s.sharing := by
    rw [Sharing.copied, hheld, List.map_nil, ← hheld]
  rw [make_eq, move, hplay]
  rcases m.call.play s.rulebook { game := s.game } with ⟨⟨⟩, r⟩ | ⟨e | f, r⟩
  · rfl
  · show (if m.atomic then s.restore ⟨r, s.sharing⟩ else s.leave ⟨r, s.sharing⟩).sharing = _
    split
    · exact hcopied
    · rfl
  · rfl

/-! ## Histories -/

theorem before_of_failed {moves : List Move} (hatomic : ∀ m ∈ moves, m.atomic = true)
    (hends : ∀ x ∈ s.made moves, x.EndsByRules) :
    ∀ x ∈ s.made moves, x.succeeded = false → ∃ r, x.moved.session = x.before.restore r := by
  induction moves generalizing s with
  | nil => exact fun x hx => absurd hx List.not_mem_nil
  | cons m ms ih =>
    obtain ⟨hm, hms⟩ := List.forall_mem_cons.1 hatomic
    obtain ⟨hend, hrest⟩ := List.forall_mem_cons.1 hends
    intro x hx hfailed
    rcases List.mem_cons.1 hx with rfl | hx
    · exact session_make_of_failed hm hend hfailed
    · exact ih hms hrest x hx hfailed

/-- Nothing becomes shared by moves that lend nothing. -/
theorem keepsSharing_of_lendsNothing {moves : List Move} (hheld : s.sharing.held = [])
    (hlends : ∀ x ∈ s.made moves, x.LendsNothing) : ∀ x ∈ s.made moves, x.KeepsSharing := by
  induction moves generalizing s with
  | nil => exact fun x hx => absurd hx List.not_mem_nil
  | cons m ms ih =>
    obtain ⟨hm, hms⟩ := List.forall_mem_cons.1 hlends
    have hkept := sharing_make hheld hm
    exact List.forall_mem_cons.2 ⟨hkept, ih (hkept ▸ hheld) hms⟩

/-- Made alone and plainly, the moves that succeeded leave what they left among the others, if those
left what is shared as it was. -/
theorem made_successes {moves : List Move} (hatomic : ∀ m ∈ moves, m.atomic = true)
    (hends : ∀ x ∈ s.made moves, x.EndsByRules)
    (hkeeps : ∀ x ∈ s.made moves, x.succeeded = false → x.KeepsSharing) :
    (s.made ((s.successes moves).map fun x => x.move.plain)).map Made.moved =
        (s.successes moves).map Made.moved ∧
      s.after ((s.successes moves).map fun x => x.move.plain) = s.after moves := by
  induction moves generalizing s with
  | nil => exact ⟨rfl, rfl⟩
  | cons m ms ih =>
    obtain ⟨hm, hms⟩ := List.forall_mem_cons.1 hatomic
    obtain ⟨hend, hrest⟩ := List.forall_mem_cons.1 hends
    obtain ⟨hkeep, hkeeps⟩ := List.forall_mem_cons.1 hkeeps
    obtain ⟨hmoved, hafter⟩ := ih hms hrest hkeeps
    cases hok : (s.make m).result.isOk with
    | false =>
      obtain ⟨r, hr⟩ := session_make_of_failed hm hend hok
      have hsession : (s.make m).session = s :=
        hr.trans (restore_eq_self (hr ▸ hkeep hok))
      have hsuccesses : s.successes (m :: ms) = s.successes ms := by
        rw [successes, made, List.filter_cons_of_neg (by simp [Made.succeeded, hok]), hsession]
        rfl
      rw [hsession] at hmoved hafter
      rw [hsuccesses]
      refine ⟨hmoved, hafter.trans ?_⟩
      rw [after, after, List.foldl_cons, hsession]
    | true =>
      have hsuccesses : s.successes (m :: ms) =
          ⟨s, m, s.make m⟩ :: (s.make m).session.successes ms :=
        List.filter_cons_of_pos hok
      have hplain := make_plain hok
      rw [hsuccesses, List.map_cons, List.map_cons, made, List.map_cons, after, after,
        List.foldl_cons, List.foldl_cons, hplain, hmoved]
      exact ⟨rfl, hafter⟩

end Session

/-- Failed atomic moves can be erased from the history, as far as they leave the lists of the rules
alone. Let all moves be atomic, and each succeed or fail by the rules. Then those that fail leave the
game and the status as they were. If they also leave what is shared with the rules as it was, the
others, made alone and without being atomic, leave the same session in the end, and each of them the
same session, events and log. And they do, if nothing is shared at first and no step of the moves
writes a list or object of a rule into a hand or its flags. -/
theorem failed_moves_erased (s : Session) (moves : List Move)
    (hatomic : ∀ m ∈ moves, m.atomic = true) (hends : ∀ x ∈ s.made moves, x.EndsByRules) :
    (∀ x ∈ s.made moves, x.succeeded = false →
        x.moved.session.game = x.before.game ∧ x.moved.session.status = x.before.status) ∧
      ((∀ x ∈ s.made moves, x.succeeded = false → x.KeepsSharing) →
        s.after ((s.successes moves).map fun x => x.move.plain) = s.after moves ∧
          (s.made ((s.successes moves).map fun x => x.move.plain)).map Session.Made.moved =
            (s.successes moves).map Session.Made.moved) ∧
      (s.sharing.held = [] → (∀ x ∈ s.made moves, x.LendsNothing) →
        ∀ x ∈ s.made moves, x.KeepsSharing) := by
  refine ⟨fun x hx hfailed => ?_, fun hkeeps => ?_, Session.keepsSharing_of_lendsNothing⟩
  · obtain ⟨r, hr⟩ := Session.before_of_failed hatomic hends x hx hfailed
    rw [hr]
    exact ⟨rfl, rfl⟩
  · exact (Session.made_successes hatomic hends hkeeps).symm

namespace Sample

/-- Shows a card, makes a trade that fails late, and shows the card again. -/
def moves : List Move :=
  let look : Move := ⟨true, .ability, .int 1, .text "show", .object [("handIndex", .int 0)]⟩
  let trade : Move :=
    ⟨true, .action, .int 1, .text "trade", .object [("mine", .int 0), ("theirs", .int 0)]⟩
  [look, trade, look]

end Sample

theorem failed_moves_erased_sample :
    let s : Session := { rulebook := Sample.rulebook, game := Sample.game }
    (∀ m ∈ Sample.moves, m.atomic = true) ∧ (∀ x ∈ s.made Sample.moves, x.EndsByRules) ∧
      (s.made Sample.moves).map Session.Made.succeeded = [true, false, true] ∧
      (∀ x ∈ s.made Sample.moves, x.LendsNothing) ∧
      s.after ((s.successes Sample.moves).map fun x => x.move.plain) = s.after Sample.moves := by
  intro s
  have hatomic : ∀ m ∈ Sample.moves, m.atomic = true := by decide
  have hends : ∀ x ∈ s.made Sample.moves, x.EndsByRules := by decide +kernel
  have hlends : ∀ x ∈ s.made Sample.moves, x.LendsNothing := by decide +kernel
  obtain ⟨-, herased, hkeeps⟩ := failed_moves_erased s Sample.moves hatomic hends
  obtain ⟨hafter, -⟩ := herased fun x hx _ => hkeeps rfl hlends x hx
  exact ⟨hatomic, hends, by decide +kernel, hlends, hafter⟩

namespace Sample

/-- The current player gets an empty hand, draws a card, and then discards one that has to be
named. -/
def redrawing : Rulebook where
  document := { (default : Document) with
    metadata := { (default : Metadata) with setup := ⟨0, none, none⟩ }
    actions := [("redraw", {
      phases := none
      conditions := []
      effects :=
        [[("op", .text "setFlag"), ("target", .text "currentPlayer"), ("flag", .text "hand"),
          ("value", .list [])],
         [("op", .text "setFlag"), ("target", .text "currentPlayer"), ("flag", .text "known"),
          ("value", .list [])],
         [("op", .text "moveCard"), ("from", .text "deck"), ("to", .text "currentPlayer.hand")],
         [("op", .text "moveCardByIndex"), ("from", .text "deck"), ("to", .text "discard"),
          ("param", .text "card")]] })] }

/-- A player without cards, and three cards in the deck. -/
def undealt : Session where
  rulebook := redrawing
  game := {
    deck := [.text "2S", .text "AS", .text "KS"]
    players := [{ id := .int 1, name := .text "Ann" }] }

/-- Redraws without naming a card, and then properly. -/
def redraws : List Move :=
  [⟨true, .action, .int 1, .text "redraw", .null⟩,
   ⟨true, .action, .int 1, .text "redraw", .object [("card", .int 0)]⟩]

end Sample

/-- The hand that the action writes is empty in the rules. The first move puts a card into it and
fails; the game is put back, but the list in the rules is not, and so the second move gives the
player two cards, where alone it gives one. -/
theorem failed_move_felt :
    Session.start Sample.redrawing default (.list [.text "Ann"])
        (.list [.text "2S", .text "AS", .text "KS"]) (.bool false) = .ok Sample.undealt ∧
      (∀ m ∈ Sample.redraws, m.atomic = true) ∧
      (∀ x ∈ Sample.undealt.made Sample.redraws, x.EndsByRules) ∧
      (Sample.undealt.made Sample.redraws).map Session.Made.succeeded = [false, true] ∧
      (Sample.undealt.after Sample.redraws).game.players.map Player.hand =
        [.list [.text "KS", .text "KS"]] ∧
      (Sample.undealt.after ((Sample.undealt.successes Sample.redraws).map
        fun x => x.move.plain)).game.players.map Player.hand = [.list [.text "KS"]] := by
  refine ⟨?_, ?_, ?_, ?_, ?_, ?_⟩ <;> decide +kernel

end CardRules
