import CardRules.Proofs.Results
import CardRules.Proofs.Sessions.Moves
import Mathlib.Control.Monad.Basic

/-!
# The status of a session

A session learns that its match is decided from the moves that succeed. A move that fails may decide
the match as well, before it fails; unless that is taken back, a session that is active stays so
(`Made.DecidesUnnoticed`). Such moves are the only way for a decided match to be listed as active
(`decided_unlisted_iff`).
-/

namespace CardRules

namespace Session

/-- The match of the session is decided. -/
def Decided (s : Session) : Prop := s.game.contest.decided.isVoid = false

instance (s : Session) : Decidable s.Decided := inferInstanceAs (Decidable (_ = _))

/-- The session is not active once its match is decided. -/
def Settled (s : Session) : Prop := s.Decided → s.status ≠ .active

namespace Made

/-- The move was taken back: it is atomic and failed by the rules. -/
def TakenBack (x : Made) : Prop :=
  x.move.atomic = true ∧ ∃ e, x.moved.result = .error (.rule e)

/-- The move failed, was not taken back, and left a decided match to an active session. -/
structure DecidesUnnoticed (x : Made) : Prop where
  failed : x.succeeded = false
  kept : ¬ x.TakenBack
  active : x.before.status = .active
  decided : x.moved.session.Decided

instance (x : Made) : Decidable x.TakenBack :=
  match h : x.moved.result with
  | .ok _ => .isFalse (by simp [TakenBack, h])
  | .error (.fault _) => .isFalse (by simp [TakenBack, h])
  | .error (.rule e) => decidable_of_iff (x.move.atomic = true) (by simp [TakenBack, h])

instance (x : Made) : Decidable x.DecidesUnnoticed :=
  decidable_of_iff
    (x.succeeded = false ∧ ¬ x.TakenBack ∧ x.before.status = .active ∧ x.moved.session.Decided)
    ⟨fun ⟨hfailed, hkept, hactive, hdecided⟩ => ⟨hfailed, hkept, hactive, hdecided⟩,
      fun h => ⟨h.failed, h.kept, h.active, h.decided⟩⟩

end Made

/-! ## Moves -/

variable {s : Session}

theorem settled_succeed (s : Session) (r : SharedRun) : (s.succeed r).Settled := by
  intro hdecided
  have hvoid : r.run.game.contest.decided.isVoid = false := hdecided
  simp [succeed, hvoid]

theorem settled_make_of_ok {m : Move} (h : (s.make m).result.isOk = true) :
    (s.make m).session.Settled := by
  rw [make_eq] at h ⊢
  rcases s.move_cases (m.play s.rulebook) with ⟨r, hr⟩ | ⟨e, r, hr⟩ | ⟨f, r, hr⟩
  · rw [hr]
    exact s.settled_succeed r
  · rw [hr] at h
    cases h
  · rw [hr] at h
    cases h

/-- A move that fails leaves the status. -/
theorem status_make_of_failed {m : Move} (h : (s.make m).result.isOk = false) :
    (s.make m).session.status = s.status := by
  rw [make_eq] at h ⊢
  rcases s.move_cases (m.play s.rulebook) with ⟨r, hr⟩ | ⟨e, r, hr⟩ | ⟨f, r, hr⟩
  · rw [hr] at h
    cases h
  · rw [hr]
    dsimp only
    split <;> rfl
  · rw [hr]
    rfl

/-- A move leaves a settled session settled, unless it decides the match unnoticed. -/
theorem settled_make_iff (hs : s.Settled) (m : Move) :
    (s.make m).session.Settled ↔ ¬ Made.DecidesUnnoticed ⟨s, m, s.make m⟩ := by
  refine ⟨fun hsettled h => ?_, fun hnot hdecided hactive => ?_⟩
  · exact hsettled h.decided ((status_make_of_failed h.failed).trans h.active)
  · cases hok : (s.make m).result.isOk with
    | true => exact settled_make_of_ok hok hdecided hactive
    | false =>
      have hbefore : s.status = .active := (status_make_of_failed hok).symm.trans hactive
      by_cases hback : Made.TakenBack ⟨s, m, s.make m⟩
      · obtain ⟨hatomic, e, he⟩ := hback
        obtain ⟨r, hr⟩ :=
          session_make_of_failed hatomic (fun f hf => by cases he.symm.trans hf) hok
        rw [hr] at hdecided
        exact hs hdecided hbefore
      · exact hnot ⟨hok, hback, hbefore, hdecided⟩

/-- Sessions stay settled through moves that decide nothing unnoticed, and through no others. -/
theorem settled_made_iff (hs : s.Settled) (moves : List Move) :
    (∀ x ∈ s.made moves, x.moved.session.Settled) ↔ ∀ x ∈ s.made moves, ¬ x.DecidesUnnoticed := by
  induction moves generalizing s with
  | nil => simp [made]
  | cons m ms ih =>
    rw [made, List.forall_mem_cons, List.forall_mem_cons, ← settled_make_iff hs m]
    exact and_congr_right ih

/-! ## Fresh sessions -/

theorem contest_of_dealGame? {m : Metadata} {players : Value} {cards : List Value} {g : Game}
    (h : dealGame? m players cards = .ok g) : g.contest = {} := by
  obtain ⟨entries, -, h⟩ := bind_eq_ok h
  obtain ⟨⟨ps, deck⟩, -, h⟩ := bind_eq_ok h
  cases h
  rfl

theorem contest_of_newGame {m : Metadata} {source : Source} {players deck shuffled : Value}
    {g : Game} (h : (newGame m source players deck shuffled).1 = .ok g) : g.contest = {} := by
  unfold newGame at h
  split at h
  · cases h
  split at h
  · dsimp only at h
    split at h
    · cases h
    · exact contest_of_dealGame? h
  · exact contest_of_dealGame? h

theorem settled_of_start {b : Rulebook} {source : Source} {players deck shuffled : Value}
    (h : start b source players deck shuffled = .ok s) : s.Settled := by
  unfold start at h
  cases hgame : (newGame b.document.metadata source players deck shuffled).1 with
  | error f => rw [hgame] at h; cases h
  | ok g =>
    rw [hgame] at h
    cases h
    intro hdecided
    rw [Decided, contest_of_newGame hgame] at hdecided
    cases hdecided

end Session

/-- A hosted session is listed behind the others as long as it is active. -/
theorem Lobby.active_put_create (l : Lobby) (id : Scalar) (s s' : Session) :
    ((l.create id s).put id s').active =
      l.active ++ if s'.status = .active then [id] else [] := by
  simp only [create, put, changeNewest, Scalar.alike_self, if_true, active, List.filter_cons]
  cases s'.status <;> simp

/-- A decided match is listed as active only by way of a move that decides it unnoticed. In a
session on a fresh match, let moves be made of any kinds, atomic or not, that end in any way. The
session is, after each of them, not active and not listed once its match is decided, if and only if
none of the moves fails, without being taken back, and leaves a decided match to the active
session. -/
theorem decided_unlisted_iff {b : Rulebook} {source : Source} {players deck shuffled : Value}
    {s : Session} (h : Session.start b source players deck shuffled = .ok s) (moves : List Move)
    (l : Lobby) (id : Scalar) :
    (∀ x ∈ s.made moves, x.moved.session.Decided →
        x.moved.session.status ≠ .active ∧
          ((l.create id s).put id x.moved.session).active = l.active) ↔
      ∀ x ∈ s.made moves, ¬ x.DecidesUnnoticed := by
  rw [← Session.settled_made_iff (Session.settled_of_start h)]
  refine forall₂_congr fun x _ => forall_congr' fun _ => ?_
  rw [Lobby.active_put_create]
  exact ⟨fun hx => hx.1, fun hx => ⟨hx, by simp [hx]⟩⟩

namespace Sample

/-- A round is scored, and then a card is asked for that a move has to name. -/
def finishing : Rulebook where
  document := { (default : Document) with
    metadata := { (default : Metadata) with
      setup := ⟨1, none, none⟩
      cardValues := [("A", .int 1), ("2", .int 2)]
      winScore := some (.int 50) }
    actions := [("finish", {
      phases := none
      conditions := []
      effects :=
        [[("op", .text "scoreRound")],
         [("op", .text "moveCardByIndex"), ("from", .text "deck"), ("to", .text "discard"),
          ("param", .text "card")]] })] }

/-- Two players with a card each. -/
def dealt : Session where
  rulebook := finishing
  game := {
    players :=
      [{ id := .int 1, name := .text "Ann", hand := .list [.text "AH"],
         known := .list [.bool false] },
       { id := .int 2, name := .text "Bob", hand := .list [.text "2S"],
         known := .list [.bool false] }] }

theorem start_finishing :
    Session.start finishing default (.list [.text "Ann", .text "Bob"])
      (.list [.text "AH", .text "2S"]) (.bool false) = .ok dealt := by
  decide +kernel

/-- Finishes. -/
def finish (atomic : Bool) (params : Value) : Move :=
  ⟨atomic, .action, .int 1, .text "finish", params⟩

/-- Fails and is taken back; then succeeds, which ends the match; then fails again. -/
def finishes : List Move :=
  [finish true .null, finish false (.object [("card", .int 0)]), finish false .null]

end Sample

theorem decided_unlisted_iff_sample :
    (Sample.dealt.made Sample.finishes).map Session.Made.succeeded = [false, true, false] ∧
      (Sample.dealt.after Sample.finishes).Decided ∧
      ∀ x ∈ Sample.dealt.made Sample.finishes, x.moved.session.Decided →
        x.moved.session.status ≠ .active ∧
          ((Lobby.create ⟨[]⟩ (.text "s") Sample.dealt).put (.text "s") x.moved.session).active =
            [] := by
  refine ⟨by decide +kernel, by decide +kernel, ?_⟩
  exact (decided_unlisted_iff Sample.start_finishing Sample.finishes ⟨[]⟩ (.text "s")).2
    (by decide +kernel)

/-- The failure alone leaves a session whose match is decided, and which is active and listed. -/
theorem decided_listed :
    Session.start Sample.finishing default (.list [.text "Ann", .text "Bob"])
        (.list [.text "AH", .text "2S"]) (.bool false) = .ok Sample.dealt ∧
      ∃ x ∈ Sample.dealt.made [Sample.finish false .null],
        x.moved.session.Decided ∧ x.moved.session.status = .active ∧
          ((Lobby.create ⟨[]⟩ (.text "s") Sample.dealt).put (.text "s") x.moved.session).active =
            [.text "s"] := by
  refine ⟨Sample.start_finishing, _, List.mem_singleton_self _, ?_, ?_, ?_⟩ <;> decide +kernel

end CardRules
