import CardRules.Proofs.Play.History
import CardRules.Proofs.Play.Reading
import Mathlib.Logic.Relation

/-!
# Footprints

Whatever a step does to a run, it does by writes of a few kinds (`Write`), each to one part of it.
`Operation.parts` is the footprint of an operation: the operation does nothing but writes to these
parts, also if it fails halfway (`perform_writes`). What such writes keep, the operation keeps
(`Writes.keeps`).
-/

namespace CardRules

/-- A part of a run that steps write to. -/
inductive Part where
  /-- The piles, and the hands with their flags. -/
  | cards
  | scores | turn | contest | log | events
  /-- What a rule may name when it writes a flag: every field and extra of every record. -/
  | flags
  deriving DecidableEq, Repr

/-- A write to a part of a run. -/
inductive Write : Part → Run → Run → Prop
  | deck {r : Run} (deck : List Value) : Write .cards r { r with game := { r.game with deck } }
  | discard {r : Run} (discard : List Value) :
      Write .cards r { r with game := { r.game with discard } }
  | hand {r : Run} (a : Nat) {f : Player → Player}
      (hf : ∀ p, r.game.players[a]? = some p → ∃ hand known, f p = { p with hand, known }) :
      Write .cards r { r with game := r.game.modifyPlayer a f }
  | score {r : Run} (a : Nat) (score : Value) :
      Write .scores r { r with game := r.game.modifyPlayer a fun p => { p with score } }
  | turn {r : Run} (turn : Turn) (hextras : turn.extras = r.game.turn.extras) :
      Write .turn r { r with game := { r.game with turn } }
  | contest {r : Run} (decided winner : Value) :
      Write .contest r
        { r with game := { r.game with contest := { r.game.contest with decided, winner } } }
  /-- A text goes to the log and to its reader. -/
  | log {r : Run} (text : String) :
      Write .log r
        { r with
          game := { r.game with log := r.game.log ++ [.text text] }
          sink := r.sink ++ [text] }
  | event {r : Run} (event : Value) : Write .events r { r with events := r.events ++ [event] }
  | flag {r : Run} (flag : String) (value : Value) (t : Target) :
      Write .flags r { r with game := r.game.writeTarget flag value t }

/-- A player that is brought in line gets other flags at most. -/
theorem Player.aligned?_ok {p p' : Player} (h : p.aligned? = .ok p') :
    p' = { p with known := p'.known } := by
  unfold aligned? at h
  cases hflags : p.known.size? with
  | error f => rw [hflags] at h; cases h
  | ok flags =>
    cases hcards : p.hand.size? with
    | error f => rw [hflags, hcards] at h; cases h
    | ok cards =>
      simp only [hflags, hcards, bind, Except.bind] at h
      split at h
      · split at h <;> cases h
        rfl
      · split at h
        · split at h <;> cases h
          rfl
        · cases h
          rfl

namespace Play

variable {α β : Type} {parts : List Part}

/-- The run that an end leaves. -/
def runOf : EStateM.Result Failure Run α → Run
  | .ok _ r | .error _ r => r

theorem game_runOf (res : EStateM.Result Failure Run α) : (runOf res).game = gameOf res := by
  cases res <;> rfl

/-- The step does nothing but writes to the parts, whether it ends well or fails. -/
def Writes (parts : List Part) (x : Play α) : Prop :=
  ∀ r, Relation.ReflTransGen (fun r r' => ∃ part ∈ parts, Write part r r') r (runOf (x r))

namespace Writes

/-- What the writes to the parts keep. -/
theorem keepsRun {x : Play α} (h : Writes parts x) {M : Run → Prop}
    (hwrite : ∀ part ∈ parts, ∀ r r', Write part r r' → M r → M r') {r : Run} (hr : M r) :
    M (runOf (x r)) := by
  have hwrites := h r
  generalize runOf (x r) = r' at hwrites ⊢
  induction hwrites with
  | refl => exact hr
  | tail _ hlast ih =>
    obtain ⟨part, hpart, hlast⟩ := hlast
    exact hwrite part hpart _ _ hlast ih

/-- What the writes to the parts keep of the game. -/
theorem keeps {x : Play α} (h : Writes parts x) {M : Game → Prop}
    (hwrite : ∀ part ∈ parts, ∀ r r', Write part r r' → M r.game → M r'.game) {r : Run}
    (hr : M r.game) : M (gameOf (x r)) := by
  rw [← game_runOf]
  exact h.keepsRun (M := fun r => M r.game) hwrite hr

/-! ## Steps in general -/

theorem of_reads {x : Play α} (h : ∀ r, ReadsAt r x) : Writes parts x := by
  intro r
  rcases h r with ⟨a, hx⟩ | ⟨e, hx⟩ <;> rw [hx] <;> exact .refl

theorem pure (a : α) : Writes parts (pure a : Play α) := .of_reads fun _ => .pure a

theorem error (e : Failure) : Writes parts (throw e : Play α) := .of_reads fun _ => .throw e

theorem fail (c : Cause) : Writes parts (fail c : Play α) := .of_reads fun _ => .fail c

theorem game : Writes parts game := .of_reads fun _ => .game

theorem lift (x : Except Failure α) : Writes parts (lift x) := .of_reads fun _ => .lift x

theorem orFault (x : Except Fault α) : Writes parts (orFault x) := .of_reads fun _ => .orFault x

theorem player (a : Nat) : Writes parts (player a) := .of_reads fun _ => .player a

theorem bind {x : Play α} {f : α → Play β} (hx : Writes parts x) (hf : ∀ a, Writes parts (f a)) :
    Writes parts (x >>= f) := by
  intro r
  have h := hx r
  rw [bind_apply]
  cases hxr : x r with
  | error e r' => rwa [hxr] at h
  | ok a r' =>
    rw [hxr] at h
    exact h.trans (hf a r')

theorem ite {p : Prop} [Decidable p] {x y : Play α} (hx : Writes parts x) (hy : Writes parts y) :
    Writes parts (if p then x else y) := by split <;> assumption

theorem forM {xs : List α} {f : α → Play Unit} (hf : ∀ a, Writes parts (f a)) :
    Writes parts (xs.forM f) := by
  induction xs with
  | nil => exact .pure ()
  | cons a xs ih => exact .bind (hf a) fun _ => ih

theorem modifyGame {part : Part} (hpart : part ∈ parts) {f : Game → Game}
    (hf : ∀ r, Write part r { r with game := f r.game }) : Writes parts (modifyGame f) :=
  fun r => .single ⟨part, hpart, hf r⟩

theorem emit (hevents : .events ∈ parts) (e : Value) : Writes parts (emit e) :=
  fun _ => .single ⟨.events, hevents, .event e⟩

/-! ## Cards -/

section Cards

variable (hcards : .cards ∈ parts)

include hcards

theorem hand (a : Nat) {f : Player → Player}
    (hf : ∀ p, ∃ hand known, f p = { p with hand, known }) : Writes parts (modifyPlayer a f) :=
  .modifyGame hcards fun _ => .hand a fun p _ => hf p

theorem align (a : Nat) : Writes parts (align a) := by
  intro r
  unfold Play.align
  cases hp : r.game.players[a]? with
  | none =>
    rw [bind_of_error (player_of_none hp)]
    exact .refl
  | some p =>
    rw [bind_of_ok (player_of hp)]
    cases haligned : p.aligned? with
    | error f => exact .refl
    | ok p' =>
      rw [bind_of_ok (orFault_ok p' r)]
      refine .single ⟨.cards, hcards, .hand a fun q hq => ⟨p.hand, p'.known, ?_⟩⟩
      cases hp.symm.trans hq
      exact Player.aligned?_ok haligned

theorem resolvePile (ref : Value) (param : Option String) (params forced : Value) :
    Writes parts (resolvePile ref param params forced) := by
  unfold Play.resolvePile
  refine .ite (.bind (.orFault _) fun _ => .pure _) ?_
  refine .ite (.bind (.orFault _) fun _ => .pure _) ?_
  split
  · refine .ite (.bind .game fun g => .bind (.orFault _) fun seat => ?_) (.fail _)
    refine .bind (.orFault _) fun index => .bind (.align hcards seat) fun _ => ?_
    exact .bind (.orFault _) fun _ => .pure _
  · exact .fail _

theorem takeAt (xs : List Value) (ref : PileRef) {store : List Value → Game → Game}
    (hstore : ∀ ys r, Write .cards r { r with game := store ys r.game }) :
    Writes parts (takeAt xs ref store) := by
  unfold Play.takeAt
  split
  · exact .pure _
  · split
    · exact .pure _
    · exact .bind (.modifyGame hcards (hstore _)) fun _ => .pure _

theorem takeFromHand (a : Nat) (ref : PileRef) : Writes parts (takeFromHand a ref) := by
  refine .bind (.player a) fun p => .ite (.pure _) (.bind (.orFault _) fun size => ?_)
  split
  · exact .pure _
  · split
    · split
      · exact .pure _
      · refine .bind (.hand hcards a fun _ => ⟨_, _, rfl⟩) fun _ => .bind ?_ fun _ => .pure _
        exact .bind (.player a) fun _ => .bind (.orFault _) fun _ =>
          .hand hcards a fun _ => ⟨_, _, rfl⟩
    · exact .error _

theorem take (ref : PileRef) : Writes parts (take ref) := by
  unfold Play.take
  split
  · exact .bind .game fun _ => .takeAt hcards _ _ fun ys _ => .deck ys
  · exact .bind .game fun _ => .takeAt hcards _ _ fun ys _ => .discard ys
  · exact .takeFromHand hcards _ _

theorem addFlag (a : Nat) : Writes parts (addFlag a) := by
  refine .bind (.player a) fun p => ?_
  split
  · exact .hand hcards a fun _ => ⟨_, _, rfl⟩
  · exact .error _

theorem put (ref : PileRef) (card : Value) : Writes parts (put ref card) := by
  unfold Play.put
  split
  · exact .modifyGame hcards fun _ => .deck _
  · exact .modifyGame hcards fun _ => .discard _
  · rename_i a _
    refine .bind (.player a) fun p => ?_
    dsimp only
    split
    · exact .bind (.hand hcards a fun _ => ⟨_, _, rfl⟩) fun _ => .addFlag hcards a
    · exact .bind (.error _) fun _ => .addFlag hcards a

theorem moveOne (source target : PileRef) : Writes parts (moveOne source target) :=
  .bind (.take hcards source) fun _ => .ite (.put hcards _ _) (.pure _)

theorem moveMany (source target : PileRef) : ∀ n, Writes parts (moveMany source target n)
  | 0 => .pure _
  | n + 1 => .bind (.moveOne hcards source target) fun _ => moveMany source target n

theorem moveCardByIndex (c : Circumstances) (source target param : String) :
    Writes parts (moveCardByIndex c source target param) := by
  refine .bind (.orFault _) fun index => ?_
  have hmove : Writes parts (do
      let source ← Play.resolvePile (.text source) none .null index
      let target ← Play.resolvePile (.text target) none .null .null
      Play.moveOne source target : Play Unit) :=
    .bind (.resolvePile hcards _ _ _ _) fun _ => .bind (.resolvePile hcards _ _ _ _) fun _ =>
      .moveOne hcards _ _
  exact .ite (.bind (.fail _) fun _ => hmove) hmove

theorem markKnown (a n : Nat) (known : Bool) : Writes parts (markKnown a n known) :=
  .bind (.align hcards a) fun _ => .bind (.player a) fun _ => .bind (.orFault _) fun _ =>
    .hand hcards a fun _ => ⟨_, _, rfl⟩

theorem layCard (a n : Nat) (card : Value) : Writes parts (layCard a n card) := by
  refine .bind (.player a) fun p => ?_
  split
  · exact .hand hcards a fun _ => ⟨_, _, rfl⟩
  · exact .error _

theorem exchangeCards (s : SwapSides) (fromCard toCard : Value) (known : Bool) :
    Writes parts (exchangeCards s fromCard toCard known) :=
  .bind (.layCard hcards _ _ _) fun _ => .bind (.layCard hcards _ _ _) fun _ =>
    .bind (.markKnown hcards _ _ _) fun _ => .markKnown hcards _ _ _

theorem revealHand (hevents : .events ∈ parts) (a : Nat) : Writes parts (revealHand a) :=
  .bind (.player a) fun _ => .bind (.orFault _) fun _ =>
    .bind (.hand hcards a fun _ => ⟨_, _, rfl⟩) fun _ => .bind (.orFault _) fun _ =>
      .emit hevents _

end Cards

/-! ## The turn, scores and the log -/

theorem setFlag (hflags : .flags ∈ parts) (target flag : String) (value : Value) :
    Writes parts (setFlag target flag value) :=
  .bind .game fun _ => .bind (.lift _) fun t => .modifyGame hflags fun _ => .flag flag value t

theorem resetTurnFlags (hturn : .turn ∈ parts) : Writes parts resetTurnFlags :=
  .modifyGame hturn fun _ => .turn _ rfl

theorem setPhase (hturn : .turn ∈ parts) (phase : Option String) : Writes parts (setPhase phase) :=
  .modifyGame hturn fun _ => .turn _ rfl

theorem advanceTurnOrder (hturn : .turn ∈ parts) (phase : Option String) :
    Writes parts (advanceTurnOrder phase) := by
  have hextras (t : Turn) : (withPhase phase t).resetFlags.extras = t.extras := by
    unfold withPhase
    split <;> rfl
  have hreset : Writes parts (Play.modifyGame fun g =>
      { g with turn := (withPhase phase g.turn).resetFlags }) :=
    .modifyGame hturn fun _ => .turn _ (hextras _)
  refine .bind .game fun g => .ite (.bind (.orFault _) fun seat => ?_) hreset
  exact .bind (.modifyGame hturn fun _ => .turn _ rfl) fun _ => hreset

theorem scoreSeat (hscores : .scores ∈ parts) (hevents : .events ∈ parts) (d : Document) (a : Nat) :
    Writes parts (scoreSeat d a) := by
  refine .bind (.player a) fun p => .bind (.orFault _) fun score => ?_
  dsimp only
  split
  · exact .error _
  · exact .bind (.modifyGame hscores fun _ => .score a _) fun _ =>
      .bind .game fun _ => .emit hevents _

theorem decideMatch (hcontest : .contest ∈ parts) (hturn : .turn ∈ parts) (limit : Number) :
    Writes parts (decideMatch limit) := by
  refine .bind .game fun g => ?_
  split
  · exact .pure _
  · rename_i winner _
    intro r
    refine .tail (.single ⟨.contest, hcontest, .contest (.bool true) winner.id⟩) ⟨.turn, hturn, ?_⟩
    exact .turn { r.game.turn with phase := .text gameOverPhase } rfl

theorem scoreRound (hscores : .scores ∈ parts) (hturn : .turn ∈ parts) (hcontest : .contest ∈ parts)
    (hevents : .events ∈ parts) (d : Document) : Writes parts (scoreRound d) := by
  refine .bind .game fun g => ?_
  split
  · exact .fail _
  · refine .bind (.forM (.scoreSeat hscores hevents d)) fun _ => ?_
    refine .bind (.of_reads fun _ => .announceScores) fun _ => ?_
    split
    · exact .pure _
    · exact .decideMatch hcontest hturn _

theorem log (hlog : .log ∈ parts) (c : Circumstances) (template : String) :
    Writes parts (log c template) := by
  refine .bind .game fun g => .bind (.orFault _) fun name => ?_
  split
  · exact fun _ => .single ⟨.log, hlog, .log _⟩
  · exact .error _

end Writes

end Play

/-! ## Operations -/

/-- The parts that an operation writes to. -/
def Operation.parts : Operation → List Part
  | .moveCard _ _ _ _ | .moveCardByIndex _ _ _ => [.cards]
  | .setFlag _ _ _ => [.flags]
  | .advanceTurnOrder _ | .resetTurnFlags | .setPhase _ => [.turn]
  | .log _ => [.log]
  | .scoreRound => [.scores, .turn, .contest, .events]
  | .revealAllHands | .swapCards _ _ _ _ _ | .swapCardsWithPeek _ _ _ _ | .revealCard _ _ =>
    [.cards, .events]

/-- An operation does nothing but writes to its parts. -/
theorem Play.perform_writes (b : Rulebook) (c : Circumstances) (o : Operation) :
    Writes o.parts (perform b c o) := by
  have hreads {parts : List Part} {α : Type} {x : Play α} (h : ∀ r, ReadsAt r x) :
      Writes parts x := .of_reads h
  have hcards : Part.cards ∈ [Part.cards, .events] := by decide
  have hevents : Part.events ∈ [Part.cards, .events] := by decide
  cases o with
  | moveCard =>
    have hcards : Part.cards ∈ [Part.cards] := List.mem_singleton_self _
    exact .bind (.resolvePile hcards _ _ _ _) fun _ => .bind (.resolvePile hcards _ _ _ _) fun _ =>
      .moveMany hcards _ _ _
  | moveCardByIndex => exact .moveCardByIndex (List.mem_singleton_self _) _ _ _ _
  | setFlag => exact .setFlag (List.mem_singleton_self _) _ _ _
  | advanceTurnOrder => exact .advanceTurnOrder (List.mem_singleton_self _) _
  | resetTurnFlags => exact .resetTurnFlags (List.mem_singleton_self _)
  | setPhase => exact .setPhase (List.mem_singleton_self _) _
  | log => exact .log (List.mem_singleton_self _) _ _
  | revealAllHands => exact .bind .game fun _ => .forM (.revealHand hcards hevents)
  | scoreRound => exact .scoreRound (by decide) (by decide) (by decide) (by decide) _
  | swapCards =>
    refine .bind (hreads fun _ => .swapSides b c _ _ _ _) fun s => ?_
    refine .bind (hreads fun _ => .cardAt _ _) fun _ => ?_
    refine .bind (hreads fun _ => .cardAt _ _) fun _ => ?_
    refine .bind (.exchangeCards hcards _ _ _ _) fun _ => .ite ?_ (.pure _)
    exact .bind (hreads fun _ => .idOf _) fun _ => .bind (.emit hevents _) fun _ =>
      .bind (hreads fun _ => .idOf _) fun _ => .emit hevents _
  | swapCardsWithPeek =>
    refine .bind (hreads fun _ => .swapSides b c _ _ _ _) fun s => ?_
    refine .bind (hreads fun _ => .cardAt _ _) fun _ => ?_
    refine .bind (hreads fun _ => .cardAt _ _) fun _ => ?_
    exact .bind (hreads fun _ => .idOf _) fun _ => .bind (.emit hevents _) fun _ =>
      .bind (hreads fun _ => .idOf _) fun _ => .bind (.emit hevents _) fun _ =>
        .exchangeCards hcards _ _ _ _
  | revealCard =>
    refine .bind (hreads fun _ => .seatOf b c _) fun _ => .bind (.orFault _) fun _ => ?_
    refine .bind (hreads fun _ => .requiredSlot _ _) fun _ => ?_
    refine .bind (.markKnown hcards _ _ _) fun _ => .bind (hreads fun _ => .idOf _) fun _ => ?_
    exact .bind (hreads fun _ => .cardAt _ _) fun _ => .emit hevents _

end CardRules
