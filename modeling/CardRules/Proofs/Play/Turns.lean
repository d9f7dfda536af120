import CardRules.Proofs.Play.Faults
import CardRules.Proofs.Play.Naming
import CardRules.Proofs.Play.References

/-!
# Seats and turns

Players keep their seats, and the turn goes round: of all operations only an advance moves it
(`perform_keepsSeat`), and that to the seat which is next by every way a rule has to say so
(`Game.NextIs`). So after any calls the current seat is as many seats after the first one as
advances were completed (`turns_go_round`), unless a rule writes the seat itself.
-/

namespace CardRules

/-! ## Operations that leave the turn where it is -/

/-- No flag is written over the current seat. -/
def Operation.SparesSeat : Operation → Prop
  | .setFlag target flag _ => target = "turn" → FieldName.underscored flag ≠ "current_player_index"
  | _ => True

instance : DecidablePred Operation.SparesSeat
  | .setFlag _ _ _ => inferInstanceAs (Decidable (_ → _))
  | .moveCard _ _ _ _ | .moveCardByIndex _ _ _ | .advanceTurnOrder _ | .resetTurnFlags
  | .setPhase _ | .log _ | .revealAllHands | .scoreRound | .swapCards _ _ _ _ _
  | .swapCardsWithPeek _ _ _ _ | .revealCard _ _ => .isTrue trivial

/-- The operation gives the turn to the next player. -/
def Operation.isAdvance : Operation → Bool
  | .advanceTurnOrder _ => true
  | _ => false

theorem Game.resolveTarget?_turn {g : Game} {target : String}
    (h : g.resolveTarget? (.text target) = .ok .turn) : target = "turn" := by
  cases Game.resolveTarget?_ok h
  rfl

namespace Play

variable {α β : Type}

/-- The step leaves the current seat as it is, whether it ends well or fails. -/
def KeepsSeat (x : Play α) : Prop := ∀ r, (gameOf (x r)).turn.seat = r.game.turn.seat

namespace KeepsSeat

theorem of_writes {parts : List Part} {x : Play α} (h : Writes parts x) (hturn : .turn ∉ parts)
    (hflags : .flags ∉ parts) : KeepsSeat x := by
  intro r
  refine h.keeps (M := fun g => g.turn.seat = r.game.turn.seat) ?_ rfl
  intro part hpart r₁ r₂ hw hr
  cases hw with
  | turn => exact absurd hpart hturn
  | flag => exact absurd hpart hflags
  | deck | discard | hand | score | contest | log | event => exact hr

theorem bind {x : Play α} {f : α → Play β} (hx : KeepsSeat x) (hf : ∀ a, KeepsSeat (f a)) :
    KeepsSeat (x >>= f) := by
  intro r
  have h := hx r
  rw [bind_apply]
  cases hxr : x r with
  | error e r' => rwa [hxr] at h
  | ok a r' =>
    rw [hxr] at h
    exact (hf a r').trans h

theorem modifyGame {f : Game → Game} (hf : ∀ g, (f g).turn.seat = g.turn.seat) :
    KeepsSeat (modifyGame f) := fun r => hf r.game

theorem reads {x : Play α} (h : ∀ r, ReadsAt r x) : KeepsSeat x := by
  have hwrites : Writes [] x := .of_reads h
  exact of_writes hwrites List.not_mem_nil List.not_mem_nil

theorem scoreRound (d : Document) : KeepsSeat (scoreRound d) := by
  refine .bind (.reads fun _ => .game) fun g => ?_
  split
  · exact .reads fun _ => .fail _
  · have hscores : Writes [.scores, .events] ((List.range g.seats).forM (scoreSeat d)) :=
      .forM (.scoreSeat (by decide) (by decide) d)
    refine .bind (.of_writes hscores (by decide) (by decide)) fun _ => ?_
    refine .bind (.reads fun _ => .announceScores) fun _ => ?_
    split
    · exact .reads fun _ => .pure _
    · refine .bind (.reads fun _ => .game) fun g => ?_
      split
      · exact .reads fun _ => .pure _
      · exact .modifyGame fun _ => rfl

end KeepsSeat

/-- An operation that does not advance the turn leaves the seat as it is, but for a flag. -/
theorem perform_keepsSeat (b : Rulebook) (c : Circumstances) {o : Operation} (h : ¬ o.isAdvance)
    (hspares : o.SparesSeat) : KeepsSeat (perform b c o) := by
  have hwrites := perform_writes b c o
  cases o with
  | setFlag target flag value =>
    intro r
    rw [perform, setFlag_apply]
    cases ht : r.game.resolveTarget? (.text target) with
    | error e => rfl
    | ok t =>
      cases t with
      | turn =>
        have hflag := hspares (Game.resolveTarget?_turn ht)
        exact Record.get_write_of_ne (r := r.game.turn) (f := Turn.Field.seat) hflag value
      | round | contest | player => rfl
  | advanceTurnOrder => exact absurd rfl h
  | resetTurnFlags | setPhase => exact .modifyGame fun _ => rfl
  | scoreRound => exact .scoreRound b.document
  | moveCard | moveCardByIndex | log | revealAllHands | swapCards | swapCardsWithPeek
  | revealCard => exact .of_writes hwrites (by simp [Operation.parts]) (by simp [Operation.parts])

end Play

/-! ## The next seat -/

namespace Game

variable {g : Game} {a : Nat}

/-- It is the turn of the player in a seat. -/
structure IsTurnOf (g : Game) (a : Nat) : Prop where
  number : g.turn.seat.asNumber? = some (.int a)
  seated : a < g.seats

/-- A reference to a hand that names the next player. -/
def NamesNextHand (ref : String) : Prop :=
  "hand".toList.isSuffixOf ref.toList = true ∧
    Play.occursIn nextPlayerRef.toList ref.toList = true

/-- The next player is the one in the seat, by every way a rule has to say so: as a player, as a
record, as the owner of a hand and in a condition. -/
structure NextIs (g : Game) (a : Nat) : Prop where
  player : ∀ strict actor, g.resolveSeat? strict actor (.text nextPlayerRef) = .ok a
  target : g.resolveTarget? (.text nextPlayerRef) = .ok (.player a)
  /-- A hand that is found is the hand in the seat. -/
  hand : ∀ ref, NamesNextHand ref → ∀ param params forced r pile r', r.game = g →
    Play.resolvePile (.text ref) param params forced r = .ok pile r' → pile.pile = .hand a
  /-- It is found, unless the flags cannot be brought in line. -/
  handFound : ∀ ref, NamesNextHand ref → ∀ p p', g.players[a]? = some p → p.aligned? = .ok p' →
    ∀ r, r.game = g → Play.resolvePile (.text ref) none .null .null r =
      .ok ⟨.hand a, .null⟩ { r with game := g.modifyPlayer a fun _ => p' }
  condition : ∀ metadata c scope, scopeOf? g metadata c = .ok scope →
    ∃ p, g.players[a]? = some p ∧
      ∀ d, Expr.eval scope (d + 1) (.name nextPlayerRef) = .ok (.player a p)
  /-- There is a scope, unless the parameters stand for no object. -/
  scope : ∀ metadata c, c.Plain → ∃ scope, scopeOf? g metadata c = .ok scope

theorem NamesNextHand.resolvePile {s : String} (hs : NamesNextHand s) (param : Option String)
    (params forced : Value) :
    Play.resolvePile (.text s) param params forced = do
      let g ← Play.game
      let seat ← Play.orFault g.nextSeat?
      let index ← Play.orFault (Play.indexFor? forced param params)
      Play.align seat
      return ⟨.hand seat, ← Play.orFault (asIndex? index)⟩ := by
  have hdeck : Value.text s ≠ .text "deck" := by
    rintro heq
    cases heq
    exact absurd hs.1 (by decide)
  have hdiscard : Value.text s ≠ .text "discard" := by
    rintro heq
    cases heq
    exact absurd hs.1 (by decide)
  unfold Play.resolvePile
  rw [if_neg hdeck, if_neg hdiscard]
  dsimp only
  rw [if_pos hs.1]
  simp only [hs.2, if_true]

/-- With players, a scope names the game, the turn and the players in the current and in the next
seat. -/
structure NamesSeats (g : Game) (a a' : Nat) (scope : Expr.Scope) : Prop where
  current : g.currentSeat? = .ok a
  next : g.nextSeat? = .ok a'
  state : scope.names.get? "state" = some (.game g)
  turn : scope.names.get? "turn" = some (.turn g.turn)
  currentPlayer : ∃ p, g.players[a]? = some p ∧
    scope.names.get? currentPlayerRef = some (.player a p)
  nextPlayer : ∃ p, g.players[a']? = some p ∧ scope.names.get? nextPlayerRef = some (.player a' p)

theorem scopeOf?_namesSeats {metadata : Table Value} {c : Circumstances} {scope : Expr.Scope}
    (h : scopeOf? g metadata c = .ok scope) (hne : g.players ≠ []) :
    ∃ a a', g.NamesSeats a a' scope := by
  have hseated : g.players.isEmpty = false := List.isEmpty_eq_false_iff.2 hne
  have hplayer {seat? : Except Fault Nat} {x : Expr.Operand} (hx : (do
      let seat ← seat?
      return Expr.Operand.player seat (← g.player? seat)) = .ok x) :
      ∃ seat p, seat? = .ok seat ∧ g.players[seat]? = some p ∧ x = .player seat p := by
    obtain ⟨seat, hseat, hx⟩ := bind_eq_ok hx
    obtain ⟨p, hp, hx⟩ := bind_eq_ok hx
    cases hx
    unfold player? at hp
    split at hp
    · cases hp
      exact ⟨seat, p, hseat, by assumption, rfl⟩
    · cases hp
  unfold scopeOf? at h
  dsimp only at h
  rw [hseated] at h
  obtain ⟨current, hcurrent, h₁⟩ := bind_eq_ok h
  obtain ⟨next, hnext, h₂⟩ := bind_eq_ok h₁
  obtain ⟨params, -, h₃⟩ := bind_eq_ok h₂
  obtain ⟨context, -, h₄⟩ := bind_eq_ok h₃
  cases h₄
  obtain ⟨a, p, ha, hp, rfl⟩ := hplayer hcurrent
  obtain ⟨a', p', ha', hp', rfl⟩ := hplayer hnext
  exact ⟨a, a', {
    current := ha
    next := ha'
    state := by simp [Table.get?_cons]
    turn := by simp [Table.get?_cons]
    currentPlayer := ⟨p, hp, by simp [currentPlayerRef, Table.get?_cons]⟩
    nextPlayer := ⟨p', hp', by simp [nextPlayerRef, Table.get?_cons]⟩ }⟩

namespace IsTurnOf

theorem pos (h : g.IsTurnOf a) : 0 < g.seats := Nat.zero_lt_of_lt h.seated

theorem currentSeat? (h : g.IsTurnOf a) : g.currentSeat? = .ok a := by
  have hseat : g.seatAt? g.turn.seat = g.seatAt? (.int a) := by
    unfold seatAt?
    rw [h.number]
    rfl
  rw [Game.currentSeat?, hseat, seatAt?_of_lt h.seated]

theorem nextSeatValue? (h : g.IsTurnOf a) :
    g.nextSeatValue? = .ok (.int ((a + 1) % g.seats : Nat)) := by
  rw [nextSeatValue?_of_number h.number h.pos,
    Int.fmod_eq_emod_of_nonneg _ (Int.natCast_nonneg g.seats)]
  norm_cast

theorem nextSeat? (h : g.IsTurnOf a) : g.nextSeat? = .ok ((a + 1) % g.seats) := by
  rw [Game.nextSeat?, h.nextSeatValue?]
  exact seatAt?_of_lt (Nat.mod_lt _ h.pos)

theorem next (h : g.IsTurnOf a) : g.NextIs ((a + 1) % g.seats) where
  player strict actor := by
    rw [g.followsTurn.next strict actor, h.nextSeat?]
    rfl
  target := by
    simp [resolveTarget?, nextPlayerRef, currentPlayerRef, h.nextSeat?, orFault, Except.map]
  hand ref href param params forced r pile r' hr hpile := by
    subst hr
    rw [href.resolvePile] at hpile
    obtain ⟨g, r₁, hg, h₁⟩ := Play.bind_ok hpile
    cases hg
    obtain ⟨seat, r₂, hseat, h₂⟩ := Play.bind_ok h₁
    rw [h.nextSeat?] at hseat
    cases hseat
    obtain ⟨index, r₃, -, h₃⟩ := Play.bind_ok h₂
    obtain ⟨_, r₄, -, h₄⟩ := Play.bind_ok h₃
    obtain ⟨_, r₅, -, h₅⟩ := Play.bind_ok h₄
    cases h₅
    rfl
  handFound ref href p p' hp hp' r hr := by
    subst hr
    rw [href.resolvePile, Play.bind_of_ok (Play.game_apply _), h.nextSeat?,
      Play.bind_of_ok (Play.orFault_ok _ _)]
    have hindex : Play.indexFor? .null none .null = .ok .null := if_pos (.inr rfl)
    have halign : Play.align ((a + 1) % r.game.seats) r =
        .ok () { r with game := r.game.modifyPlayer ((a + 1) % r.game.seats) fun _ => p' } := by
      rw [Play.align, Play.bind_of_ok (Play.player_of hp), hp',
        Play.bind_of_ok (Play.orFault_ok _ _), Play.modifyPlayer_apply]
    rw [hindex, Play.bind_of_ok (Play.orFault_ok _ _), Play.bind_of_ok halign]
    rfl
  condition metadata c scope hscope := by
    obtain ⟨_, a', hseats⟩ := scopeOf?_namesSeats hscope (List.ne_nil_of_length_pos h.pos)
    obtain rfl : a' = (a + 1) % g.seats := Except.ok.inj (hseats.next.symm.trans h.nextSeat?)
    obtain ⟨p, hp, hname⟩ := hseats.nextPlayer
    refine ⟨p, hp, fun d => ?_⟩
    rw [Expr.eval, Expr.lookUp, hname]
  scope metadata c hc := by
    obtain ⟨scope, hscope, -⟩ := scopeOf?_of_hasTurn (.inr ⟨a, h.currentSeat?⟩) hc metadata
    exact ⟨scope, hscope⟩

end IsTurnOf

/-- Who plays alone is next again. -/
example (h : g.IsTurnOf 0) (hone : g.seats = 1) : g.NextIs 0 := by
  have hnext := h.next
  rwa [hone] at hnext

end Game

/-! ## Steps -/

/-- The four flags of the turn are false. -/
def Turn.Cleared (t : Turn) : Prop :=
  t.drawn = .bool false ∧ t.justBurned = .bool false ∧ t.usedAbility = .bool false ∧
    t.discarded = .bool false

theorem Play.seat_withPhase (phase : Option String) (t : Turn) :
    (withPhase phase t).seat = t.seat := by
  unfold withPhase
  split <;> rfl

/-- An advance ends well, with the turn at the next seat. -/
theorem Play.advanceTurnOrder_ok {r : Run} {a : Nat} (h : r.game.IsTurnOf a)
    (phase : Option String) :
    ∃ turn, advanceTurnOrder phase r = .ok () { r with game := { r.game with turn } } ∧
      turn.seat = .int ((a + 1) % r.game.seats : Nat) ∧ turn.Cleared := by
  have hseated : (!r.game.players.isEmpty) = true := by
    rw [Bool.not_eq_true', List.isEmpty_eq_false_iff]
    exact List.ne_nil_of_length_pos h.pos
  rw [advanceTurnOrder, bind_of_ok (game_apply r), if_pos hseated, h.nextSeatValue?]
  exact ⟨_, rfl, seat_withPhase phase _, rfl, rfl, rfl, rfl⟩

theorem Write.seats {part : Part} {r r' : Run} (h : Write part r r') :
    r'.game.seats = r.game.seats := by
  have hmodify (g : Game) (a : Nat) (f : Player → Player) :
      (g.modifyPlayer a f).seats = g.seats := by
    simp [Game.modifyPlayer, Game.seats]
  cases h with
  | hand | score => exact hmodify r.game _ _
  | flag flag value t =>
    cases t with
    | turn | round | contest => rfl
    | player a => exact hmodify r.game a _
  | deck | discard | turn | contest | log | event => rfl

namespace Step

variable {b : Rulebook} {s : Step} {a : Nat}

theorem seats_left (b : Rulebook) (s : Step) : (s.left b).game.seats = s.game.seats := by
  rw [game_left]
  refine (Play.perform_writes b _ _).keeps (M := fun g => g.seats = s.game.seats) ?_ rfl
  exact fun _ _ _ _ hwrite hr => hwrite.seats.trans hr

/-- The step completes and gives the turn to the next player. -/
def advances (b : Rulebook) (s : Step) : Bool := s.completes b && s.leaf.operation.isAdvance

/-- The turn has come to the next player, with its flags cleared. -/
structure Advanced (b : Rulebook) (s : Step) : Prop where
  completes : s.completes b = true
  cleared : (s.left b).game.turn.Cleared
  moved : ∃ a, s.game.NextIs a ∧ (s.left b).game.currentSeat? = .ok a

theorem result_of_advances (h : s.game.IsTurnOf a) (hadvances : s.leaf.operation.isAdvance) :
    ∃ turn, s.result b = .ok () { game := { s.game with turn } } ∧
      turn.seat = .int ((a + 1) % s.game.seats : Nat) ∧ turn.Cleared := by
  unfold result Leaf.perform
  cases ho : s.leaf.operation with
  | advanceTurnOrder phase => exact Play.advanceTurnOrder_ok (r := { game := s.game }) h phase
  | _ =>
    rw [ho] at hadvances
    cases hadvances

/-- It is the turn of the next player after a step that advances it, and of the same one else. -/
theorem isTurnOf_left (h : s.game.IsTurnOf a) (hspares : s.leaf.operation.SparesSeat) :
    (s.left b).game.IsTurnOf (if s.advances b then (a + 1) % s.game.seats else a) := by
  by_cases hadvances : s.leaf.operation.isAdvance
  · obtain ⟨turn, hresult, hseat, -⟩ := result_of_advances (b := b) h hadvances
    have hs : s.advances b = true := by simp [advances, completes_of_ok hresult, hadvances]
    rw [if_pos hs, left_of_ok hresult]
    exact ⟨by rw [hseat]; rfl, Nat.mod_lt _ h.pos⟩
  · have hseat : (s.left b).game.turn.seat = s.game.turn.seat := by
      rw [game_left]
      exact Play.perform_keepsSeat b s.leaf.circumstances hadvances hspares _
    have hs : ¬ s.advances b = true := by simp [advances, hadvances]
    rw [if_neg hs]
    exact ⟨hseat ▸ h.number, seats_left b s ▸ h.seated⟩

theorem advanced (h : s.game.IsTurnOf a) (hadvances : s.leaf.operation.isAdvance) :
    s.Advanced b := by
  obtain ⟨turn, hresult, hseat, hcleared⟩ := result_of_advances (b := b) h hadvances
  have hturn : (s.left b).game.IsTurnOf ((a + 1) % s.game.seats) := by
    rw [left_of_ok hresult]
    exact ⟨by rw [hseat]; rfl, Nat.mod_lt _ h.pos⟩
  refine ⟨completes_of_ok hresult, ?_, _, h.next, hturn.currentSeat?⟩
  rw [left_of_ok hresult]
  exact hcleared

end Step

/-! ## Rounds -/

/-- A game some steps after another: the seats are the same, what is in a lasting field of a player
is unless a step wrote it, and the turn is as many seats further as steps advanced it. -/
structure Rotated (b : Rulebook) (g : Game) (i : Nat) (past : List Step) (h : Game) : Prop where
  seats : h.seats = g.seats
  fields : ∀ f : Player.Field, f.Lasting → ∀ a, (∀ s ∈ past, ¬ s.WritesField b f a) →
    (h.column f)[a]? = (g.column f)[a]?
  turn : h.IsTurnOf ((i + past.countP (·.advances b)) % g.seats)

theorem Rotated.step {b : Rulebook} {g : Game} {i : Nat} {past : List Step} {s : Step}
    (h : Rotated b g i past s.game) (hspares : s.leaf.operation.SparesSeat) :
    Rotated b g i (past ++ [s]) (s.left b).game where
  seats := (s.seats_left b).trans h.seats
  fields f hf a hpast := by
    rw [Step.column_left hf (hpast s (by simp))]
    exact h.fields f hf a fun t ht => hpast t (List.mem_append_left _ ht)
  turn := by
    have hturn := s.isTurnOf_left (b := b) h.turn hspares
    rw [h.seats, Nat.mod_add_mod] at hturn
    rw [List.countP_append, List.countP_singleton]
    split at hturn
    · rwa [if_pos ‹_›, ← Nat.add_assoc]
    · rwa [if_neg ‹_›]

/-- Seats are kept and the turn goes round. Let it be the turn of the player in a seat and let any
calls be made, also such as fail, that never write a flag over the current seat. After them, and
wherever one of their effects starts, there are the seats of the start, and a player has another
value in a field that lasts, such as the id, only if a flag was written over it in that seat. The
turn is at the seat of the start plus the number of completed advances, modulo the number of seats.
Each advance completes, clears the flags of the turn and gives it to the player who was next by
every way to say so. -/
theorem turns_go_round {b : Rulebook} {g : Game} {i : Nat} (hturn : g.IsTurnOf i)
    (calls : List Call) (hspares : ∀ s ∈ history b g calls, s.leaf.operation.SparesSeat) :
    Rotated b g i (history b g calls) (g.after b calls) ∧
      ∀ past s, past ++ [s] <+: history b g calls →
        Rotated b g i past s.game ∧ (s.leaf.operation.isAdvance → s.Advanced b) := by
  refine history_induction (b := b) (M := fun past h => Rotated b g i past h ∧
    ∀ before s, before ++ [s] <+: past →
      Rotated b g i before s.game ∧ (s.leaf.operation.isAdvance → s.Advanced b)) calls [] g ?_ ?_
  · rintro past s hs ⟨hpast, hsteps⟩
    refine ⟨hpast.step (hspares s hs), fun before t ht => ?_⟩
    rcases List.prefix_concat_iff.1 ht with heq | ht
    · obtain ⟨rfl, hlast⟩ := List.append_inj' heq rfl
      cases hlast
      exact ⟨hpast, Step.advanced hpast.turn⟩
    · exact hsteps before t ht
  · refine ⟨⟨rfl, fun _ _ _ _ => rfl, ?_⟩, fun past s hs => ?_⟩
    · simpa [Nat.mod_eq_of_lt hturn.seated] using hturn
    · simp at hs

namespace Sample

/-- The turn passes on. -/
def pass : Call := .effect { playerId := .int 1 } [("op", .text "advanceTurnOrder")]

/-- The turn passes on in a branch that fails thereafter. -/
def stumble : Call :=
  .effect { playerId := .int 1 }
    [("op", .text "if"),
     ("then", .list
       [.object [("op", .text "advanceTurnOrder")], .object [("op", .text "revealCard")]])]

/-- The last player passes the turn on. -/
def secondPass : Step where
  leaf := ⟨{ playerId := .int 1 }, .advanceTurnOrder none⟩
  game := { game with turn := { game.turn with seat := .int 1 } }

end Sample

/-- Three advances among two players lead past the first one, whatever fails in between. -/
theorem turns_go_round_sample :
    let calls := [Sample.pass, Sample.stumble, Sample.pass]
    let steps := history Sample.rulebook Sample.game calls
    let last := Sample.game.after Sample.rulebook calls
    Sample.game.IsTurnOf 0 ∧ (∀ s ∈ steps, s.leaf.operation.SparesSeat) ∧
      steps.map (fun s => (s.leaf.operation, s.completes Sample.rulebook)) =
        [(.advanceTurnOrder none, true), (.advanceTurnOrder none, true),
         (.revealCard "currentPlayer" none, false), (.advanceTurnOrder none, true)] ∧
      last.IsTurnOf 1 ∧ last.names = [.text "Ann", .text "Bob"] ∧
      Sample.secondPass ∈ steps ∧ Sample.secondPass.game.NextIs 0 ∧
      (Sample.secondPass.left Sample.rulebook).game.currentSeat? = .ok 0 := by
  intro calls steps last
  have hturn : Sample.game.IsTurnOf 0 := ⟨rfl, by decide⟩
  have hspares : ∀ s ∈ steps, s.leaf.operation.SparesSeat := by decide +kernel
  obtain ⟨hlast, hsteps⟩ := turns_go_round hturn calls hspares
  refine ⟨hturn, hspares, by decide +kernel, ?_, ?_, ?_⟩
  · have hcount : steps.countP (·.advances Sample.rulebook) = 3 := by decide +kernel
    have hend := hlast.turn
    rwa [hcount] at hend
  · have hparts : ∀ s ∈ steps, .flags ∉ s.leaf.operation.parts := by decide +kernel
    refine List.ext_getElem? fun a => hlast.fields .name trivial a ?_
    rintro s hs ⟨-, target, flag, value, ho, -⟩
    exact hparts s hs (by rw [ho]; exact List.mem_singleton_self _)
  · have hstart : steps.take 1 ++ [Sample.secondPass] <+: steps := by decide +kernel
    obtain ⟨-, hadvanced⟩ := hsteps _ _ hstart
    obtain ⟨a, hnext, hseat⟩ := (hadvanced rfl).moved
    have hfirst : (Sample.secondPass.left Sample.rulebook).game.currentSeat? = .ok 0 := by
      decide +kernel
    cases hfirst.symm.trans hseat
    exact ⟨hstart.subset (by simp), hnext, hfirst⟩

end CardRules
