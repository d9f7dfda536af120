import CardRules.Proofs.Cards.Steps

/-!
# Lining up

`Game.lineUp` gives players as many flags as cards: surplus flags are cut and missing ones are
false. Steps look up players and places by ids and cards, and line a hand up before they change its
flags. So in games whose hands and flags are lists it makes no difference to looking up piles, to
swaps and to reveals whether players are lined up before or after (`Indifferent`). A step of which
this holds keeps flags in line (`Indifferent.inLine`).
-/

namespace CardRules

/-! ## Seats and players -/

namespace Seat

theorem lined_lined (s : Seat) : s.lined.lined = s.lined := lined_of_parallel s.length_lined

theorem laid_lined (n : Nat) (card : Value) (s : Seat) :
    Seat.laid n card s.lined = (Seat.laid n card s).lined := by simp [laid, lined]

theorem marked_lined (n : Nat) (known : Bool) (s : Seat) :
    Seat.marked n known s.lined = (Seat.marked n known s).lined := by
  rw [lined_of_parallel (parallel_marked n known s), marked, marked, lined_lined]

theorem shown_lined (s : Seat) : s.lined.shown = s.shown.lined := by
  rw [lined_of_parallel s.parallel_shown]
  rfl

end Seat

namespace Player

variable {p : Player}

/-- The cards of the hand, if it is a list. -/
def cards (p : Player) : List Value :=
  match p.hand with
  | .list cards => cards
  | _ => []

theorem Holds.cards {s : Seat} (h : p.Holds s) : p.cards = s.cards := by
  rw [Player.cards, h.hand]

/-- The player with surplus flags cut and missing ones filled with false. -/
def linedUp (p : Player) : Player := p.onSeat Seat.lined

/-- The player's hand and flags are lists of one length. -/
def InLine (p : Player) : Prop := ∃ s : Seat, p.Holds s ∧ s.Parallel

theorem linedUp_of_inLine (h : p.InLine) : p.linedUp = p := by
  obtain ⟨s, hs, hparallel⟩ := h
  rw [linedUp, hs.onSeat_eq, Seat.lined_of_parallel hparallel, ← hs.hand, ← hs.known]

theorem Holds.linedUp {s : Seat} (h : p.Holds s) : p.linedUp.Holds s.lined := h.onSeat Seat.lined

/-- Lining up changes nothing but the flags. -/
theorem linedUp_eq (p : Player) : p.linedUp = { p with known := p.linedUp.known } := by
  unfold linedUp onSeat
  split
  · rename_i hhand hknown
    simp [Seat.lined, ← hhand]
  · rfl

@[simp] theorem id_linedUp (p : Player) : p.linedUp.id = p.id := by rw [linedUp_eq]

@[simp] theorem hand_linedUp (p : Player) : p.linedUp.hand = p.hand := by rw [linedUp_eq]

/-- Without lists nothing is changed. -/
theorem onSeat_of_not_holds (h : ¬ ∃ s, p.Holds s) (f : Seat → Seat) : p.onSeat f = p := by
  unfold onSeat
  split
  · rename_i cards flags hhand hknown
    exact absurd ⟨⟨cards, flags⟩, hhand, hknown⟩ h
  · rfl

theorem onSeat_linedUp {f : Seat → Seat} (hf : ∀ s : Seat, f s.lined = (f s).lined) (p : Player) :
    p.linedUp.onSeat f = (p.onSeat f).linedUp := by
  by_cases h : ∃ s, p.Holds s
  · obtain ⟨s, hs⟩ := h
    rw [linedUp, linedUp, (hs.onSeat _).onSeat_eq, (hs.onSeat _).onSeat_eq, hs.onSeat_eq,
      hs.onSeat_eq, hf]
  · rw [linedUp, linedUp, onSeat_of_not_holds h, onSeat_of_not_holds h, onSeat_of_not_holds h]

end Player

/-! ## Games -/

namespace Game

variable {g : Game} {a : Nat} {p : Player} {seats : List Nat}

/-- All players' hands and flags are lists, of whatever lengths. -/
def HasLists (g : Game) : Prop := ∀ p ∈ g.players, ∃ s : Seat, p.Holds s

/-- The flags of the player in a seat are in line with the hand. -/
def InLine (g : Game) (a : Nat) : Prop := ∀ p, g.players[a]? = some p → p.InLine

/-- The game with the players in some seats lined up. -/
def lineUp (g : Game) (seats : List Nat) : Game :=
  { g with players := g.players.mapIdx fun a p => if a ∈ seats then p.linedUp else p }

theorem Lays.hasLists {l : Layout} (h : g.Lays l) : g.HasLists := by
  intro p hp
  obtain ⟨a, ha⟩ := List.mem_iff_getElem?.1 hp
  obtain ⟨s, -, hs⟩ := h.seat ha
  exact ⟨s, hs⟩

theorem hasLists_of_inLine (h : ∀ p ∈ g.players, p.InLine) : g.HasLists := fun p hp =>
  (h p hp).imp fun _ hs => hs.1

theorem HasLists.player (h : g.HasLists) (hp : g.players[a]? = some p) : ∃ s : Seat, p.Holds s :=
  h p (List.mem_of_getElem? hp)

theorem HasLists.onSeat (h : g.HasLists) (a : Nat) (f : Seat → Seat) :
    (g.modifyPlayer a (Player.onSeat f)).HasLists := by
  obtain ⟨l, hl⟩ := Lays.of_players h
  exact (hl.onSeat a f).hasLists

theorem player_lineUp (g : Game) (seats : List Nat) (a : Nat) :
    (g.lineUp seats).players[a]? =
      g.players[a]?.map fun p => if a ∈ seats then p.linedUp else p := by
  simp [lineUp]

/-- Who is lined up has flags in line, if they are a list. -/
theorem HasLists.inLine_lineUp (h : g.HasLists) (ha : a ∈ seats) : (g.lineUp seats).InLine a := by
  intro q hq
  rw [player_lineUp] at hq
  obtain ⟨p, hp, rfl⟩ := Option.map_eq_some_iff.1 hq
  obtain ⟨s, hs⟩ := h.player hp
  rw [if_pos ha]
  exact ⟨s.lined, hs.linedUp, s.length_lined⟩

/-- Flags that are in line stay as they are. -/
theorem lineUp_of_inLine (h : ∀ a ∈ seats, g.InLine a) : g.lineUp seats = g := by
  have : (g.lineUp seats).players = g.players := by
    refine List.ext_getElem? fun a => ?_
    rw [player_lineUp]
    cases hp : g.players[a]? with
    | none => rfl
    | some p =>
      by_cases ha : a ∈ seats
      · simp [ha, Player.linedUp_of_inLine (h a ha p hp)]
      · simp [ha]
  exact congrArg (fun players => { g with players }) this

/-- A change that comes to the same before and after lining up. -/
theorem lineUp_onSeat {f : Seat → Seat} (hf : ∀ s : Seat, f s.lined = (f s).lined) (g : Game)
    (a : Nat) (seats : List Nat) :
    (g.lineUp seats).modifyPlayer a (Player.onSeat f) =
      (g.modifyPlayer a (Player.onSeat f)).lineUp seats := by
  have : ((g.lineUp seats).modifyPlayer a (Player.onSeat f)).players =
      ((g.modifyPlayer a (Player.onSeat f)).lineUp seats).players := by
    refine List.ext_getElem? fun n => ?_
    rw [player_lineUp, modifyPlayer, modifyPlayer, List.getElem?_modify, List.getElem?_modify,
      player_lineUp]
    cases g.players[n]? with
    | none => simp
    | some p =>
      by_cases hn : n ∈ seats
      · by_cases han : a = n
        · simp [hn, han, Player.onSeat_linedUp hf]
        · simp [hn, han]
      · simp [hn]
  exact congrArg (fun players => { g with players }) this

/-! ## Looking up players -/

@[simp] theorem seats_lineUp (g : Game) (seats : List Nat) : (g.lineUp seats).seats = g.seats := by
  simp [lineUp, Game.seats]

theorem currentSeat?_lineUp (g : Game) (seats : List Nat) :
    (g.lineUp seats).currentSeat? = g.currentSeat? := by
  simp only [currentSeat?, seatAt?, seats_lineUp]
  rfl

theorem nextSeat?_lineUp (g : Game) (seats : List Nat) :
    (g.lineUp seats).nextSeat? = g.nextSeat? := by
  simp only [nextSeat?, nextSeatValue?, seatAt?, seats_lineUp]
  rfl

theorem ids_lineUp (g : Game) (seats : List Nat) :
    (g.lineUp seats).players.map Player.id = g.players.map Player.id := by
  refine List.ext_getElem? fun a => ?_
  rw [List.getElem?_map, List.getElem?_map, player_lineUp]
  cases g.players[a]? with
  | none => rfl
  | some p => by_cases ha : a ∈ seats <;> simp [ha]

/-- A search for a player goes by the ids. -/
theorem findIdx?_lineUp (q : Value → Bool) (g : Game) (seats : List Nat) :
    ((g.lineUp seats).players.findIdx? fun p => q p.id) = g.players.findIdx? fun p => q p.id := by
  have hids (ps : List Player) : (ps.findIdx? fun p => q p.id) = (ps.map Player.id).findIdx? q := by
    rw [List.findIdx?_map]
    rfl
  rw [hids, hids, ids_lineUp]

theorem resolveSeat?_lineUp (g : Game) (seats : List Nat) (strict : Bool) (actor ref : Value) :
    (g.lineUp seats).resolveSeat? strict actor ref = g.resolveSeat? strict actor ref := by
  have hempty : (g.lineUp seats).players.isEmpty = g.players.isEmpty := by
    rw [← List.isEmpty_map (f := Player.id), ids_lineUp, List.isEmpty_map]
  have hnamed (id : Value) : (g.lineUp seats).seatNamed? id = g.seatNamed? id := by
    rw [seatNamed?, seatNamed?, seatOfId?, seatOfId?, findIdx?_lineUp (·.same id),
      findIdx?_lineUp (·.shown == id.shown)]
  simp only [resolveSeat?, currentSeat?_lineUp, nextSeat?_lineUp, hnamed, hempty]

end Game

/-- The run with players lined up. -/
def Run.lineUp (r : Run) (seats : List Nat) : Run := { r with game := r.game.lineUp seats }

namespace Play

variable {α β : Type} {seats : List Nat} {a : Nat}

/-! ## Changes to a seat -/

/-- The step changes what lies at a seat and reports something of the player there. Without a player
it fails. -/
structure ChangesSeat (a : Nat) (f : Seat → Seat) (events : Player → List Value)
    (x : Play Unit) : Prop where
  change : ∀ {r : Run} {p : Player} {s : Seat}, r.game.players[a]? = some p → p.Holds s →
    x r = .ok () { r with
      game := r.game.modifyPlayer a (Player.onSeat f), events := r.events ++ events p }
  missing : ∀ {r : Run}, r.game.players[a]? = none → x r = .error (.fault .outOfRange) r

theorem changesSeat_align (a : Nat) : ChangesSeat a Seat.lined (fun _ => []) (align a) where
  change hp hs := by rw [align_apply hp hs, List.append_nil]
  missing hp := bind_of_error (player_of_none hp)

theorem changesSeat_layCard (a n : Nat) (card : Value) :
    ChangesSeat a (Seat.laid n card) (fun _ => []) (layCard a n card) where
  change hp hs := by rw [layCard_apply hp hs, List.append_nil]
  missing hp := bind_of_error (player_of_none hp)

theorem changesSeat_markKnown (a n : Nat) (known : Bool) :
    ChangesSeat a (Seat.marked n known) (fun _ => []) (markKnown a n known) where
  change hp hs := by rw [markKnown_apply hp hs, List.append_nil]
  missing hp := bind_of_error (bind_of_error (player_of_none hp))

theorem changesSeat_revealHand (a : Nat) :
    ChangesSeat a Seat.shown (fun p => [handReveal p.id p.cards]) (revealHand a) where
  change hp hs := by rw [revealHand_apply hp hs, hs.cards]
  missing hp := bind_of_error (player_of_none hp)

/-! ## Before and after -/

/-- The end of a run with players lined up. -/
def lineUpEnd (seats : List Nat) :
    EStateM.Result Failure Run α → EStateM.Result Failure Run α
  | .ok v r => .ok v (r.lineUp seats)
  | .error e r => .error e (r.lineUp seats)

theorem gameOf_lineUpEnd (seats : List Nat) (res : EStateM.Result Failure Run α) :
    gameOf (lineUpEnd seats res) = (gameOf res).lineUp seats := by cases res <;> rfl

/-- In a game of lists it is the same to line up players before the step and after it, whether it
ends well or fails, and a game of lists is left. -/
def Indifferent (seats : List Nat) (x : Play α) : Prop :=
  ∀ r, r.game.HasLists →
    x (r.lineUp seats) = lineUpEnd seats (x r) ∧ (gameOf (x r)).HasLists

namespace Indifferent

theorem pure (v : α) : Indifferent seats (pure v : Play α) := fun _ h => ⟨rfl, h⟩

theorem fail (c : Cause) : Indifferent seats (fail c : Play α) := fun _ h => ⟨rfl, h⟩

theorem lift (x : Except Failure α) : Indifferent seats (lift x) := by
  intro r h
  cases x <;> exact ⟨rfl, h⟩

theorem orFault (x : Except Fault α) : Indifferent seats (orFault x) := .lift _

theorem emit (e : Value) : Indifferent seats (emit e) := fun _ h => ⟨rfl, h⟩

theorem bind {x : Play α} {f : α → Play β} (hx : Indifferent seats x)
    (hf : ∀ v, Indifferent seats (f v)) : Indifferent seats (x >>= f) := by
  intro r h
  obtain ⟨heq, hlists⟩ := hx r h
  rw [bind_apply, bind_apply, heq]
  cases hxr : x r with
  | ok v r' =>
    rw [hxr] at hlists
    exact hf v r' hlists
  | error e r' =>
    rw [hxr] at hlists
    exact ⟨rfl, hlists⟩

theorem ite {c : Prop} [Decidable c] {x y : Play α} (hx : Indifferent seats x)
    (hy : Indifferent seats y) : Indifferent seats (if c then x else y) := by split <;> assumption

theorem forM {xs : List α} {f : α → Play Unit} (hf : ∀ v, Indifferent seats (f v)) :
    Indifferent seats (xs.forM f) := by
  induction xs with
  | nil => exact .pure ()
  | cons v xs ih => exact .bind (hf v) fun _ => ih

/-- What is read of the game is the same in one that is lined up. -/
theorem game {f : Game → Play β} (hsame : ∀ g, f (g.lineUp seats) = f g)
    (hf : ∀ g, Indifferent seats (f g)) : Indifferent seats (game >>= f) := by
  intro r h
  rw [bind_of_ok (game_apply _), bind_of_ok (game_apply r)]
  have hread : f (r.lineUp seats).game = f r.game := hsame r.game
  rw [hread]
  exact hf r.game r h

/-- What is read of a player is the same if the player is lined up. -/
theorem player {f : Player → Play β} (hsame : ∀ p, f p.linedUp = f p)
    (hf : ∀ p, Indifferent seats (f p)) : Indifferent seats (player a >>= f) := by
  intro r h
  have hplayer : (r.lineUp seats).game.players[a]? =
      r.game.players[a]?.map fun p => if a ∈ seats then p.linedUp else p :=
    r.game.player_lineUp seats a
  cases hp : r.game.players[a]? with
  | none =>
    rw [hp] at hplayer
    rw [bind_of_error (player_of_none hplayer), bind_of_error (player_of_none hp)]
    exact ⟨rfl, h⟩
  | some p =>
    rw [hp] at hplayer
    rw [bind_of_ok (player_of hplayer), bind_of_ok (player_of hp)]
    have hread : f (if a ∈ seats then p.linedUp else p) = f p := by
      split
      · exact hsame p
      · rfl
    rw [hread]
    exact hf p r h

/-- A change to a seat that comes to the same before and after lining up, with reports of what is
read of cards and id. -/
theorem of_changes {x : Play Unit} {f : Seat → Seat} {events : Player → List Value}
    (hx : ChangesSeat a f events x) (hf : ∀ s : Seat, f s.lined = (f s).lined)
    (hevents : ∀ p, events p.linedUp = events p) : Indifferent seats x := by
  intro r h
  have hplayer : (r.lineUp seats).game.players[a]? =
      r.game.players[a]?.map fun p => if a ∈ seats then p.linedUp else p :=
    r.game.player_lineUp seats a
  cases hp : r.game.players[a]? with
  | none =>
    rw [hp] at hplayer
    rw [hx.missing hplayer, hx.missing hp]
    exact ⟨rfl, h⟩
  | some p =>
    rw [hp] at hplayer
    obtain ⟨s, hs⟩ := h.player hp
    have hchange : (r.lineUp seats).game.modifyPlayer a (Player.onSeat f) =
        (r.game.modifyPlayer a (Player.onSeat f)).lineUp seats := r.game.lineUp_onSeat hf a seats
    rw [hx.change hp hs]
    refine ⟨?_, h.onSeat a f⟩
    by_cases ha : a ∈ seats
    · rw [Option.map_some, if_pos ha] at hplayer
      rw [hx.change hplayer hs.linedUp, hevents, hchange]
      rfl
    · rw [Option.map_some, if_neg ha] at hplayer
      rw [hx.change hplayer hs, hchange]
      rfl

/-- An indifferent step keeps flags in line. -/
theorem inLine {x : Play α} (hx : Indifferent [a] x) {r : Run} (hr : r.game.HasLists)
    (h : r.game.InLine a) : (gameOf (x r)).InLine a := by
  obtain ⟨heq, hlists⟩ := hx r hr
  have hsame : r.lineUp [a] = r := by
    rw [Run.lineUp, Game.lineUp_of_inLine (by simpa using h)]
  have hleft : gameOf (x r) = (gameOf (x r)).lineUp [a] := by
    rw [hsame] at heq
    exact (congrArg gameOf heq).trans (gameOf_lineUpEnd [a] (x r))
  rw [hleft]
  exact hlists.inLine_lineUp (List.mem_singleton_self a)

/-! ## Hands -/

theorem align : Indifferent seats (align a) :=
  .of_changes (changesSeat_align a) (fun _ => rfl) fun _ => rfl

theorem layCard (n : Nat) (card : Value) : Indifferent seats (layCard a n card) :=
  .of_changes (changesSeat_layCard a n card) (Seat.laid_lined n card) fun _ => rfl

theorem markKnown (n : Nat) (known : Bool) : Indifferent seats (markKnown a n known) :=
  .of_changes (changesSeat_markKnown a n known) (Seat.marked_lined n known) fun _ => rfl

theorem revealHand : Indifferent seats (revealHand a) :=
  .of_changes (changesSeat_revealHand a) Seat.shown_lined fun p => by simp [Player.cards]

theorem idOf : Indifferent seats (idOf a) := .player (fun p => by simp) fun _ => .pure _

theorem cardAt (n : Nat) : Indifferent seats (cardAt a n) :=
  .player (fun p => by simp) fun _ => .orFault _

theorem requiredSlot (index : Value) : Indifferent seats (requiredSlot a index) := by
  refine .player (fun p => by simp) fun p => .bind (.orFault _) fun size => ?_
  split
  · exact .pure _
  · exact .fail _

theorem seatOf (b : Rulebook) (c : Circumstances) (ref : String) :
    Indifferent seats (seatOf b c ref) :=
  .game (fun g => by rw [g.resolveSeat?_lineUp]) fun _ => .lift _

theorem requiredIndex (c : Circumstances) (param : Option String) :
    Indifferent seats (requiredIndex c param) :=
  .bind (.orFault _) fun _ => .ite (.bind (.fail _) fun _ => .orFault _) (.orFault _)

theorem swapSides (b : Rulebook) (c : Circumstances) (fromPlayer toPlayer : String)
    (fromIndex toIndex : Option String) :
    Indifferent seats (swapSides b c fromPlayer toPlayer fromIndex toIndex) :=
  .bind (.seatOf b c _) fun _ => .bind (.seatOf b c _) fun _ => .bind (.requiredIndex c _) fun _ =>
    .bind (.requiredIndex c _) fun _ => .bind (.requiredSlot _) fun _ =>
      .bind (.requiredSlot _) fun _ => .pure _

theorem exchangeCards (s : SwapSides) (x y : Value) (known : Bool) :
    Indifferent seats (exchangeCards s x y known) :=
  .bind (.layCard _ _) fun _ => .bind (.layCard _ _) fun _ => .bind (.markKnown _ _) fun _ =>
    .markKnown _ _

theorem resolvePile (ref : Value) (param : Option String) (params forced : Value) :
    Indifferent seats (resolvePile ref param params forced) := by
  unfold Play.resolvePile
  refine .ite (.bind (.orFault _) fun _ => .pure _) ?_
  refine .ite (.bind (.orFault _) fun _ => .pure _) ?_
  split
  · refine .ite (.game (fun g => ?_) fun g => ?_) (.fail _)
    · rw [g.currentSeat?_lineUp, g.nextSeat?_lineUp]
    · exact .bind (.orFault _) fun _ => .bind (.orFault _) fun _ => .bind .align fun _ =>
        .bind (.orFault _) fun _ => .pure _
  · exact .fail _

theorem indexedSource (c : Circumstances) (source param : String) :
    Indifferent seats (indexedSource c source param) :=
  .bind (.orFault _) fun _ => .ite (.bind (.fail _) fun _ => .resolvePile _ _ _ _)
    (.resolvePile _ _ _ _)

end Indifferent

end Play

end CardRules
