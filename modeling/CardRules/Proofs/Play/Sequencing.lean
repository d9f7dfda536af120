import CardRules.Play.Execute

/-!
# Steps in sequence

How the steps of a run compose, once and for all steps:

* what each elementary step does (`game_apply`, `modifyGame_apply`, ...) and how a sequence ends
  (`bind_ok`, `bind_error`);
* framing (`Framed`): what a step does depends on the game alone, and what it reports only
  follows the events and texts of the run so far. Every operation is framed (`framed_perform`), and
  so are lists of effects (`framed_effects`).
-/

namespace CardRules

namespace Run

/-- A run carried on by another one that started on the game it left. -/
def join (r s : Run) : Run where
  game := s.game
  events := r.events ++ s.events
  sink := r.sink ++ s.sink

/-- How a run ends that is carried on by one with the given end. -/
def joinResult {α : Type} (r : Run) :
    EStateM.Result Failure Run α → EStateM.Result Failure Run α
  | .ok a s => .ok a (r.join s)
  | .error e s => .error e (r.join s)

@[simp] theorem join_game (r s : Run) : (r.join s).game = s.game := rfl

@[simp] theorem join_events (r s : Run) : (r.join s).events = r.events ++ s.events := rfl

@[simp] theorem join_fresh (r : Run) : r.join { game := r.game } = r := by simp [join]

@[simp] theorem fresh_join (g : Game) (r : Run) : Run.join { game := g } r = r := by simp [join]

theorem join_assoc (r s t : Run) : (r.join s).join t = r.join (s.join t) := by simp [join]

@[simp] theorem fresh_joinResult {α : Type} (g : Game) (res : EStateM.Result Failure Run α) :
    Run.joinResult { game := g } res = res := by cases res <;> simp [joinResult]

theorem joinResult_assoc {α : Type} (r s : Run) (res : EStateM.Result Failure Run α) :
    (r.join s).joinResult res = r.joinResult (s.joinResult res) := by
  cases res <;> simp [joinResult, join_assoc]

end Run

namespace Play

variable {α β : Type}

/-! ## Elementary steps -/

theorem bind_apply {σ : Type} (x : EStateM Failure σ α) (f : α → EStateM Failure σ β) (r : σ) :
    (x >>= f) r = match x r with
      | .ok a r' => f a r'
      | .error e r' => .error e r' := by
  simp only [bind, EStateM.bind]
  cases x r <;> rfl

@[simp] theorem pure_apply (a : α) (r : Run) : (pure a : Play α) r = .ok a r := rfl

@[simp] theorem throw_apply (e : Failure) (r : Run) : (throw e : Play α) r = .error e r := rfl

@[simp] theorem game_apply (r : Run) : game r = .ok r.game r := rfl

@[simp] theorem modifyGame_apply (f : Game → Game) (r : Run) :
    modifyGame f r = .ok () { r with game := f r.game } := rfl

@[simp] theorem modifyPlayer_apply (seat : Nat) (f : Player → Player) (r : Run) :
    modifyPlayer seat f r = .ok () { r with game := r.game.modifyPlayer seat f } := rfl

@[simp] theorem emit_apply (e : Value) (r : Run) :
    emit e r = .ok () { r with events := r.events ++ [e] } := rfl

@[simp] theorem tell_apply (s : String) (r : Run) :
    tell s r = .ok () { r with sink := r.sink ++ [s] } := rfl

@[simp] theorem lift_ok (a : α) (r : Run) : lift (.ok a) r = .ok a r := rfl

@[simp] theorem lift_error (e : Failure) (r : Run) :
    lift (.error e : Except Failure α) r = .error e r := rfl

@[simp] theorem orFault_ok (a : α) (r : Run) : orFault (.ok a) r = .ok a r := rfl

@[simp] theorem orFault_error (f : Fault) (r : Run) :
    orFault (.error f : Except Fault α) r = .error (.fault f) r := rfl

theorem bind_ok {x : Play α} {f : α → Play β} {r r'' : Run} {b : β}
    (h : (x >>= f) r = .ok b r'') : ∃ a r', x r = .ok a r' ∧ f a r' = .ok b r'' := by
  rw [bind_apply] at h
  cases hx : x r with
  | ok a r' => rw [hx] at h; exact ⟨a, r', rfl, h⟩
  | error e r' => rw [hx] at h; cases h

theorem bind_error {x : Play α} {f : α → Play β} {r r'' : Run} {e : Failure}
    (h : (x >>= f) r = .error e r'') :
    x r = .error e r'' ∨ ∃ a r', x r = .ok a r' ∧ f a r' = .error e r'' := by
  rw [bind_apply] at h
  cases hx : x r with
  | ok a r' => rw [hx] at h; exact .inr ⟨a, r', rfl, h⟩
  | error e' r' => rw [hx] at h; cases h; exact .inl rfl

theorem bind_of_ok {x : Play α} {f : α → Play β} {r r' : Run} {a : α} (h : x r = .ok a r') :
    (x >>= f) r = f a r' := by rw [bind_apply, h]

theorem bind_of_error {x : Play α} {f : α → Play β} {r r' : Run} {e : Failure}
    (h : x r = .error e r') : (x >>= f) r = .error e r' := by rw [bind_apply, h]

theorem player_of {r : Run} {seat : Nat} {p : Player} (h : r.game.players[seat]? = some p) :
    player seat r = .ok p r := by
  simp [player, bind_apply, Game.player?, h]

theorem player_of_none {r : Run} {seat : Nat} (h : r.game.players[seat]? = none) :
    player seat r = .error (.fault .outOfRange) r := by
  simp [player, bind_apply, Game.player?, h]

theorem modifyPlayer_modifyPlayer (g : Game) (a : Nat) (f f' : Player → Player) :
    (g.modifyPlayer a f).modifyPlayer a f' = g.modifyPlayer a (f' ∘ f) := by
  simp [Game.modifyPlayer, List.modify_modify_eq]

/-- A change to a player is one to the player who is there. -/
theorem modifyPlayer_congr {g : Game} {a : Nat} {p : Player} (hp : g.players[a]? = some p)
    {f f' : Player → Player} (h : f p = f' p) : g.modifyPlayer a f = g.modifyPlayer a f' := by
  have : g.players.modify a f = g.players.modify a f' := by
    refine List.ext_getElem? fun n => ?_
    rw [List.getElem?_modify, List.getElem?_modify]
    by_cases han : a = n
    · subst han
      simp [hp, h]
    · simp [han]
  simp [Game.modifyPlayer, this]

theorem player_modifyPlayer {g : Game} {a : Nat} {p : Player} (h : g.players[a]? = some p)
    (f : Player → Player) : (g.modifyPlayer a f).players[a]? = some (f p) := by
  simp [Game.modifyPlayer, h]

theorem dropFlag_of {r : Run} {a n : Nat} {p : Player} (hp : r.game.players[a]? = some p)
    {flags : List Value} (hf : p.known = .list flags) (hn : n < flags.length) :
    dropFlag a n r = .ok () { r with
      game := r.game.modifyPlayer a fun p => { p with known := .list (flags.eraseIdx n) } } := by
  rw [dropFlag, bind_of_ok (player_of hp), hf, withoutFlag?, if_pos hn, bind_of_ok (orFault_ok _ r),
    modifyPlayer_apply]

/-! ## Framing -/

/-- What a step does depends on the game alone, and what it reports follows what was reported. -/
def Framed (x : Play α) : Prop := ∀ r, x r = r.joinResult (x { game := r.game })

theorem framed_pure (a : α) : Framed (pure a : Play α) := fun r => by simp [Run.joinResult]

theorem framed_throw (e : Failure) : Framed (throw e : Play α) := fun r => by
  simp [Run.joinResult]

theorem framed_game : Framed game := fun r => by simp [Run.joinResult]

theorem framed_modifyGame (f : Game → Game) : Framed (modifyGame f) := fun r => by
  simp [Run.joinResult, Run.join]

theorem framed_modifyPlayer (seat : Nat) (f : Player → Player) : Framed (modifyPlayer seat f) :=
  framed_modifyGame _

theorem framed_emit (e : Value) : Framed (emit e) := fun r => by simp [Run.joinResult, Run.join]

theorem framed_tell (s : String) : Framed (tell s) := fun r => by simp [Run.joinResult, Run.join]

theorem framed_lift (x : Except Failure α) : Framed (lift x) := fun r => by
  cases x <;> simp [Run.joinResult]

theorem framed_orFault (x : Except Fault α) : Framed (orFault x) := framed_lift _

theorem framed_fail (c : Cause) : Framed (fail c : Play α) := framed_throw _

theorem framed_bind {x : Play α} {f : α → Play β} (hx : Framed x) (hf : ∀ a, Framed (f a)) :
    Framed (x >>= f) := by
  intro r
  rw [bind_apply, bind_apply, hx r]
  cases x { game := r.game } with
  | error e s => rfl
  | ok a s =>
    simp only [Run.joinResult]
    rw [hf a (r.join s), hf a s, Run.join_game]
    cases f a { game := s.game } <;> simp [Run.joinResult, Run.join_assoc]

theorem framed_ite {p : Prop} [Decidable p] {x y : Play α} (hx : Framed x) (hy : Framed y) :
    Framed (if p then x else y) := by split <;> assumption

theorem framed_forM {xs : List α} {f : α → Play Unit} (hf : ∀ a, Framed (f a)) :
    Framed (xs.forM f) := by
  induction xs with
  | nil => exact framed_pure _
  | cons a xs ih => exact framed_bind (hf a) fun _ => ih

theorem framed_mapRule {x : Play α} (f : RuleError → RuleError) (hx : Framed x) :
    Framed (mapRule f x) := by
  intro r
  simp only [mapRule]
  rw [hx r]
  cases x { game := r.game } <;> rfl

/-! ### Piles -/

theorem framed_player (seat : Nat) : Framed (player seat) :=
  framed_bind framed_game fun _ => framed_orFault _

theorem framed_align (seat : Nat) : Framed (align seat) :=
  framed_bind (framed_player seat) fun _ => framed_bind (framed_orFault _) fun _ =>
    framed_modifyPlayer _ _

theorem framed_resolvePile (ref : Value) (param : Option String) (params forced : Value) :
    Framed (resolvePile ref param params forced) := by
  unfold resolvePile
  refine framed_ite (framed_bind (framed_orFault _) fun _ => framed_pure _) ?_
  refine framed_ite (framed_bind (framed_orFault _) fun _ => framed_pure _) ?_
  split
  · refine framed_ite ?_ (framed_fail _)
    refine framed_bind framed_game fun g => framed_bind (framed_orFault _) fun seat => ?_
    refine framed_bind (framed_orFault _) fun index => framed_bind (framed_align seat) fun _ => ?_
    exact framed_bind (framed_orFault _) fun _ => framed_pure _
  · exact framed_fail _

theorem framed_takeAt (xs : List Value) (ref : PileRef) (store : List Value → Game → Game) :
    Framed (takeAt xs ref store) := by
  unfold takeAt
  split
  · exact framed_pure _
  · split
    · exact framed_pure _
    · exact framed_bind (framed_modifyGame _) fun _ => framed_pure _

theorem framed_dropFlag (seat n : Nat) : Framed (dropFlag seat n) :=
  framed_bind (framed_player seat) fun _ => framed_bind (framed_orFault _) fun _ =>
    framed_modifyPlayer _ _

theorem framed_takeFromHand (seat : Nat) (ref : PileRef) : Framed (takeFromHand seat ref) := by
  unfold takeFromHand
  refine framed_bind (framed_player seat) fun p => framed_ite (framed_pure _) ?_
  refine framed_bind (framed_orFault _) fun size => ?_
  split
  · exact framed_pure _
  · split
    · split
      · exact framed_pure _
      · exact framed_bind (framed_modifyPlayer _ _) fun _ =>
          framed_bind (framed_dropFlag _ _) fun _ => framed_pure _
    · exact framed_throw _

theorem framed_take (ref : PileRef) : Framed (take ref) := by
  unfold take
  split
  · exact framed_bind framed_game fun _ => framed_takeAt _ _ _
  · exact framed_bind framed_game fun _ => framed_takeAt _ _ _
  · exact framed_takeFromHand _ _

/-- The second half of what `put` does to a hand: the new card is not known. -/
def addFlag (seat : Nat) : Play Unit := do
  match (← player seat).known with
  | .list ks => modifyPlayer seat fun p => { p with known := .list (ks ++ [.bool false]) }
  | _ => throw (.fault .missingMember)

theorem framed_addFlag (seat : Nat) : Framed (addFlag seat) := by
  refine framed_bind (framed_player seat) fun p => ?_
  split
  · exact framed_modifyPlayer _ _
  · exact framed_throw _

theorem framed_put (ref : PileRef) (card : Value) : Framed (put ref card) := by
  unfold put
  split
  · exact framed_modifyGame _
  · exact framed_modifyGame _
  · rename_i seat _
    refine framed_bind (framed_player seat) fun p => ?_
    dsimp only
    split
    · exact framed_bind (framed_modifyPlayer _ _) fun _ => framed_addFlag seat
    · exact framed_bind (framed_throw _) fun _ => framed_addFlag seat

theorem framed_moveOne (source target : PileRef) : Framed (moveOne source target) :=
  framed_bind (framed_take source) fun _ => framed_ite (framed_put _ _) (framed_pure _)

theorem framed_moveMany (source target : PileRef) : ∀ n, Framed (moveMany source target n)
  | 0 => framed_pure _
  | n + 1 => framed_bind (framed_moveOne source target) fun _ => framed_moveMany source target n

/-! ### Operations -/

theorem framed_requiredIndex (c : Circumstances) (param : Option String) :
    Framed (requiredIndex c param) := by
  refine framed_bind (framed_orFault _) fun index => ?_
  exact framed_ite (framed_bind (framed_fail _) fun _ => framed_orFault _) (framed_orFault _)

theorem framed_requiredSlot (seat : Nat) (index : Value) : Framed (requiredSlot seat index) := by
  refine framed_bind (framed_player seat) fun p => framed_bind (framed_orFault _) fun size => ?_
  split
  · exact framed_pure _
  · exact framed_fail _

theorem framed_cardAt (seat n : Nat) : Framed (cardAt seat n) :=
  framed_bind (framed_player seat) fun _ => framed_orFault _

theorem framed_layCard (seat n : Nat) (card : Value) : Framed (layCard seat n card) := by
  refine framed_bind (framed_player seat) fun p => ?_
  split
  · exact framed_modifyPlayer _ _
  · exact framed_throw _

theorem framed_markKnown (seat n : Nat) (known : Bool) : Framed (markKnown seat n known) :=
  framed_bind (framed_align seat) fun _ => framed_bind (framed_player seat) fun _ =>
    framed_bind (framed_orFault _) fun _ => framed_modifyPlayer _ _

theorem framed_idOf (seat : Nat) : Framed (idOf seat) :=
  framed_bind (framed_player seat) fun _ => framed_pure _

theorem framed_seatOf (b : Rulebook) (c : Circumstances) (ref : String) :
    Framed (seatOf b c ref) :=
  framed_bind framed_game fun _ => framed_lift _

theorem framed_moveCard (c : Circumstances) (source target : String) (count : Int)
    (param : Option String) : Framed (moveCard c source target count param) :=
  framed_bind (framed_resolvePile _ _ _ _) fun _ =>
    framed_bind (framed_resolvePile _ _ _ _) fun _ => framed_moveMany _ _ _

theorem framed_moveCardByIndex (c : Circumstances) (source target param : String) :
    Framed (moveCardByIndex c source target param) := by
  refine framed_bind (framed_orFault _) fun index => ?_
  have hmove : Framed (do
      let source ← resolvePile (.text source) none .null index
      let target ← resolvePile (.text target) none .null .null
      moveOne source target : Play Unit) :=
    framed_bind (framed_resolvePile _ _ _ _) fun _ =>
      framed_bind (framed_resolvePile _ _ _ _) fun _ => framed_moveOne _ _
  exact framed_ite (framed_bind (framed_fail _) fun _ => hmove) hmove

theorem framed_swapSides (b : Rulebook) (c : Circumstances) (fromPlayer toPlayer : String)
    (fromIndex toIndex : Option String) :
    Framed (swapSides b c fromPlayer toPlayer fromIndex toIndex) := by
  refine framed_bind (framed_seatOf b c _) fun _ => framed_bind (framed_seatOf b c _) fun _ => ?_
  refine framed_bind (framed_requiredIndex c _) fun _ => ?_
  refine framed_bind (framed_requiredIndex c _) fun _ => ?_
  refine framed_bind (framed_requiredSlot _ _) fun _ => ?_
  exact framed_bind (framed_requiredSlot _ _) fun _ => framed_pure _

theorem framed_exchangeCards (s : SwapSides) (fromCard toCard : Value) (known : Bool) :
    Framed (exchangeCards s fromCard toCard known) :=
  framed_bind (framed_layCard _ _ _) fun _ => framed_bind (framed_layCard _ _ _) fun _ =>
    framed_bind (framed_markKnown _ _ _) fun _ => framed_markKnown _ _ _

theorem framed_revealHand (seat : Nat) : Framed (revealHand seat) :=
  framed_bind (framed_player seat) fun _ => framed_bind (framed_orFault _) fun _ =>
    framed_bind (framed_modifyPlayer _ _) fun _ => framed_bind (framed_orFault _) fun _ =>
      framed_emit _

theorem framed_advanceTurnOrder (phase : Option String) : Framed (advanceTurnOrder phase) := by
  refine framed_bind framed_game fun g => ?_
  refine framed_ite ?_ (framed_modifyGame _)
  refine framed_bind (framed_orFault _) fun seat => ?_
  exact framed_bind (framed_modifyGame _) fun _ => framed_modifyGame _

theorem framed_scoreSeat (d : Document) (seat : Nat) : Framed (scoreSeat d seat) := by
  refine framed_bind (framed_player seat) fun p => framed_bind (framed_orFault _) fun score => ?_
  dsimp only
  split
  · exact framed_throw _
  · exact framed_bind (framed_modifyPlayer _ _) fun _ => framed_bind framed_game fun _ =>
      framed_emit _

theorem framed_announceScores : Framed announceScores :=
  framed_bind framed_game fun _ => framed_bind (framed_orFault _) fun _ => framed_pure _

theorem framed_decideMatch (limit : Number) : Framed (decideMatch limit) := by
  refine framed_bind framed_game fun g => ?_
  split
  · exact framed_pure _
  · exact framed_modifyGame _

theorem framed_scoreRound (d : Document) : Framed (scoreRound d) := by
  refine framed_bind framed_game fun g => ?_
  split
  · exact framed_fail _
  · refine framed_bind (framed_forM (framed_scoreSeat d)) fun _ => ?_
    refine framed_bind framed_announceScores fun _ => ?_
    split
    · exact framed_pure _
    · exact framed_decideMatch _

theorem framed_log (c : Circumstances) (template : String) : Framed (log c template) := by
  refine framed_bind framed_game fun g => framed_bind (framed_orFault _) fun name => ?_
  split
  · exact framed_bind (framed_modifyGame _) fun _ => framed_tell _
  · exact framed_throw _

theorem framed_perform (b : Rulebook) (c : Circumstances) (o : Operation) :
    Framed (perform b c o) := by
  cases o with
  | moveCard => exact framed_moveCard _ _ _ _ _
  | moveCardByIndex => exact framed_moveCardByIndex _ _ _ _
  | setFlag =>
    exact framed_bind framed_game fun _ => framed_bind (framed_lift _) fun _ =>
      framed_modifyGame _
  | advanceTurnOrder => exact framed_advanceTurnOrder _
  | resetTurnFlags => unfold perform resetTurnFlags; exact framed_modifyGame _
  | setPhase => unfold perform setPhase; exact framed_modifyGame _
  | log => exact framed_log _ _
  | revealAllHands => exact framed_bind framed_game fun _ => framed_forM framed_revealHand
  | scoreRound => exact framed_scoreRound _
  | swapCards =>
    refine framed_bind (framed_swapSides b c _ _ _ _) fun s => ?_
    refine framed_bind (framed_cardAt _ _) fun _ => framed_bind (framed_cardAt _ _) fun _ => ?_
    refine framed_bind (framed_exchangeCards _ _ _ _) fun _ => framed_ite ?_ (framed_pure _)
    exact framed_bind (framed_idOf _) fun _ => framed_bind (framed_emit _) fun _ =>
      framed_bind (framed_idOf _) fun _ => framed_emit _
  | swapCardsWithPeek =>
    refine framed_bind (framed_swapSides b c _ _ _ _) fun s => ?_
    refine framed_bind (framed_cardAt _ _) fun _ => framed_bind (framed_cardAt _ _) fun _ => ?_
    exact framed_bind (framed_idOf _) fun _ => framed_bind (framed_emit _) fun _ =>
      framed_bind (framed_idOf _) fun _ => framed_bind (framed_emit _) fun _ =>
        framed_exchangeCards _ _ _ _
  | revealCard =>
    refine framed_bind (framed_seatOf b c _) fun _ => framed_bind (framed_orFault _) fun _ => ?_
    refine framed_bind (framed_requiredSlot _ _) fun _ => ?_
    exact framed_bind (framed_markKnown _ _ _) fun _ => framed_bind (framed_idOf _) fun _ =>
      framed_bind (framed_cardAt _ _) fun _ => framed_emit _

end Play

end CardRules
