import CardRules.Proofs.Play.Sequencing

/-!
# Steps that only read

A step *reads* in a run if it leaves the run as it is, whether it ends well (`ReadsAt.pure`, ...)
or fails. Looking up players, parameters and places in hands reads; `swapSides_ok` and
`requiredSlot_ok` say what is known of the places found.
-/

namespace CardRules

/-- A place in a player's hand. -/
def Game.HasPlace (g : Game) (a n : Nat) : Prop :=
  ∃ p size, g.players[a]? = some p ∧ p.hand.size? = .ok size ∧ n < size

namespace Play

variable {α β : Type} {r r' : Run}

/-- The step leaves this run as it is. -/
def ReadsAt (r : Run) (x : Play α) : Prop := (∃ a, x r = .ok a r) ∨ ∃ e, x r = .error e r

namespace ReadsAt

theorem pure (a : α) : ReadsAt r (pure a : Play α) := .inl ⟨a, rfl⟩

theorem throw (e : Failure) : ReadsAt r (throw e : Play α) := .inr ⟨e, rfl⟩

theorem lift (x : Except Failure α) : ReadsAt r (lift x) := by
  cases x with
  | ok a => exact .pure a
  | error e => exact .throw e

theorem orFault (x : Except Fault α) : ReadsAt r (orFault x) := .lift _

theorem fail (c : Cause) : ReadsAt r (fail c : Play α) := .throw _

theorem game : ReadsAt r game := .inl ⟨_, rfl⟩

theorem bind {x : Play α} {f : α → Play β} (hx : ReadsAt r x) (hf : ∀ a, ReadsAt r (f a)) :
    ReadsAt r (x >>= f) := by
  rcases hx with ⟨a, hx⟩ | ⟨e, hx⟩
  · simp only [ReadsAt, bind_of_ok hx]
    exact hf a
  · exact .inr ⟨e, bind_of_error hx⟩

theorem ite {p : Prop} [Decidable p] {x y : Play α} (hx : ReadsAt r x) (hy : ReadsAt r y) :
    ReadsAt r (if p then x else y) := by split <;> assumption

theorem of_ok {x : Play α} {a : α} (hx : ReadsAt r x) (h : x r = .ok a r') : r' = r := by
  rcases hx with ⟨a', hx⟩ | ⟨e, hx⟩
  · rw [hx] at h
    cases h
    rfl
  · rw [hx] at h
    cases h

theorem of_error {x : Play α} {e : Failure} (hx : ReadsAt r x) (h : x r = .error e r') :
    r' = r := by
  rcases hx with ⟨a', hx⟩ | ⟨e', hx⟩
  · rw [hx] at h
    cases h
  · rw [hx] at h
    cases h
    rfl

theorem player (a : Nat) : ReadsAt r (player a) := .bind .game fun _ => .orFault _

theorem idOf (a : Nat) : ReadsAt r (idOf a) := .bind (.player a) fun _ => .pure _

theorem cardAt (a n : Nat) : ReadsAt r (cardAt a n) := .bind (.player a) fun _ => .orFault _

theorem seatOf (b : Rulebook) (c : Circumstances) (ref : String) : ReadsAt r (seatOf b c ref) :=
  .bind .game fun _ => .lift _

theorem requiredIndex (c : Circumstances) (param : Option String) :
    ReadsAt r (requiredIndex c param) :=
  .bind (.orFault _) fun _ => .ite (.bind (.fail _) fun _ => .orFault _) (.orFault _)

theorem requiredSlot (a : Nat) (index : Value) : ReadsAt r (requiredSlot a index) := by
  refine .bind (.player a) fun p => .bind (.orFault _) fun size => ?_
  split
  · exact .pure _
  · exact .fail _

theorem swapSides (b : Rulebook) (c : Circumstances) (fromPlayer toPlayer : String)
    (fromIndex toIndex : Option String) :
    ReadsAt r (swapSides b c fromPlayer toPlayer fromIndex toIndex) :=
  .bind (.seatOf b c _) fun _ => .bind (.seatOf b c _) fun _ => .bind (.requiredIndex c _) fun _ =>
    .bind (.requiredIndex c _) fun _ => .bind (.requiredSlot _ _) fun _ =>
      .bind (.requiredSlot _ _) fun _ => .pure _

theorem announceScores : ReadsAt r announceScores :=
  .bind .game fun _ => .bind (.orFault _) fun _ => .pure _

end ReadsAt

/-! ## Places found -/

theorem player_ok {a : Nat} {p : Player} (h : player a r = .ok p r') :
    r' = r ∧ r.game.players[a]? = some p := by
  refine ⟨(ReadsAt.player a).of_ok h, ?_⟩
  cases hp : r.game.players[a]? with
  | none => simp [player, bind_apply, Game.player?, hp] at h
  | some q =>
    rw [player_of hp] at h
    cases h
    rfl

theorem lift_ok_inv {x : Except Failure α} {a : α} (h : lift x r = .ok a r') :
    r' = r ∧ x = .ok a := by
  cases x with
  | ok a' => cases h; exact ⟨rfl, rfl⟩
  | error f => cases h

theorem orFault_ok_inv {x : Except Fault α} {a : α} (h : orFault x r = .ok a r') :
    r' = r ∧ x = .ok a := by
  cases x with
  | ok a' => cases h; exact ⟨rfl, rfl⟩
  | error f => cases h

theorem slot?_lt {index : Value} {size n : Nat} (h : slot? index size = some n) : n < size := by
  unfold slot? at h
  split at h
  · split at h
    · cases h
      omega
    · cases h
  · cases h

theorem requiredSlot_ok {a n : Nat} {index : Value} (h : requiredSlot a index r = .ok n r') :
    r' = r ∧ r.game.HasPlace a n := by
  refine ⟨(ReadsAt.requiredSlot a index).of_ok h, ?_⟩
  unfold requiredSlot at h
  obtain ⟨p, r₁, h₁, k₁⟩ := bind_ok h
  obtain ⟨rfl, hp⟩ := player_ok h₁
  obtain ⟨size, r₂, h₂, k₂⟩ := bind_ok k₁
  obtain ⟨rfl, hsize⟩ := orFault_ok_inv h₂
  cases hn : slot? index size with
  | none =>
    rw [hn] at k₂
    cases k₂
  | some m =>
    rw [hn] at k₂
    cases k₂
    exact ⟨p, size, hp, hsize, slot?_lt hn⟩

theorem seatOf_ok {b : Rulebook} {c : Circumstances} {ref : String} {a : Nat}
    (h : seatOf b c ref r = .ok a r') :
    r' = r ∧ r.game.resolveSeat? b.strict c.playerId (.text ref) = .ok a := by
  rw [seatOf, bind_of_ok (game_apply r)] at h
  cases ha : r.game.resolveSeat? b.strict c.playerId (.text ref) with
  | error e =>
    rw [ha] at h
    cases h
  | ok a' =>
    rw [ha] at h
    cases h
    exact ⟨rfl, rfl⟩

/-- The sides of a swap are places of the players that the references mean. -/
theorem swapSides_ok {b : Rulebook} {c : Circumstances} {fromPlayer toPlayer : String}
    {fromIndex toIndex : Option String} {s : SwapSides}
    (h : swapSides b c fromPlayer toPlayer fromIndex toIndex r = .ok s r') :
    r' = r ∧ r.game.resolveSeat? b.strict c.playerId (.text fromPlayer) = .ok s.fromSeat ∧
      r.game.resolveSeat? b.strict c.playerId (.text toPlayer) = .ok s.toSeat ∧
      r.game.HasPlace s.fromSeat s.fromSlot ∧ r.game.HasPlace s.toSeat s.toSlot := by
  refine ⟨(ReadsAt.swapSides b c _ _ _ _).of_ok h, ?_⟩
  unfold swapSides at h
  obtain ⟨fromSeat, r₁, h₁, k₁⟩ := bind_ok h
  obtain ⟨rfl, hfromSeat⟩ := seatOf_ok h₁
  obtain ⟨toSeat, r₂, h₂, k₂⟩ := bind_ok k₁
  obtain ⟨rfl, htoSeat⟩ := seatOf_ok h₂
  obtain ⟨i, r₃, h₃, k₃⟩ := bind_ok k₂
  obtain rfl := (ReadsAt.requiredIndex c _).of_ok h₃
  obtain ⟨j, r₄, h₄, k₄⟩ := bind_ok k₃
  obtain rfl := (ReadsAt.requiredIndex c _).of_ok h₄
  obtain ⟨fromSlot, r₅, h₅, k₅⟩ := bind_ok k₄
  obtain ⟨rfl, hfrom⟩ := requiredSlot_ok h₅
  obtain ⟨toSlot, r₆, h₆, k₆⟩ := bind_ok k₅
  obtain ⟨rfl, hto⟩ := requiredSlot_ok h₆
  cases k₆
  exact ⟨hfromSeat, htoSeat, hfrom, hto⟩

/-! ## Seats found -/

theorem seatAt?_ok {g : Game} {v : Value} {a : Nat} (h : g.seatAt? v = .ok a) :
    a < g.players.length := by
  unfold Game.seatAt? Game.seats at h
  split at h
  · split at h
    · split at h
      · cases h
        omega
      · cases h
    · split at h
      · cases h
        omega
      · cases h
  · cases h

theorem currentSeat?_ok {g : Game} {a : Nat} (h : g.currentSeat? = .ok a) : a < g.players.length :=
  seatAt?_ok h

theorem nextSeat?_ok {g : Game} {a : Nat} (h : g.nextSeat? = .ok a) : a < g.players.length := by
  unfold Game.nextSeat? at h
  cases hv : g.nextSeatValue? with
  | error f => rw [hv] at h; cases h
  | ok v => rw [hv] at h; exact seatAt?_ok h

theorem seatNamed?_lt {g : Game} {id : Value} {a : Nat} (h : g.seatNamed? id = some a) :
    a < g.players.length := by
  unfold Game.seatNamed? Game.seatOfId? at h
  split at h
  · rename_i b hb
    cases h
    exact (List.findIdx?_eq_some_iff_findIdx_eq.1 hb).1
  · split at h
    · cases h
    · exact (List.findIdx?_eq_some_iff_findIdx_eq.1 h).1

/-- A reference to a player means one of the game. -/
theorem resolveSeat?_ok {g : Game} {strict : Bool} {actor ref : Value} {a : Nat}
    (h : g.resolveSeat? strict actor ref = .ok a) : a < g.players.length := by
  have hseat {seat? : Except Fault Nat} (h : CardRules.orFault seat? = .ok a) : seat? = .ok a := by
    cases seat? with
    | error f => cases h
    | ok b => cases h; rfl
  unfold Game.resolveSeat? at h
  split at h
  · exact currentSeat?_ok (hseat h)
  split at h
  · exact nextSeat?_ok (hseat h)
  dsimp only at h
  cases hnamed : g.seatNamed? (if ref = .null then actor else ref) with
  | some b =>
    rw [hnamed] at h
    cases h
    exact seatNamed?_lt hnamed
  | none =>
    rw [hnamed] at h
    dsimp only at h
    split at h
    · cases h
    · rename_i hsome
      cases h
      exact List.length_pos_iff.2 fun hnil => hsome (by simp [hnil])

end Play

/-! ## Records found -/

namespace Game

/-- The references that mean a record. -/
inductive RefersTo (g : Game) : Value → Target → Prop
  | turn : RefersTo g (.text "turn") .turn
  | round : RefersTo g (.text "round") .round
  | contest : RefersTo g (.text "match") .contest
  | current {ref : Value} {a : Nat}
      (href : ref = .text currentPlayerRef ∨ ref = .text "turn.currentPlayer")
      (ha : g.currentSeat? = .ok a) : RefersTo g ref (.player a)
  | next {a : Nat} (ha : g.nextSeat? = .ok a) : RefersTo g (.text nextPlayerRef) (.player a)

theorem resolveTarget?_ok {g : Game} {ref : Value} {t : Target}
    (h : g.resolveTarget? ref = .ok t) : g.RefersTo ref t := by
  have hseat {seat? : Except Fault Nat} (h : (orFault seat?).map Target.player = .ok t) :
      ∃ a, seat? = .ok a ∧ t = .player a := by
    cases seat? <;> cases h
    exact ⟨_, rfl, rfl⟩
  unfold resolveTarget? at h
  split at h
  · cases h
    subst ref
    exact .turn
  split at h
  · cases h
    subst ref
    exact .round
  split at h
  · cases h
    subst ref
    exact .contest
  split at h
  · rename_i href
    obtain ⟨a, ha, rfl⟩ := hseat h
    exact .current href ha
  split at h
  · obtain ⟨a, ha, rfl⟩ := hseat h
    subst ref
    exact .next ha
  · cases h

end Game

end CardRules
