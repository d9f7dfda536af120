import CardRules.Proofs.Play.Flags
import CardRules.Proofs.Play.Footprint
import CardRules.Proofs.Play.Reading

/-!
# Flags in line

In a game whose players each have a flag for every card of the hand (`Game.Parallel`), looking up
a pile changes nothing (`ReadsAt.resolvePile`), and an operation that completes keeps the flags in
line (`perform_parallel`).
-/

namespace CardRules

/-- The player has a list of flags, as many as there are cards in the hand. -/
def Player.Parallel (p : Player) : Prop :=
  ∃ flags, p.known = .list flags ∧ p.hand.size? = .ok flags.length

/-- All players' flags are in line. -/
def Game.Parallel (g : Game) : Prop := ∀ p ∈ g.players, p.Parallel

theorem Game.Parallel.player {g : Game} (h : g.Parallel) {a : Nat} {p : Player}
    (hp : g.players[a]? = some p) : p.Parallel := h p (List.mem_of_getElem? hp)

theorem Game.Parallel.modifyPlayer {g : Game} (h : g.Parallel) {a : Nat} {f : Player → Player}
    (hf : ∀ p, g.players[a]? = some p → (f p).Parallel) : (g.modifyPlayer a f).Parallel := by
  intro q hq
  obtain ⟨n, hn⟩ := List.mem_iff_getElem?.1 hq
  rw [Game.modifyPlayer, List.getElem?_modify] at hn
  obtain ⟨p, hp, rfl⟩ := Option.map_eq_some_iff.1 hn
  split
  · rename_i han
    exact hf p (han ▸ hp)
  · exact h.player hp

theorem Game.Parallel.modifyPlayer_at {g : Game} (h : g.Parallel) {a : Nat} {p : Player}
    (hp : g.players[a]? = some p) {f : Player → Player} (hf : (f p).Parallel) :
    (g.modifyPlayer a f).Parallel := by
  refine h.modifyPlayer fun q hq => ?_
  obtain rfl : p = q := Option.some.inj (hp.symm.trans hq)
  exact hf

namespace Play

variable {α β : Type} {r : Run}

/-! ## Look-ups in games with flags in line -/

theorem modifyPlayer_same {g : Game} {a : Nat} {p : Player} (hp : g.players[a]? = some p) :
    (g.modifyPlayer a fun _ => p) = g := by
  have hid : (g.modifyPlayer a fun _ => p) = g.modifyPlayer a id := modifyPlayer_congr hp rfl
  rw [hid]
  simp [Game.modifyPlayer]

theorem aligned?_of_parallel {p : Player} (h : p.Parallel) : p.aligned? = .ok p := by
  obtain ⟨flags, hknown, hsize⟩ := h
  rw [Player.aligned?, hsize, hknown]
  simp only [Value.size?, bind, Except.bind, Nat.lt_irrefl, if_false]
  rfl

namespace ReadsAt

/-- Flags that are in line stay as they are. -/
theorem align (h : r.game.Parallel) (a : Nat) : ReadsAt r (align a) := by
  cases hp : r.game.players[a]? with
  | none => exact .inr ⟨_, bind_of_error (player_of_none hp)⟩
  | some p =>
    refine .inl ⟨(), ?_⟩
    rw [Play.align, bind_of_ok (player_of hp), aligned?_of_parallel (h.player hp),
      bind_of_ok (orFault_ok p r), modifyPlayer_apply, modifyPlayer_same hp]

theorem resolvePile (h : r.game.Parallel) (ref : Value) (param : Option String)
    (params forced : Value) : ReadsAt r (resolvePile ref param params forced) := by
  unfold Play.resolvePile
  refine .ite (.bind (.orFault _) fun _ => .pure _) ?_
  refine .ite (.bind (.orFault _) fun _ => .pure _) ?_
  split
  · refine .ite (.bind .game fun g => .bind (.orFault _) fun a => ?_) (.fail _)
    refine .bind (.orFault _) fun index => .bind (.align h a) fun _ => ?_
    exact .bind (.orFault _) fun _ => .pure _
  · exact .fail _

end ReadsAt

/-! ## Completing -/

/-- If the step ends well, flags that were in line are in line again. -/
def KeepsParallel (x : Play α) : Prop :=
  ∀ r a r', r.game.Parallel → x r = .ok a r' → r'.game.Parallel

namespace KeepsParallel

theorem of_reads {x : Play α} (hx : ∀ r, r.game.Parallel → ReadsAt r x) : KeepsParallel x := by
  intro r a r' h hr
  rw [(hx r h).of_ok hr]
  exact h

theorem bind {x : Play α} {f : α → Play β} (hx : KeepsParallel x) (hf : ∀ a, KeepsParallel (f a)) :
    KeepsParallel (x >>= f) := by
  intro r b r' h hr
  obtain ⟨a, r₁, h₁, h₂⟩ := bind_ok hr
  exact hf a r₁ b r' (hx r a r₁ h h₁) h₂

theorem ite {p : Prop} [Decidable p] {x y : Play α} (hx : KeepsParallel x)
    (hy : KeepsParallel y) : KeepsParallel (if p then x else y) := by split <;> assumption

theorem forM {xs : List α} {f : α → Play Unit} (hf : ∀ a, KeepsParallel (f a)) :
    KeepsParallel (xs.forM f) := by
  induction xs with
  | nil => exact .of_reads fun _ _ => .pure ()
  | cons a xs ih => exact .bind (hf a) fun _ => ih

theorem emit (e : Value) : KeepsParallel (emit e) := by
  intro r a r' h hr
  cases hr
  exact h

theorem modifyGame {f : Game → Game} (hf : ∀ g, (f g).players = g.players) :
    KeepsParallel (modifyGame f) := by
  intro r a r' h hr
  cases hr
  intro p hp
  rw [hf] at hp
  exact h p hp

/-- Writes to other parts than the cards leave the flags in line. -/
theorem of_writes {parts : List Part} {x : Play α} (hx : Writes parts x) (hcards : .cards ∉ parts)
    (hflags : .flags ∉ parts) : KeepsParallel x := by
  intro r a r' h hr
  have hkept : (gameOf (x r)).Parallel := by
    refine hx.keeps (fun part hpart r r' hwrite h => ?_) h
    cases hwrite with
    | deck | discard | hand => exact absurd hpart hcards
    | flag => exact absurd hpart hflags
    | score =>
      refine h.modifyPlayer fun p hp => ?_
      obtain ⟨flags, hknown, hsize⟩ := h.player hp
      exact ⟨flags, hknown, hsize⟩
    | turn | contest | log | event => exact h
  rwa [hr] at hkept

/-- A player who is looked up has a flag for each card. -/
theorem player_bind {a : Nat} {f : Player → Play β}
    (hf : ∀ (p : Player) (flags : List Value) (r : Run) (b : β) (r' : Run), r.game.Parallel →
      r.game.players[a]? = some p → p.known = .list flags → p.hand.size? = .ok flags.length →
      f p r = .ok b r' → r'.game.Parallel) : KeepsParallel (player a >>= f) := by
  intro r b r' h hr
  obtain ⟨p, r₁, h₁, hr₁⟩ := bind_ok hr
  obtain ⟨rfl, hp⟩ := player_ok h₁
  obtain ⟨flags, hknown, hsize⟩ := h.player hp
  exact hf p flags r₁ b r' h hp hknown hsize hr₁

theorem takeAt (xs : List Value) (ref : PileRef) {store : List Value → Game → Game}
    (hs : ∀ xs g, (store xs g).players = g.players) : KeepsParallel (takeAt xs ref store) := by
  unfold Play.takeAt
  split
  · exact .of_reads fun _ _ => .pure _
  · split
    · exact .of_reads fun _ _ => .pure _
    · exact .bind (.modifyGame (hs _)) fun _ => .of_reads fun _ _ => .pure _

/-- A card goes with its flag. -/
theorem takeFromHand (a : Nat) (ref : PileRef) : KeepsParallel (takeFromHand a ref) := by
  refine .player_bind fun p flags r card r' h hp hknown hsize hr => ?_
  by_cases hvoid : p.hand.isVoid = true
  · rw [if_pos hvoid] at hr
    cases hr
    exact h
  rw [if_neg hvoid, hsize, bind_of_ok (orFault_ok _ r)] at hr
  cases hn : PileRef.slot? ref flags.length with
  | none =>
    rw [hn] at hr
    cases hr
    exact h
  | some n =>
    rw [hn] at hr
    cases hhand : p.hand with
    | null | bool | number | text | object | keyed =>
      rw [hhand] at hr
      cases hr
    | list cards =>
      rw [hhand] at hr hsize
      have hlen : cards.length = flags.length := Except.ok.inj hsize
      cases hx : cards[n]? with
      | none =>
        simp only [hx] at hr
        cases hr
        exact h
      | some x =>
        have hlt : n < flags.length := by
          rw [← hlen]
          exact (List.getElem?_eq_some_iff.1 hx).1
        simp only [hx] at hr
        rw [bind_of_ok (modifyPlayer_apply a _ r),
          bind_of_ok (dropFlag_of (p := { p with hand := .list (cards.eraseIdx n) })
            (player_modifyPlayer hp _) hknown hlt)] at hr
        cases hr
        dsimp only
        rw [modifyPlayer_modifyPlayer]
        refine h.modifyPlayer fun q _ => ⟨flags.eraseIdx n, rfl, ?_⟩
        simp [Value.size?, List.length_eraseIdx, hlen]

theorem take (ref : PileRef) : KeepsParallel (take ref) := by
  unfold Play.take
  split
  · exact .bind (.of_reads fun _ _ => .game) fun _ => .takeAt _ _ fun _ _ => rfl
  · exact .bind (.of_reads fun _ _ => .game) fun _ => .takeAt _ _ fun _ _ => rfl
  · exact takeFromHand _ _

/-- A card comes with a flag. -/
theorem put (ref : PileRef) (card : Value) : KeepsParallel (put ref card) := by
  unfold Play.put
  split
  · exact .modifyGame fun _ => rfl
  · exact .modifyGame fun _ => rfl
  rename_i a _
  refine .player_bind fun p flags r u r' h hp hknown hsize hr => ?_
  cases hhand : p.hand with
  | null | bool | number | text | object | keyed =>
    simp only [hhand] at hr
    cases hr
  | list cards =>
    rw [hhand] at hsize
    have hlen : cards.length = flags.length := Except.ok.inj hsize
    simp only [hhand] at hr
    rw [bind_of_ok (modifyPlayer_apply a _ r),
      bind_of_ok (player_of (p := { p with hand := .list (cards ++ [card]) })
        (player_modifyPlayer hp _)), hknown] at hr
    dsimp only at hr
    rw [modifyPlayer_apply] at hr
    cases hr
    dsimp only
    rw [modifyPlayer_modifyPlayer]
    refine h.modifyPlayer fun q _ => ⟨flags ++ [.bool false], rfl, ?_⟩
    simp [Value.size?, hlen]

theorem moveOne (source target : PileRef) : KeepsParallel (moveOne source target) :=
  .bind (.take source) fun _ => .ite (.put target _) (.of_reads fun _ _ => .pure ())

theorem moveMany (source target : PileRef) : ∀ n, KeepsParallel (moveMany source target n)
  | 0 => .of_reads fun _ _ => .pure ()
  | n + 1 => .bind (.moveOne source target) fun _ => moveMany source target n

theorem layCard (a n : Nat) (card : Value) : KeepsParallel (layCard a n card) := by
  refine .player_bind fun p flags r u r' h hp hknown hsize hr => ?_
  cases hhand : p.hand with
  | null | bool | number | text | object | keyed =>
    simp only [hhand] at hr
    cases hr
  | list cards =>
    rw [hhand] at hsize
    simp only [hhand] at hr
    cases hr
    exact h.modifyPlayer_at hp ⟨flags, hknown, by simpa [Value.size?] using hsize⟩

theorem markKnown (a n : Nat) (known : Bool) : KeepsParallel (markKnown a n known) := by
  refine .bind (.of_reads fun _ h => .align h a) fun _ => ?_
  refine .player_bind fun p flags r u r' h hp hknown hsize hr => ?_
  rw [hknown, withFlag?, bind_of_ok (orFault_ok _ r)] at hr
  cases hr
  exact h.modifyPlayer_at hp ⟨flags.set n (.bool known), rfl, by simpa using hsize⟩

theorem exchangeCards (s : SwapSides) (x y : Value) (known : Bool) :
    KeepsParallel (exchangeCards s x y known) :=
  .bind (.layCard _ _ _) fun _ => .bind (.layCard _ _ _) fun _ => .bind (.markKnown _ _ _) fun _ =>
    .markKnown _ _ _

theorem revealHand (a : Nat) : KeepsParallel (revealHand a) := by
  refine .player_bind fun p flags r u r' h hp _ hsize hr => ?_
  rw [hsize, bind_of_ok (orFault_ok _ r), bind_of_ok (modifyPlayer_apply a _ r)] at hr
  obtain ⟨hand, r₁, h₁, hr₁⟩ := bind_ok hr
  obtain ⟨rfl, -⟩ := orFault_ok_inv h₁
  cases hr₁
  exact h.modifyPlayer_at hp ⟨List.replicate flags.length (.bool true), rfl, by simpa using hsize⟩

end KeepsParallel

/-- An operation that completes keeps the flags in line, unless it is a flag written over them or
over a hand. -/
theorem perform_parallel (b : Rulebook) (c : Circumstances) {o : Operation} (ho : o.SparesHands) :
    KeepsParallel (perform b c o) := by
  cases o with
  | moveCard source target count param =>
    exact .bind (.of_reads fun _ h => .resolvePile h _ _ _ _) fun _ =>
      .bind (.of_reads fun _ h => .resolvePile h _ _ _ _) fun _ => .moveMany _ _ _
  | moveCardByIndex source target param =>
    refine .bind (.of_reads fun _ _ => .orFault _) fun index => .ite ?_ ?_
    · exact .bind (.of_reads fun _ _ => .fail _) fun _ =>
        .bind (.of_reads fun _ h => .resolvePile h _ _ _ _) fun _ =>
          .bind (.of_reads fun _ h => .resolvePile h _ _ _ _) fun _ => .moveOne _ _
    · exact .bind (.of_reads fun _ h => .resolvePile h _ _ _ _) fun _ =>
        .bind (.of_reads fun _ h => .resolvePile h _ _ _ _) fun _ => .moveOne _ _
  | setFlag target flag value =>
    intro r u r' h hr
    rcases setFlag_cases target flag value r with ⟨e, he⟩ | ⟨t, ht, hspared⟩
    · rw [perform, he] at hr
      cases hr
    · rw [perform, ht] at hr
      cases hr
      cases t with
      | turn | round | contest => exact h
      | player a =>
        refine h.modifyPlayer fun p hp => ?_
        obtain ⟨flags, hknown, hsize⟩ := h.player hp
        obtain ⟨hhand, hknown'⟩ := hspared ho a rfl p
        exact ⟨flags, hknown'.trans hknown, by rw [hhand]; exact hsize⟩
  | advanceTurnOrder | resetTurnFlags | setPhase | log | scoreRound =>
    refine .of_writes (perform_writes b c _) ?_ ?_ <;> simp [Operation.parts]
  | revealAllHands => exact .bind (.of_reads fun _ _ => .game) fun g => .forM .revealHand
  | swapCards fromPlayer toPlayer fromIndex toIndex reveal =>
    refine .bind (.of_reads fun _ _ => .swapSides b c _ _ _ _) fun s => ?_
    refine .bind (.of_reads fun _ _ => .cardAt _ _) fun x => ?_
    refine .bind (.of_reads fun _ _ => .cardAt _ _) fun y => ?_
    refine .bind (.exchangeCards _ _ _ _) fun _ => .ite ?_ (.of_reads fun _ _ => .pure ())
    exact .bind (.of_reads fun _ _ => .idOf _) fun _ => .bind (.emit _) fun _ =>
      .bind (.of_reads fun _ _ => .idOf _) fun _ => .emit _
  | swapCardsWithPeek fromPlayer toPlayer fromIndex toIndex =>
    refine .bind (.of_reads fun _ _ => .swapSides b c _ _ _ _) fun s => ?_
    refine .bind (.of_reads fun _ _ => .cardAt _ _) fun x => ?_
    refine .bind (.of_reads fun _ _ => .cardAt _ _) fun y => ?_
    refine .bind (.of_reads fun _ _ => .idOf _) fun _ => .bind (.emit _) fun _ => ?_
    exact .bind (.of_reads fun _ _ => .idOf _) fun _ => .bind (.emit _) fun _ =>
      .exchangeCards _ _ _ _
  | revealCard target indexParam =>
    refine .bind (.of_reads fun _ _ => .seatOf b c _) fun a => ?_
    refine .bind (.of_reads fun _ _ => .orFault _) fun index => ?_
    refine .bind (.of_reads fun _ _ => .requiredSlot _ _) fun n => ?_
    refine .bind (.markKnown _ _ _) fun _ => .bind (.of_reads fun _ _ => .idOf _) fun _ => ?_
    exact .bind (.of_reads fun _ _ => .cardAt _ _) fun _ => .emit _

end Play

end CardRules
