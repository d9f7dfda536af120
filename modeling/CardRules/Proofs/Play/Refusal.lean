import CardRules.Proofs.Play.Parallel

/-!
# Refusals

On a game whose flags are in line every rule error of an operation comes before its first change
(`perform_refused`): look-ups leave the run alone (`ReadsAt`), and what follows them can fail in
faults only (`FaultsOnly`).
-/

namespace CardRules

namespace Play

variable {α β : Type} {r : Run}

/-! ## Failing in faults only -/

/-- The step never ends in a rule error. -/
def FaultsOnly (x : Play α) : Prop := ∀ r e r', x r ≠ .error (.rule e) r'

namespace FaultsOnly

theorem pure (a : α) : FaultsOnly (pure a : Play α) := fun _ _ _ h => by cases h

theorem fault (f : Fault) : FaultsOnly (throw (.fault f) : Play α) := fun _ _ _ h => by cases h

theorem orFault (x : Except Fault α) : FaultsOnly (orFault x) := by
  cases x with
  | ok a => exact .pure a
  | error f => exact .fault f

theorem modifyGame (f : Game → Game) : FaultsOnly (modifyGame f) := fun _ _ _ h => by cases h

theorem modifyPlayer (a : Nat) (f : Player → Player) : FaultsOnly (modifyPlayer a f) :=
  .modifyGame _

theorem emit (e : Value) : FaultsOnly (emit e) := fun _ _ _ h => by cases h

theorem tell (s : String) : FaultsOnly (tell s) := fun _ _ _ h => by cases h

theorem game : FaultsOnly game := fun _ _ _ h => by cases h

theorem bind {x : Play α} {f : α → Play β} (hx : FaultsOnly x) (hf : ∀ a, FaultsOnly (f a)) :
    FaultsOnly (x >>= f) := by
  intro r e r' h
  rcases bind_error h with h | ⟨a, r₁, -, h⟩
  · exact hx r e r' h
  · exact hf a r₁ e r' h

theorem ite {p : Prop} [Decidable p] {x y : Play α} (hx : FaultsOnly x) (hy : FaultsOnly y) :
    FaultsOnly (if p then x else y) := by split <;> assumption

theorem forM {xs : List α} {f : α → Play Unit} (hf : ∀ a, FaultsOnly (f a)) :
    FaultsOnly (xs.forM f) := by
  induction xs with
  | nil => exact .pure ()
  | cons a xs ih => exact .bind (hf a) fun _ => ih

theorem player (a : Nat) : FaultsOnly (player a) := .bind .game fun _ => .orFault _

theorem idOf (a : Nat) : FaultsOnly (idOf a) := .bind (.player a) fun _ => .pure _

theorem cardAt (a n : Nat) : FaultsOnly (cardAt a n) := .bind (.player a) fun _ => .orFault _

theorem align (a : Nat) : FaultsOnly (align a) :=
  .bind (.player a) fun _ => .bind (.orFault _) fun _ => .modifyPlayer a _

theorem takeAt (xs : List Value) (ref : PileRef) (store : List Value → Game → Game) :
    FaultsOnly (takeAt xs ref store) := by
  unfold Play.takeAt
  split
  · exact .pure _
  · split
    · exact .pure _
    · exact .bind (.modifyGame _) fun _ => .pure _

theorem takeFromHand (a : Nat) (ref : PileRef) : FaultsOnly (takeFromHand a ref) := by
  refine .bind (.player a) fun p => .ite (.pure _) (.bind (.orFault _) fun size => ?_)
  split
  · exact .pure _
  · split
    · split
      · exact .pure _
      · refine .bind (.modifyPlayer a _) fun _ => .bind ?_ fun _ => .pure _
        exact .bind (.player a) fun _ => .bind (.orFault _) fun _ => .modifyPlayer a _
    · exact .fault _

theorem take (ref : PileRef) : FaultsOnly (take ref) := by
  unfold Play.take
  split
  · exact .bind .game fun _ => takeAt _ _ _
  · exact .bind .game fun _ => takeAt _ _ _
  · exact takeFromHand _ _

theorem addFlag (a : Nat) : FaultsOnly (addFlag a) := by
  refine .bind (.player a) fun p => ?_
  split
  · exact .modifyPlayer a _
  · exact .fault _

theorem put (ref : PileRef) (card : Value) : FaultsOnly (put ref card) := by
  unfold Play.put
  split
  · exact .modifyGame _
  · exact .modifyGame _
  · rename_i a _
    refine .bind (.player a) fun p => ?_
    dsimp only
    split
    · exact .bind (.modifyPlayer a _) fun _ => .addFlag a
    · exact .bind (.fault _) fun _ => .addFlag a

theorem moveOne (source target : PileRef) : FaultsOnly (moveOne source target) :=
  .bind (.take source) fun _ => .ite (.put target _) (.pure ())

theorem moveMany (source target : PileRef) : ∀ n, FaultsOnly (moveMany source target n)
  | 0 => .pure ()
  | n + 1 => .bind (.moveOne source target) fun _ => moveMany source target n

theorem layCard (a n : Nat) (card : Value) : FaultsOnly (layCard a n card) := by
  refine .bind (.player a) fun p => ?_
  split
  · exact .modifyPlayer a _
  · exact .fault _

theorem markKnown (a n : Nat) (known : Bool) : FaultsOnly (markKnown a n known) :=
  .bind (.align a) fun _ => .bind (.player a) fun _ => .bind (.orFault _) fun _ =>
    .modifyPlayer a _

theorem exchangeCards (s : SwapSides) (x y : Value) (known : Bool) :
    FaultsOnly (exchangeCards s x y known) :=
  .bind (.layCard _ _ _) fun _ => .bind (.layCard _ _ _) fun _ => .bind (.markKnown _ _ _) fun _ =>
    .markKnown _ _ _

theorem revealHand (a : Nat) : FaultsOnly (revealHand a) :=
  .bind (.player a) fun _ => .bind (.orFault _) fun _ => .bind (.modifyPlayer a _) fun _ =>
    .bind (.orFault _) fun _ => .emit _

theorem scoreSeat (d : Document) (a : Nat) : FaultsOnly (scoreSeat d a) := by
  refine .bind (.player a) fun p => .bind (.orFault _) fun score => ?_
  dsimp only
  split
  · exact .fault _
  · exact .bind (.modifyPlayer a _) fun _ => .bind .game fun _ => .emit _

theorem announceScores : FaultsOnly announceScores :=
  .bind .game fun _ => .bind (.orFault _) fun _ => .pure _

theorem decideMatch (limit : Number) : FaultsOnly (decideMatch limit) := by
  refine .bind .game fun g => ?_
  split
  · exact .pure ()
  · exact .modifyGame _

end FaultsOnly

/-! ## Places found

What an operation does once it has found the places it is about, which is the same for all rulebooks
and circumstances. -/

/-- Exchanges the cards of a swap, and shows them if asked to. -/
def swapFound (reveal : Bool) (s : SwapSides) : Play Unit := do
  let fromCard ← cardAt s.fromSeat s.fromSlot
  let toCard ← cardAt s.toSeat s.toSlot
  exchangeCards s fromCard toCard reveal
  if reveal then
    emit (cardReveal (← idOf s.fromSeat) s.fromSlot toCard)
    emit (cardReveal (← idOf s.toSeat) s.toSlot fromCard)

/-- Shows the cards of a swap and exchanges them. -/
def peekFound (s : SwapSides) : Play Unit := do
  let fromCard ← cardAt s.fromSeat s.fromSlot
  let toCard ← cardAt s.toSeat s.toSlot
  emit (cardReveal (← idOf s.fromSeat) s.fromSlot fromCard)
  emit (cardReveal (← idOf s.toSeat) s.toSlot toCard)
  exchangeCards s fromCard toCard true

/-- Shows the card in a place. -/
def revealFound (seat n : Nat) : Play Unit := do
  markKnown seat n true
  emit (cardReveal (← idOf seat) n (← cardAt seat n))

namespace FaultsOnly

theorem swapFound (reveal : Bool) (s : SwapSides) : FaultsOnly (swapFound reveal s) := by
  refine .bind (.cardAt _ _) fun x => .bind (.cardAt _ _) fun y => ?_
  refine .bind (.exchangeCards _ _ _ _) fun _ => .ite ?_ (.pure ())
  exact .bind (.idOf _) fun _ => .bind (.emit _) fun _ => .bind (.idOf _) fun _ => .emit _

theorem peekFound (s : SwapSides) : FaultsOnly (peekFound s) := by
  refine .bind (.cardAt _ _) fun x => .bind (.cardAt _ _) fun y => .bind (.idOf _) fun _ => ?_
  exact .bind (.emit _) fun _ => .bind (.idOf _) fun _ => .bind (.emit _) fun _ =>
    .exchangeCards _ _ _ _

theorem revealFound (seat n : Nat) : FaultsOnly (revealFound seat n) :=
  .bind (.markKnown _ _ _) fun _ => .bind (.idOf _) fun _ => .bind (.cardAt _ _) fun _ => .emit _

end FaultsOnly

/-! ## Refusals -/

/-- If the step ends in a rule error, it has changed and reported nothing. -/
def RefusesAt (r : Run) (x : Play α) : Prop := ∀ e r', x r = .error (.rule e) r' → r' = r

namespace RefusesAt

theorem of_faultsOnly {x : Play α} (hx : FaultsOnly x) : RefusesAt r x :=
  fun e r' h => absurd h (hx r e r')

theorem of_reads {x : Play α} (hx : ReadsAt r x) : RefusesAt r x := fun _ _ h => hx.of_error h

theorem bind {x : Play α} {f : α → Play β} (hx : ReadsAt r x) (hf : ∀ a, RefusesAt r (f a)) :
    RefusesAt r (x >>= f) := by
  intro e r' h
  rcases bind_error h with h₁ | ⟨a, r₁, h₁, h₂⟩
  · exact hx.of_error h₁
  · obtain rfl := hx.of_ok h₁
    exact hf a e r' h₂

theorem ite {p : Prop} [Decidable p] {x y : Play α} (hx : RefusesAt r x) (hy : RefusesAt r y) :
    RefusesAt r (if p then x else y) := by split <;> assumption

end RefusesAt

/-- Every rule error of an operation comes before its first change. -/
theorem perform_refused (h : r.game.Parallel) (b : Rulebook) (c : Circumstances) (o : Operation) :
    RefusesAt r (perform b c o) := by
  cases o with
  | moveCard source target count param =>
    exact .bind (.resolvePile h _ _ _ _) fun _ => .bind (.resolvePile h _ _ _ _) fun _ =>
      .of_faultsOnly (.moveMany _ _ _)
  | moveCardByIndex source target param =>
    refine .bind (.orFault _) fun index => .ite (.bind (.fail _) fun _ => ?_) ?_
    all_goals
      exact .bind (.resolvePile h _ _ _ _) fun _ => .bind (.resolvePile h _ _ _ _) fun _ =>
        .of_faultsOnly (.moveOne _ _)
  | setFlag target flag value =>
    exact .bind .game fun g => .bind (.lift _) fun _ => .of_faultsOnly (.modifyGame _)
  | advanceTurnOrder phase =>
    refine .bind .game fun g => .ite ?_ (.of_faultsOnly (.modifyGame _))
    exact .bind (.orFault _) fun _ => .of_faultsOnly (.bind (.modifyGame _) fun _ => .modifyGame _)
  | resetTurnFlags | setPhase => exact fun e r' h => by cases h
  | log template =>
    refine .bind .game fun g => .bind (.orFault _) fun name => ?_
    split
    · exact .of_faultsOnly (.bind (.modifyGame _) fun _ => .tell _)
    · exact .of_faultsOnly (.fault _)
  | revealAllHands => exact .bind .game fun g => .of_faultsOnly (.forM .revealHand)
  | scoreRound =>
    refine .bind .game fun g => ?_
    split
    · exact .of_reads (.fail _)
    · refine .of_faultsOnly (.bind (.forM (.scoreSeat _)) fun _ => .bind .announceScores fun _ => ?_)
      split
      · exact .pure ()
      · exact .decideMatch _
  | swapCards fromPlayer toPlayer fromIndex toIndex reveal =>
    exact .bind (.swapSides b c _ _ _ _) fun s => .of_faultsOnly (.swapFound reveal s)
  | swapCardsWithPeek fromPlayer toPlayer fromIndex toIndex =>
    exact .bind (.swapSides b c _ _ _ _) fun s => .of_faultsOnly (.peekFound s)
  | revealCard target indexParam =>
    exact .bind (.seatOf b c _) fun a => .bind (.orFault _) fun index =>
      .bind (.requiredSlot _ _) fun n => .of_faultsOnly (.revealFound a n)

end Play

end CardRules
