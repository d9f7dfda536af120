import CardRules.Proofs.Cards.LiningUp
import CardRules.Proofs.Play.Refusal
import CardRules.Proofs.Play.Turns

/-!
# Flags and hands in line

The flags of a hand get out of line in a loaded game only. `flags_follow_hands`: no call puts flags
out of line, and a step that completes brings the flags of the hands in line that it works on
(`Step.hands`). It works on these hands as if they had been lined up before: nothing but the surplus
flags is lost, and nothing but false is added, before it changes flags itself.

* `Step.keeps_inLine`: what a step leaves, also one that fails, is in line where it was before.
* `Play.Lines`: a step that completes leaves the flags of a seat in line.
-/

namespace CardRules

/-! ## The hands of a step -/

/-- The seat whose hand a reference to a pile means, if it means a hand. -/
def Game.handSeat? (g : Game) (ref : String) : Option Nat :=
  if "hand".toList.isSuffixOf ref.toList then
    (if Play.occursIn nextPlayerRef.toList ref.toList then g.nextSeat? else g.currentSeat?).toOption
  else none

/-- The seat of the player that a reference means, if it means one. -/
def Game.playerSeat? (g : Game) (b : Rulebook) (c : Circumstances) (ref : String) : Option Nat :=
  (g.resolveSeat? b.strict c.playerId (.text ref)).toOption

/-- The seats whose hands a step works on: the piles that it moves cards from and to, the sides of a
swap, and the targets of a reveal. -/
def Step.hands (b : Rulebook) (s : Step) : List Nat :=
  match s.leaf.operation with
  | .moveCard source target _ _ | .moveCardByIndex source target _ =>
    [source, target].filterMap s.game.handSeat?
  | .swapCards fromPlayer toPlayer _ _ _ | .swapCardsWithPeek fromPlayer toPlayer _ _ =>
    [fromPlayer, toPlayer].filterMap (s.game.playerSeat? b s.leaf.circumstances)
  | .revealCard target _ => [target].filterMap (s.game.playerSeat? b s.leaf.circumstances)
  | .revealAllHands => List.range s.game.seats
  | .setFlag _ _ _ | .advanceTurnOrder _ | .resetTurnFlags | .setPhase _ | .log _
  | .scoreRound => []

/-! ## Layouts in line -/

namespace Game

variable {g g' : Game} {l l' : Layout} {a : Nat}

theorem Lays.inLine (h : g.Lays l) (hl : l.Lined (.hand a)) : g.InLine a := by
  intro p hp
  obtain ⟨s, hs, hparallel⟩ := hl a rfl
  obtain ⟨q, hq, hholds⟩ := h.player hs
  obtain rfl : p = q := Option.some.inj (hp.symm.trans hq)
  exact ⟨s, hholds, hparallel⟩

theorem Lays.lined (h : g.Lays l) (ha : a < g.seats) (hin : g.InLine a) : l.Lined (.hand a) := by
  rintro b ⟨⟩
  have hp : g.players[a]? = some g.players[a] := List.getElem?_eq_getElem ha
  obtain ⟨s, hs, hholds⟩ := h.seat hp
  obtain ⟨⟨cards, flags⟩, hholds', hparallel⟩ := hin _ hp
  cases hholds.hand.symm.trans hholds'.hand
  cases hholds.known.symm.trans hholds'.known
  exact ⟨s, hs, hparallel⟩

/-- A game is in line where it was, if its layout is. -/
theorem Lays.keeps_inLine (h : g.Lays l) (h' : g'.Lays l') (hseats : g'.seats = g.seats)
    (hkeeps : ∀ q, l.Lined q → l'.Lined q) (hin : g.InLine a) : g'.InLine a := by
  intro p hp
  have ha : a < g.seats := by
    rw [← hseats]
    exact (List.getElem?_eq_some_iff.1 hp).1
  exact h'.inLine (hkeeps _ (h.lined ha hin)) p hp

end Game

namespace Play

variable {α β : Type} {seats : List Nat} {a : Nat}

/-! ## Indifferent operations -/

namespace Indifferent

theorem swapFound (reveal : Bool) (s : SwapSides) : Indifferent seats (swapFound reveal s) := by
  refine .bind (.cardAt _) fun x => .bind (.cardAt _) fun y => ?_
  refine .bind (.exchangeCards _ _ _ _) fun _ => .ite ?_ (.pure ())
  exact .bind .idOf fun _ => .bind (.emit _) fun _ => .bind .idOf fun _ => .emit _

theorem peekFound (s : SwapSides) : Indifferent seats (peekFound s) := by
  refine .bind (.cardAt _) fun x => .bind (.cardAt _) fun y => .bind .idOf fun _ => ?_
  exact .bind (.emit _) fun _ => .bind .idOf fun _ => .bind (.emit _) fun _ =>
    .exchangeCards _ _ _ _

theorem revealFound (n : Nat) : Indifferent seats (revealFound a n) :=
  .bind (.markKnown _ _) fun _ => .bind .idOf fun _ => .bind (.cardAt _) fun _ => .emit _

theorem swapCards (b : Rulebook) (c : Circumstances) (fromPlayer toPlayer : String)
    (fromIndex toIndex : Option String) (reveal : Bool) :
    Indifferent seats (swapCards b c fromPlayer toPlayer fromIndex toIndex reveal) :=
  .bind (.swapSides b c _ _ _ _) (.swapFound reveal)

theorem swapCardsWithPeek (b : Rulebook) (c : Circumstances) (fromPlayer toPlayer : String)
    (fromIndex toIndex : Option String) :
    Indifferent seats (swapCardsWithPeek b c fromPlayer toPlayer fromIndex toIndex) :=
  .bind (.swapSides b c _ _ _ _) .peekFound

theorem revealCard (b : Rulebook) (c : Circumstances) (target : String)
    (indexParam : Option String) : Indifferent seats (revealCard b c target indexParam) :=
  .bind (.seatOf b c _) fun _ => .bind (.orFault _) fun _ => .bind (.requiredSlot _) fun n =>
    .revealFound n

theorem revealAllHands : Indifferent seats revealAllHands :=
  .game (fun g => by rw [g.seats_lineUp]) fun _ => .forM fun _ => .revealHand

end Indifferent

/-! ## Lining up a seat -/

/-- In a game of lists the step, if it completes, leaves the flags of a seat in line. -/
def Lines (a : Nat) (x : Play α) : Prop :=
  ∀ r v r', r.game.HasLists → x r = .ok v r' → r'.game.InLine a

namespace Lines

/-- What follows keeps the flags in line. -/
theorem before {x : Play α} {f : α → Play β} (hx : Lines a x) (hi : Indifferent [a] x)
    (hf : ∀ v, Indifferent [a] (f v)) : Lines a (x >>= f) := by
  intro r w r' h hok
  obtain ⟨v, r₁, h₁, h₂⟩ := bind_ok hok
  have hlists : r₁.game.HasLists := by
    have := (hi r h).2
    rwa [h₁] at this
  have hin := (hf v).inLine hlists (hx r v r₁ h h₁)
  rwa [h₂] at hin

theorem after {x : Play α} {f : α → Play β} (hx : Indifferent [a] x) (hf : ∀ v, Lines a (f v)) :
    Lines a (x >>= f) := by
  intro r w r' h hok
  obtain ⟨v, r₁, h₁, h₂⟩ := bind_ok hok
  have hlists : r₁.game.HasLists := by
    have := (hx r h).2
    rwa [h₁] at this
  exact hf v r₁ w r' hlists h₂

/-- A change that gives each card its flag. -/
theorem of_changes {x : Play Unit} {f : Seat → Seat} {events : Player → List Value}
    (hx : ChangesSeat a f events x) (hf : ∀ s : Seat, (f s).Parallel) : Lines a x := by
  intro r v r' h hok q hq
  cases hp : r.game.players[a]? with
  | none =>
    rw [hx.missing hp] at hok
    cases hok
  | some p =>
    obtain ⟨s, hs⟩ := h.player hp
    rw [hx.change hp hs] at hok
    cases hok
    rw [player_modifyPlayer hp] at hq
    cases hq
    exact ⟨f s, hs.onSeat f, hf s⟩

theorem markKnown (n : Nat) (known : Bool) : Lines a (markKnown a n known) :=
  .of_changes (changesSeat_markKnown a n known) (Seat.parallel_marked n known)

theorem revealHand : Lines a (revealHand a) :=
  .of_changes (changesSeat_revealHand a) Seat.parallel_shown

theorem revealHands (ha : a ∈ seats) : Lines a (seats.forM Play.revealHand) := by
  induction seats with
  | nil => cases ha
  | cons a' seats ih =>
    rcases List.mem_cons.1 ha with rfl | ha
    · exact .before revealHand .revealHand fun _ => .forM fun _ => .revealHand
    · exact .after .revealHand fun _ => ih ha

/-- Both sides of a swap are lined up, the one after the other. -/
theorem exchangeCards {s : SwapSides} (ha : a = s.fromSeat ∨ a = s.toSeat) (x y : Value)
    (known : Bool) : Lines a (exchangeCards s x y known) := by
  refine .after (.layCard _ _) fun _ => .after (.layCard _ _) fun _ => ?_
  rcases ha with rfl | rfl
  · exact .before (.markKnown _ _) (.markKnown _ _) fun _ => .markKnown _ _
  · exact .after (.markKnown _ _) fun _ => .markKnown _ _

theorem swapFound (reveal : Bool) {s : SwapSides} (ha : a = s.fromSeat ∨ a = s.toSeat) :
    Lines a (swapFound reveal s) := by
  refine .after (.cardAt _) fun x => .after (.cardAt _) fun y => ?_
  refine .before (.exchangeCards ha x y reveal) (.exchangeCards _ _ _ _) fun _ => .ite ?_ (.pure ())
  exact .bind .idOf fun _ => .bind (.emit _) fun _ => .bind .idOf fun _ => .emit _

theorem peekFound {s : SwapSides} (ha : a = s.fromSeat ∨ a = s.toSeat) :
    Lines a (peekFound s) := by
  refine .after (.cardAt _) fun x => .after (.cardAt _) fun y => .after .idOf fun _ => ?_
  exact .after (.emit _) fun _ => .after .idOf fun _ => .after (.emit _) fun _ =>
    .exchangeCards ha x y true

theorem revealFound (n : Nat) : Lines a (revealFound a n) :=
  .before (.markKnown n true) (.markKnown n true) fun _ => .bind .idOf fun _ =>
    .bind (.cardAt _) fun _ => .emit _

end Lines

/-! ## Hands found -/

/-- The sides of a swap are the players that the references mean. -/
theorem side_of_swap {b : Rulebook} {c : Circumstances} {fromPlayer toPlayer : String}
    {fromIndex toIndex : Option String} {r r' : Run} {s : SwapSides}
    (h : swapSides b c fromPlayer toPlayer fromIndex toIndex r = .ok s r')
    (ha : a ∈ [fromPlayer, toPlayer].filterMap (r.game.playerSeat? b c)) :
    r' = r ∧ (a = s.fromSeat ∨ a = s.toSeat) := by
  obtain ⟨hr, hfrom, hto, -⟩ := swapSides_ok h
  refine ⟨hr, ?_⟩
  obtain ⟨ref, href, hseat⟩ := List.mem_filterMap.1 ha
  unfold Game.playerSeat? at hseat
  rcases List.mem_pair.1 href with rfl | rfl
  · rw [hfrom] at hseat
    exact .inl (Option.some.inj hseat).symm
  · rw [hto] at hseat
    exact .inr (Option.some.inj hseat).symm

/-- The search for a pile finds the hand that a reference means, if it means one, and leaves the
same hands to be found. -/
def FindsHand (ref : String) (x : Play PileRef) : Prop :=
  ∀ r p r', x r = .ok p r' →
    (∀ a, r.game.handSeat? ref = some a → p.pile = .hand a) ∧
      r'.game.handSeat? = r.game.handSeat?

theorem findsHand_resolvePile (ref : String) (param : Option String) (params forced : Value) :
    FindsHand ref (resolvePile (.text ref) param params forced) := by
  intro r p r' h
  constructor
  · -- the hand that is found is the one whose seat was looked up
    intro a ha
    unfold Game.handSeat? at ha
    split at ha
    case isFalse => cases ha
    rename_i hsuffix
    unfold resolvePile at h
    split at h
    · rename_i hdeck
      cases hdeck
      exact absurd hsuffix (by decide)
    split at h
    · rename_i hdiscard
      cases hdiscard
      exact absurd hsuffix (by decide)
    dsimp only at h
    rw [if_pos hsuffix, bind_of_ok (game_apply r)] at h
    obtain ⟨seat, r₁, h₁, k₁⟩ := bind_ok h
    obtain ⟨-, hseat⟩ := orFault_ok_inv h₁
    obtain ⟨index, r₂, -, k₂⟩ := bind_ok k₁
    obtain ⟨-, r₃, -, k₃⟩ := bind_ok k₂
    obtain ⟨i, r₄, -, k₄⟩ := bind_ok k₃
    cases k₄
    rw [hseat] at ha
    cases ha
    rfl
  · have hkeeps : (gameOf (resolvePile (.text ref) param params forced r)).turn = r.game.turn ∧
        (gameOf (resolvePile (.text ref) param params forced r)).seats = r.game.seats := by
      refine (Writes.resolvePile (List.mem_singleton_self Part.cards) _ _ _ _).keeps
        (M := fun g => g.turn = r.game.turn ∧ g.seats = r.game.seats) ?_ ⟨rfl, rfl⟩
      intro part hpart r₁ r₂ hwrite hr
      refine ⟨?_, hwrite.seats.trans hr.2⟩
      obtain rfl := List.mem_singleton.1 hpart
      cases hwrite <;> exact hr.1
    rw [h] at hkeeps
    obtain ⟨hturn, hseats⟩ := hkeeps
    funext ref
    simp only [gameOf] at hturn hseats
    simp only [Game.handSeat?, Game.nextSeat?, Game.currentSeat?, Game.nextSeatValue?, Game.seatAt?,
      hturn, hseats]

theorem findsHand_indexedSource (c : Circumstances) (source param : String) :
    FindsHand source (indexedSource c source param) := by
  intro r p r' h
  obtain ⟨index, r₁, h₁, k₁⟩ := bind_ok h
  obtain ⟨rfl, -⟩ := orFault_ok_inv h₁
  by_cases hnull : index = .null
  · dsimp only at k₁
    rw [if_pos hnull] at k₁
    cases k₁
  · dsimp only at k₁
    rw [if_neg hnull] at k₁
    exact findsHand_resolvePile source none .null index r₁ p r' k₁

theorem FindsPile.of_ok {shown : Value → Prop} {g : Game} {l : Layout} {x : Play PileRef}
    {p : PileRef} {r : Run} (h : FindsPile shown g l x) (hok : x { game := g } = .ok p r) :
    ∃ (g' : Game) (l' : Layout), r = { game := g' } ∧ g'.Lays l' ∧
      (∀ q, l.Lined q → l'.Lined q) ∧ l'.Lined p.pile := by
  obtain ⟨g', l', h', -, hkeeps, ⟨p', hp', hlined⟩ | ⟨e, he⟩⟩ := h
  · cases hp'.symm.trans hok
    exact ⟨g', l', rfl, h', hkeeps, hlined⟩
  · cases he.symm.trans hok

/-- A move that completes has lined up its hands before the first card is taken, and keeps them in
line. -/
theorem moveFrom_lines {g : Game} {l : Layout} {r : Run} {source : Play PileRef}
    {ref target : String} {n : Nat} (h : g.Lays l)
    (hfinds : FindsPile (fun _ => True) g l source) (hhand : FindsHand ref source)
    (hsource : ∀ seats, Indifferent seats source)
    (hok : moveFrom source target n { game := g } = .ok () r) :
    (∀ a ∈ [ref, target].filterMap g.handSeat?, r.game.InLine a) ∧
      moveFrom source target n { game := g.lineUp ([ref, target].filterMap g.handSeat?) } =
        .ok () r := by
  obtain ⟨p, r₁, hp, k₁⟩ := bind_ok hok
  obtain ⟨q, r₂, hq, k₂⟩ := bind_ok k₁
  obtain ⟨g₁, l₁, rfl, h₁, -, hlined₁⟩ := hfinds.of_ok hp
  obtain ⟨g₂, l₂, rfl, h₂, hkeeps₂, hlined₂⟩ :=
    (findsPile_resolvePile (fun _ => True) h₁ (.text target) none .null .null).of_ok hq
  obtain ⟨g₃, l₃, hmany, h₃, hkeeps₃, -⟩ :=
    moveMany_spec (fun _ => True) n h₂ (hkeeps₂ _ hlined₁) hlined₂
  cases hmany.symm.trans k₂
  obtain ⟨hfrom, hsame⟩ := hhand _ p _ hp
  obtain ⟨hto, -⟩ := findsHand_resolvePile target none .null .null _ q _ hq
  generalize hseats : [ref, target].filterMap g.handSeat? = seats
  have hlined : ∀ a ∈ seats, l₂.Lined (.hand a) := by
    intro a ha
    rw [← hseats] at ha
    obtain ⟨name, hname, hseat⟩ := List.mem_filterMap.1 ha
    rcases List.mem_pair.1 hname with rfl | rfl
    · exact hkeeps₂ _ (hfrom a hseat ▸ hlined₁)
    · exact hto a ((congrFun hsame name).trans hseat) ▸ hlined₂
  refine ⟨fun a ha => h₃.inLine (hkeeps₃ _ (hlined a ha)), ?_⟩
  -- the searches do the same, and what they leave is in line
  have htarget : Indifferent seats (resolvePile (.text target) none .null .null) :=
    .resolvePile _ _ _ _
  have hp' := (hsource seats { game := g } h.hasLists).1
  have hq' := (htarget { game := g₁ } h₁.hasLists).1
  have hlineUp : g₂.lineUp seats = g₂ := Game.lineUp_of_inLine fun a ha => h₂.inLine (hlined a ha)
  rw [hp] at hp'
  rw [hq] at hq'
  simp only [Run.lineUp, lineUpEnd, hlineUp] at hp' hq'
  rw [moveFrom, bind_of_ok hp', bind_of_ok hq', hmany]

end Play

namespace Step

variable {b : Rulebook} {s : Step}

/-- What a step leaves, also one that fails, is in line where it was before. -/
theorem keeps_inLine (h : s.game.HasLists) (hspares : s.SparesHands b) :
    (s.left b).game.HasLists ∧ ∀ a, s.game.InLine a → (s.left b).game.InLine a := by
  have hindifferent (hi : ∀ seats, Play.Indifferent seats (s.leaf.perform b)) :
      (s.left b).game.HasLists ∧ ∀ a, s.game.InLine a → (s.left b).game.InLine a := by
    rw [game_left]
    exact ⟨(hi [] { game := s.game } h).2, fun a ha => (hi [a]).inLine h ha⟩
  obtain ⟨l, hl⟩ := Game.Lays.of_players h
  have hlayout {l' : Layout} (hl' : (Play.gameOf (s.leaf.perform b { game := s.game })).Lays l')
      (hkeeps : ∀ q, l.Lined q → l'.Lined q) :
      (s.left b).game.HasLists ∧ ∀ a, s.game.InLine a → (s.left b).game.InLine a := by
    have hleft : (s.left b).game.Lays l' := (game_left b s).symm ▸ hl'
    exact ⟨hleft.hasLists, fun a => hl.keeps_inLine hleft (seats_left b s) hkeeps⟩
  obtain ⟨⟨c, o⟩, g⟩ := s
  simp only [Leaf.perform] at hlayout hindifferent
  cases o with
  | moveCard source target count param =>
    have hfinds := Play.findsPile_resolvePile (fun _ => True) hl (.text source) param c.params .null
    obtain ⟨l', hl', hkeeps, -⟩ := Play.moveFrom_spec hfinds target count.toNat
    exact hlayout hl' hkeeps
  | moveCardByIndex source target param =>
    have hfinds : Play.FindsPile (fun _ => True) g l (Play.indexedSource c source param) :=
      Play.findsPile_indexedSource hl c source param
    obtain ⟨l', hl', hkeeps, -⟩ := Play.moveFrom_spec hfinds target 1
    rw [← Play.moveCardByIndex_eq] at hl'
    exact hlayout hl' hkeeps
  | setFlag target flag value =>
    refine hlayout (Play.setFlag_still hl fun hset => ?_) fun _ hq => hq
    obtain ⟨r, hr⟩ := hset
    exact hspares (completes_of_ok (s := ⟨⟨c, .setFlag target flag value⟩, g⟩) hr)
  | advanceTurnOrder | resetTurnFlags | setPhase | log | scoreRound =>
    refine hlayout ((Play.perform_writes b c _).still ?_ ?_ { game := g } l hl) (fun _ hq => hq) <;>
      simp [Operation.parts]
  | revealAllHands => exact hindifferent fun _ => .revealAllHands
  | swapCards => exact hindifferent fun _ => .swapCards b c _ _ _ _ _
  | swapCardsWithPeek => exact hindifferent fun _ => .swapCardsWithPeek b c _ _ _ _
  | revealCard => exact hindifferent fun _ => .revealCard b c _ _

/-- A step that completes leaves the hands in line that it works on, and it works on them as if they
had been in line. -/
theorem lines (h : s.game.HasLists) (hok : s.completes b = true) :
    (∀ a ∈ s.hands b, (s.left b).game.InLine a) ∧
      ({ s with game := s.game.lineUp (s.hands b) } : Step).result b = s.result b := by
  obtain ⟨r, hr⟩ := ok_of_completes hok
  rw [left_of_ok hr, hr]
  have hindifferent (hi : Play.Indifferent (s.hands b) (s.leaf.perform b))
      (hin : ∀ a ∈ s.hands b, r.game.InLine a) :
      (∀ a ∈ s.hands b, r.game.InLine a) ∧
        ({ s with game := s.game.lineUp (s.hands b) } : Step).result b = .ok () r := by
    refine ⟨hin, ?_⟩
    have heq := (hi { game := s.game } h).1
    have hperform : s.leaf.perform b { game := s.game } = .ok () r := hr
    rw [hperform, Play.lineUpEnd, Run.lineUp, Run.lineUp, Game.lineUp_of_inLine hin] at heq
    exact heq
  obtain ⟨l, hl⟩ := Game.Lays.of_players h
  obtain ⟨⟨c, o⟩, g⟩ := s
  cases o with
  | moveCard source target count param =>
    have hfinds := Play.findsPile_resolvePile (fun _ => True) hl (.text source) param c.params .null
    exact Play.moveFrom_lines hl hfinds (Play.findsHand_resolvePile source param c.params .null)
      (fun _ => .resolvePile _ _ _ _) hr
  | moveCardByIndex source target param =>
    have hmove : Play.moveFrom (Play.indexedSource c source param) target 1 { game := g } =
        .ok () r := by
      rw [← Play.moveCardByIndex_eq]
      exact hr
    have := Play.moveFrom_lines hl (Play.findsPile_indexedSource hl c source param)
      (Play.findsHand_indexedSource c source param) (fun _ => .indexedSource c source param) hmove
    rwa [← Play.moveCardByIndex_eq] at this
  | swapCards fromPlayer toPlayer fromIndex toIndex reveal =>
    refine hindifferent (.swapCards b c _ _ _ _ _) fun a ha => ?_
    obtain ⟨sides, r₁, hsides, hfound⟩ := Play.bind_ok hr
    obtain ⟨rfl, ha⟩ := Play.side_of_swap hsides ha
    exact Play.Lines.swapFound reveal ha _ _ _ h hfound
  | swapCardsWithPeek fromPlayer toPlayer fromIndex toIndex =>
    refine hindifferent (.swapCardsWithPeek b c _ _ _ _) fun a ha => ?_
    obtain ⟨sides, r₁, hsides, hfound⟩ := Play.bind_ok hr
    obtain ⟨rfl, ha⟩ := Play.side_of_swap hsides ha
    exact Play.Lines.peekFound ha _ _ _ h hfound
  | revealCard target indexParam =>
    refine hindifferent (.revealCard b c _ _) fun a ha => ?_
    obtain ⟨seat, r₁, h₁, hfound⟩ := Play.bind_ok hr
    obtain ⟨rfl, hseat⟩ := Play.seatOf_ok h₁
    obtain ⟨ref, href, ha⟩ := List.mem_filterMap.1 ha
    rw [List.mem_singleton.1 href] at ha
    unfold Game.playerSeat? at ha
    rw [hseat] at ha
    cases ha
    have hlines : Play.Lines a (do
        let index ← Play.orFault (do asIndex? (← c.param? indexParam))
        let n ← Play.requiredSlot a index
        Play.revealFound a n) :=
      .after (.orFault _) fun _ => .after (.requiredSlot _) fun n => .revealFound n
    exact hlines _ _ _ h hfound
  | revealAllHands =>
    exact hindifferent .revealAllHands fun a ha => Play.Lines.revealHands ha _ _ _ h hr
  | setFlag | advanceTurnOrder | resetTurnFlags | setPhase | log | scoreRound =>
    refine ⟨fun a ha => absurd ha List.not_mem_nil, ?_⟩
    have hnone : g.lineUp [] = g := Game.lineUp_of_inLine fun a ha => absurd ha List.not_mem_nil
    simp only [hands, hnone]
    exact hr

end Step

/-! ## All calls -/

/-- What is known of flags after some steps of a game: it is in line where it was at the start, and
where a step that completed has lined up a hand. -/
structure Followed (b : Rulebook) (g : Game) (past : List Step) (h : Game) : Prop where
  lists : h.HasLists
  kept : ∀ a, g.InLine a → (∀ s ∈ past, (s.left b).game.InLine a) ∧ h.InLine a
  gained : ∀ s ∈ past, s.completes b = true →
    (∀ a ∈ s.hands b, (s.left b).game.InLine a ∧ h.InLine a) ∧
      ({ s with game := s.game.lineUp (s.hands b) } : Step).result b = s.result b

theorem Followed.step {b : Rulebook} {g : Game} {past : List Step} {s : Step}
    (h : Followed b g past s.game) (hspares : s.SparesHands b) :
    Followed b g (past ++ [s]) (s.left b).game := by
  obtain ⟨hlists, hkeeps⟩ := Step.keeps_inLine h.lists hspares
  refine ⟨hlists, fun a ha => ?_, fun t ht hok => ?_⟩
  · obtain ⟨hpast, hin⟩ := h.kept a ha
    refine ⟨fun t ht => ?_, hkeeps a hin⟩
    rcases List.mem_append.1 ht with ht | ht
    · exact hpast t ht
    · rw [List.mem_singleton.1 ht]
      exact hkeeps a hin
  · rcases List.mem_append.1 ht with ht | ht
    · obtain ⟨hhands, hresult⟩ := h.gained t ht hok
      exact ⟨fun a ha => ⟨(hhands a ha).1, hkeeps a (hhands a ha).2⟩, hresult⟩
    · obtain rfl := List.mem_singleton.1 ht
      obtain ⟨hin, hresult⟩ := Step.lines h.lists hok
      exact ⟨fun a ha => ⟨hin a ha, hin a ha⟩, hresult⟩

namespace Sample

/-- The first player has a flag too many and the second one none. -/
def misaligned : Game where
  deck := game.deck
  players :=
    [{ id := .int 1, name := .text "Ann", hand := .list [.text "AS"],
       known := .list [.bool true, .bool true] },
     { id := .int 2, name := .text "Bob", hand := .list [.text "AH"], known := .list [] }]

end Sample

/-- The card turned over is marked, the card drawn and the card given away are not. -/
example : (Sample.misaligned.after Sample.rulebook [Sample.trade]).players.map Player.known =
    [.list [.bool true, .bool false], .list [.bool false]] := by decide +kernel

end CardRules
