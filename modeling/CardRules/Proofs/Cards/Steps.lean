import CardRules.Proofs.Cards.Handling
import CardRules.Proofs.Play.Flags
import CardRules.Proofs.Play.Footprint

/-!
# What a step does to the cards

`Step.shifts`: the layout that a step leaves, also one that fails, is a shift of the one it finds.
The cards it puts into hands are `Step.puts`, those it shows `Step.Shows`. Operations other than
moves, swaps and reveals leave the cards alone (`Still`), flags written by rules into hands apart.
-/

namespace CardRules

namespace Play

variable {r : Run} {l : Layout} {a n : Nat} {s : Seat} {card : Value}

/-! ## Swapping -/

/-- A swap's places and the cards in them. -/
def swapped (b : Rulebook) (c : Circumstances) (fromPlayer toPlayer : String)
    (fromIndex toIndex : Option String) : Play (SwapSides × Value × Value) := do
  let s ← swapSides b c fromPlayer toPlayer fromIndex toIndex
  let fromCard ← cardAt s.fromSeat s.fromSlot
  let toCard ← cardAt s.toSeat s.toSlot
  return (s, fromCard, toCard)

/-- The layout after two cards have changed places. -/
def exchangedLayout (l : Layout) (s : SwapSides) (fromCard toCard : Value) (known : Bool) :
    Layout :=
  (((l.modify s.fromSeat (Seat.laid s.fromSlot toCard)).modify s.toSeat
    (Seat.laid s.toSlot fromCard)).modify s.fromSeat (Seat.marked s.fromSlot known)).modify s.toSeat
      (Seat.marked s.toSlot known)

theorem swapped_spec (h : r.game.Lays l) (b : Rulebook) (c : Circumstances)
    (fromPlayer toPlayer : String) (fromIndex toIndex : Option String) :
    (∃ e, swapped b c fromPlayer toPlayer fromIndex toIndex r = .error e r) ∨
      ∃ (s : SwapSides) (x y : Value),
        swapped b c fromPlayer toPlayer fromIndex toIndex r = .ok (s, x, y) r ∧
        (l.pile (.hand s.fromSeat))[s.fromSlot]? = some x ∧
        (l.pile (.hand s.toSeat))[s.toSlot]? = some y := by
  rcases ReadsAt.swapSides (r := r) b c fromPlayer toPlayer fromIndex toIndex with
    ⟨s, hs⟩ | ⟨e, he⟩
  · obtain ⟨-, -, -, hfrom, hto⟩ := swapSides_ok hs
    obtain ⟨x, hx⟩ := h.card_of_place hfrom
    obtain ⟨y, hy⟩ := h.card_of_place hto
    refine .inr ⟨s, x, y, ?_, hx, hy⟩
    rw [swapped, bind_of_ok hs, bind_of_ok (cardAt_spec h hx), bind_of_ok (cardAt_spec h hy)]
    rfl
  · exact .inl ⟨e, by rw [swapped, bind_of_error he]⟩

theorem exchangeCards_spec (h : r.game.Lays l) {s : SwapSides} {x y : Value}
    (hx : (l.pile (.hand s.fromSeat))[s.fromSlot]? = some x)
    (hy : (l.pile (.hand s.toSeat))[s.toSlot]? = some y) (known : Bool) :
    ∃ g', exchangeCards s x y known r = .ok () { r with game := g' } ∧
      g'.Lays (exchangedLayout l s x y known) := by
  obtain ⟨g₁, hlay₁, h₁⟩ := layCard_spec h hx y
  obtain ⟨g₂, hlay₂, h₂⟩ :=
    layCard_spec (r := { r with game := g₁ }) h₁ (Layout.card_of_laid hx hy) x
  have hfrom := Layout.lt_of_card hx
  have hto := Layout.lt_of_card hy
  obtain ⟨g₃, hmark₁, h₃⟩ := markKnown_spec (r := { r with game := g₂ }) h₂
    (by simpa using hfrom) s.fromSlot known
  obtain ⟨g₄, hmark₂, h₄⟩ := markKnown_spec (r := { r with game := g₃ }) h₃
    (by simpa using hto) s.toSlot known
  refine ⟨g₄, ?_, h₄⟩
  rw [exchangeCards, bind_of_ok hlay₁, bind_of_ok hlay₂, bind_of_ok hmark₁]
  exact hmark₂

/-! ## Showing -/

/-- The event shows a card: it is about that card, or about a hand with it. -/
def Reveals (event card : Value) : Prop :=
  (∃ id index, event = cardReveal id index card) ∨
    ∃ id hand, card ∈ hand ∧ event = handReveal id hand

theorem revealHand_apply {p : Player} (hp : r.game.players[a]? = some p) (h : p.Holds s) :
    revealHand a r = .ok ()
      { r with
        game := r.game.modifyPlayer a (Player.onSeat Seat.shown)
        events := r.events ++ [handReveal p.id s.cards] } := by
  have heq : { p with known := .list (List.replicate s.cards.length (.bool true)) } =
      p.onSeat Seat.shown := by rw [h.onSeat_eq, Seat.shown, ← h.hand]
  rw [revealHand, bind_of_ok (player_of hp), h.hand, Value.size?, bind_of_ok (orFault_ok _ r),
    bind_of_ok (modifyPlayer_apply _ _ _), modifyPlayer_congr hp heq]
  rfl

theorem revealHand_spec (h : r.game.Lays l) (ha : a < l.seats.length) :
    ∃ (g' : Game) (e : Value),
      revealHand a r = .ok () { r with game := g', events := r.events ++ [e] } ∧
      g'.Lays (l.modify a Seat.shown) ∧ ∀ card ∈ l.pile (.hand a), Reveals e card := by
  obtain ⟨s, hs⟩ : ∃ s, l.seats[a]? = some s := ⟨_, List.getElem?_eq_getElem ha⟩
  obtain ⟨p, hp, hholds⟩ := h.player hs
  refine ⟨_, _, revealHand_apply hp hholds, h.onSeat a Seat.shown, fun card hcard => ?_⟩
  rw [Layout.pile_hand hs] at hcard
  exact .inr ⟨p.id, s.cards, hcard, rfl⟩

theorem revealHands_spec (seats : List Nat) (h : r.game.Lays l)
    (hseats : ∀ a ∈ seats, a < l.seats.length) :
    ∃ (g' : Game) (es : List Value),
      seats.forM revealHand r = .ok () { r with game := g', events := r.events ++ es } ∧
      ∀ shown : Value → Prop, (∀ e ∈ es, ∀ card, Reveals e card → shown card) →
        ∃ l', g'.Lays l' ∧ Shift shown l [] l' := by
  induction seats generalizing r l with
  | nil => exact ⟨r.game, [], by rw [List.append_nil]; rfl, fun _ _ => ⟨l, h, .stay l⟩⟩
  | cons a seats ih =>
    obtain ⟨g₁, e, hone, h₁, he⟩ := revealHand_spec h (hseats a List.mem_cons_self)
    obtain ⟨g₂, es, hrest, h₂⟩ := ih (r := { r with game := g₁, events := r.events ++ [e] }) h₁
      fun b hb => by simpa using hseats b (List.mem_cons_of_mem _ hb)
    refine ⟨g₂, e :: es, ?_, fun shown hshown => ?_⟩
    · have hforM : (a :: seats).forM revealHand r =
          (revealHand a >>= fun _ => seats.forM revealHand) r := rfl
      rw [hforM, bind_of_ok hone, hrest]
      simp
    · obtain ⟨l', hl', hshift⟩ := h₂ shown fun e' he' =>
        hshown e' (List.mem_cons_of_mem _ he')
      have hhand : Shift shown l [] (l.modify a Seat.shown) :=
        .showHand fun card hcard => hshown e List.mem_cons_self card (he card hcard)
      exact ⟨l', hl', hhand.trans hshift⟩

/-! ## Leaving the cards alone -/

/-- The step leaves the cards and flags of every game as they lie, whether it ends well or fails. -/
def Still {α : Type} (x : Play α) : Prop :=
  ∀ (r : Run) (l : Layout), r.game.Lays l → (gameOf (x r)).Lays l

/-- A write to another part leaves them alone. -/
theorem lays_of_write {part : Part} (hcards : part ≠ .cards) (hflags : part ≠ .flags) {r' : Run}
    (hwrite : Write part r r') (h : r.game.Lays l) : r'.game.Lays l := by
  cases hwrite with
  | deck | discard | hand => exact absurd rfl hcards
  | flag => exact absurd rfl hflags
  | score => exact h.modify_else fun _ => ⟨rfl, rfl⟩
  | turn | contest | log | event => exact ⟨h.deck, h.discard, h.seats⟩

theorem Writes.still {α : Type} {parts : List Part} {x : Play α} (h : Writes parts x)
    (hcards : .cards ∉ parts) (hflags : .flags ∉ parts) : Still x := fun _ l hr =>
  h.keeps (M := fun g => g.Lays l) (fun _ hpart _ _ =>
    lays_of_write (ne_of_mem_of_not_mem hpart hcards) (ne_of_mem_of_not_mem hpart hflags)) hr

theorem setFlag_still {target flag : String} {value : Value} {g : Game} (h : g.Lays l)
    (hs : (∃ r, setFlag target flag value { game := g } = .ok () r) →
      (Operation.setFlag target flag value).SparesHands) :
    (gameOf (setFlag target flag value { game := g })).Lays l := by
  rcases setFlag_cases target flag value { game := g } with ⟨e, he⟩ | ⟨t, ht, hspared⟩
  · rw [he]
    exact h
  · rw [ht]
    cases t with
    | turn | round | contest => exact ⟨h.deck, h.discard, h.seats⟩
    | player a => exact h.modify_else fun p => hspared (hs ⟨_, ht⟩) a rfl p

/-! ## Steps -/

/-- Moves cards from a pile that is looked up to another. -/
def moveFrom (source : Play PileRef) (target : String) (n : Nat) : Play Unit := do
  let source ← source
  let target ← resolvePile (.text target) none .null .null
  moveMany source target n

/-- The pile that cards are moved from by an index that must be given. -/
def indexedSource (c : Circumstances) (source param : String) : Play PileRef := do
  let index ← orFault (c.param? (some param))
  if index = .null then fail (.missingParameter (some param))
  resolvePile (.text source) none .null index

theorem moveCard_eq (c : Circumstances) (source target : String) (count : Int)
    (param : Option String) :
    moveCard c source target count param =
      moveFrom (resolvePile (.text source) param c.params .null) target count.toNat := rfl

theorem moveCardByIndex_eq (c : Circumstances) (source target param : String) :
    moveCardByIndex c source target param = moveFrom (indexedSource c source param) target 1 := by
  simp only [moveCardByIndex, moveFrom, indexedSource, moveMany, bind_assoc, bind_pure_unit]
  refine bind_congr fun index => ?_
  split <;> simp only [bind_assoc]

/-- The cards that such a move puts into hands. -/
def putsOfMove (source : Play PileRef) (target : String) (n : Nat) (g : Game) :
    List (Nat × Value) :=
  match source { game := g } with
  | .error _ _ => []
  | .ok source r =>
    match resolvePile (.text target) none .null .null r with
    | .error _ _ => []
    | .ok target r => (movedCards source target n r.game).flatMap target.pile.receives

/-- The cards that a swap puts into hands. -/
def putsOfSwap (sides : Play (SwapSides × Value × Value)) (g : Game) : List (Nat × Value) :=
  match sides { game := g } with
  | .error _ _ => []
  | .ok (s, fromCard, toCard) _ => [(s.fromSeat, toCard), (s.toSeat, fromCard)]

theorem moveFrom_spec {g : Game} {l : Layout} {shown : Value → Prop} {source : Play PileRef}
    (hx : FindsPile shown g l source) (target : String) (n : Nat) :
    ∃ l', (gameOf (moveFrom source target n { game := g })).Lays l' ∧
      (∀ q, l.Lined q → l'.Lined q) ∧
      (Value.null ∉ l.cards → Shift shown l (putsOfMove source target n g) l') := by
  obtain ⟨g₁, l₁, h₁, hshift₁, hkeeps₁, hfound⟩ := hx
  rcases hfound with ⟨p, hp, hlined⟩ | ⟨e, he⟩
  · obtain ⟨g₂, l₂, h₂, hshift₂, hkeeps₂, hfound⟩ :=
      findsPile_resolvePile shown h₁ (.text target) none .null .null
    rcases hfound with ⟨q, hq, hlined'⟩ | ⟨e, he⟩
    · obtain ⟨g₃, l₃, hmany, h₃, hkeeps₃, hshift₃⟩ :=
        moveMany_spec shown n h₂ (hkeeps₂ _ hlined) hlined'
      refine ⟨l₃, ?_, fun q hq => hkeeps₃ q (hkeeps₂ q (hkeeps₁ q hq)), fun hn => ?_⟩
      · rw [moveFrom, bind_of_ok hp, bind_of_ok hq, hmany]
        exact h₃
      · have hn₂ : Value.null ∉ l₂.cards := fun hmem =>
          hn (hshift₁.perm.mem_iff.1 (hshift₂.perm.mem_iff.1 hmem))
        simp only [putsOfMove, hp, hq]
        exact hshift₁.trans (hshift₂.trans (hshift₃ hn₂))
    · refine ⟨l₂, ?_, fun q hq => hkeeps₂ q (hkeeps₁ q hq), fun _ => ?_⟩
      · rw [moveFrom, bind_of_ok hp, bind_of_error he]
        exact h₂
      · simp only [putsOfMove, hp, he]
        exact hshift₁.trans hshift₂
  · refine ⟨l₁, ?_, hkeeps₁, fun _ => ?_⟩
    · rw [moveFrom, bind_of_error he]
      exact h₁
    · simp only [putsOfMove, he]
      exact hshift₁

theorem findsPile_indexedSource {g : Game} {l : Layout} {shown : Value → Prop} (h : g.Lays l)
    (c : Circumstances) (source param : String) :
    FindsPile shown g l (indexedSource c source param) := by
  unfold indexedSource
  cases hi : c.param? (some param) with
  | error f => exact findsPile_error (e := .fault f) h rfl
  | ok index =>
    by_cases hnull : index = .null
    · refine findsPile_error (e := .of (.missingParameter (some param))) h ?_
      rw [bind_of_ok (orFault_ok index _), if_pos hnull]
      rfl
    · obtain ⟨g', l', h', hshift, hkeeps, hfound⟩ :=
        findsPile_resolvePile shown h (.text source) none .null index
      refine ⟨g', l', h', hshift, hkeeps, ?_⟩
      rw [bind_of_ok (orFault_ok index _), if_neg hnull]
      exact hfound

/-- The cards that change places, if both are shown wherever they end marked. -/
theorem exchanged_shift {l : Layout} {shown : Value → Prop} {s : SwapSides} {x y : Value}
    (hx : (l.pile (.hand s.fromSeat))[s.fromSlot]? = some x)
    (hy : (l.pile (.hand s.toSeat))[s.toSlot]? = some y) {known : Bool}
    (hshown : known = true → shown x ∧ shown y) :
    Shift shown l [(s.fromSeat, y), (s.toSeat, x)] (exchangedLayout l s x y known) :=
  .swap known hx hy hshown

/-- A swap is what it does with the places found; if they are not found nothing changes. -/
theorem swapped_bind_spec {g : Game} {l : Layout} {shown : Value → Prop} (h : g.Lays l)
    (b : Rulebook) (c : Circumstances) (fromPlayer toPlayer : String)
    (fromIndex toIndex : Option String) {f : SwapSides × Value × Value → Play Unit}
    (hf : ∀ s x y, swapped b c fromPlayer toPlayer fromIndex toIndex { game := g } =
        .ok (s, x, y) { game := g } →
      (l.pile (.hand s.fromSeat))[s.fromSlot]? = some x →
      (l.pile (.hand s.toSeat))[s.toSlot]? = some y →
      ∃ l', (gameOf (f (s, x, y) { game := g })).Lays l' ∧
        Shift shown l [(s.fromSeat, y), (s.toSeat, x)] l') :
    ∃ l', (gameOf ((swapped b c fromPlayer toPlayer fromIndex toIndex >>= f)
        { game := g })).Lays l' ∧
      Shift shown l (putsOfSwap (swapped b c fromPlayer toPlayer fromIndex toIndex) g) l' := by
  rcases swapped_spec (r := { game := g }) h b c fromPlayer toPlayer fromIndex toIndex with
    ⟨e, he⟩ | ⟨s, x, y, hok, hx, hy⟩
  · refine ⟨l, ?_, ?_⟩
    · rw [bind_of_error he]
      exact h
    · simp only [putsOfSwap, he]
      exact .stay l
  · rw [bind_of_ok hok]
    simp only [putsOfSwap, hok]
    exact hf s x y hok hx hy

theorem swapCards_spec {g : Game} {l : Layout} {shown : Value → Prop} (h : g.Lays l)
    (b : Rulebook) (c : Circumstances) (fromPlayer toPlayer : String)
    (fromIndex toIndex : Option String) (reveal : Bool)
    (hshown : ∀ r, swapCards b c fromPlayer toPlayer fromIndex toIndex reveal { game := g } =
      .ok () r → ∀ e ∈ r.events, ∀ card, Reveals e card → shown card) :
    ∃ l', (gameOf (swapCards b c fromPlayer toPlayer fromIndex toIndex reveal
        { game := g })).Lays l' ∧
      Shift shown l (putsOfSwap (swapped b c fromPlayer toPlayer fromIndex toIndex) g) l' := by
  have heq : swapCards b c fromPlayer toPlayer fromIndex toIndex reveal =
      (swapped b c fromPlayer toPlayer fromIndex toIndex >>= fun t => do
        exchangeCards t.1 t.2.1 t.2.2 reveal
        if reveal then
          emit (cardReveal (← idOf t.1.fromSeat) t.1.fromSlot t.2.2)
          emit (cardReveal (← idOf t.1.toSeat) t.1.toSlot t.2.1)) := by
    simp only [swapCards, swapped, bind_assoc, pure_bind]
  rw [heq] at hshown ⊢
  refine swapped_bind_spec h b c fromPlayer toPlayer fromIndex toIndex fun s x y hok hx hy => ?_
  obtain ⟨g', hexchange, h'⟩ := exchangeCards_spec (r := { game := g }) h hx hy reveal
  rw [bind_of_ok hok] at hshown
  dsimp only at hshown ⊢
  rw [bind_of_ok hexchange] at hshown ⊢
  refine ⟨exchangedLayout l s x y reveal, ?_⟩
  cases reveal with
  | false => exact ⟨h', exchanged_shift hx hy (by simp)⟩
  | true =>
    have hfrom : s.fromSeat < (exchangedLayout l s x y true).seats.length := by
      simpa [exchangedLayout] using Layout.lt_of_card hx
    have hto : s.toSeat < (exchangedLayout l s x y true).seats.length := by
      simpa [exchangedLayout] using Layout.lt_of_card hy
    obtain ⟨id, hid⟩ := idOf_spec (r := { game := g' }) h' hfrom
    obtain ⟨id', hid'⟩ := idOf_spec
      (r := { game := g', events := [] ++ [cardReveal id s.fromSlot y] }) h' hto
    rw [if_pos rfl, bind_of_ok hid, bind_of_ok (emit_apply _ _), bind_of_ok hid',
      emit_apply] at hshown ⊢
    have hevents := hshown _ rfl
    refine ⟨h', exchanged_shift hx hy fun _ => ⟨?_, ?_⟩⟩
    · exact hevents (cardReveal id' s.toSlot x) (by simp) x (.inl ⟨_, _, rfl⟩)
    · exact hevents (cardReveal id s.fromSlot y) (by simp) y (.inl ⟨_, _, rfl⟩)

theorem swapCardsWithPeek_spec {g : Game} {l : Layout} {shown : Value → Prop} (h : g.Lays l)
    (b : Rulebook) (c : Circumstances) (fromPlayer toPlayer : String)
    (fromIndex toIndex : Option String)
    (hshown : ∀ r, swapCardsWithPeek b c fromPlayer toPlayer fromIndex toIndex { game := g } =
      .ok () r → ∀ e ∈ r.events, ∀ card, Reveals e card → shown card) :
    ∃ l', (gameOf (swapCardsWithPeek b c fromPlayer toPlayer fromIndex toIndex
        { game := g })).Lays l' ∧
      Shift shown l (putsOfSwap (swapped b c fromPlayer toPlayer fromIndex toIndex) g) l' := by
  have heq : swapCardsWithPeek b c fromPlayer toPlayer fromIndex toIndex =
      (swapped b c fromPlayer toPlayer fromIndex toIndex >>= fun t => do
        emit (cardReveal (← idOf t.1.fromSeat) t.1.fromSlot t.2.1)
        emit (cardReveal (← idOf t.1.toSeat) t.1.toSlot t.2.2)
        exchangeCards t.1 t.2.1 t.2.2 true) := by
    simp only [swapCardsWithPeek, swapped, bind_assoc, pure_bind]
  rw [heq] at hshown ⊢
  refine swapped_bind_spec h b c fromPlayer toPlayer fromIndex toIndex fun s x y hok hx hy => ?_
  obtain ⟨id, hid⟩ := idOf_spec (r := { game := g }) h (Layout.lt_of_card hx)
  obtain ⟨id', hid'⟩ := idOf_spec
    (r := { game := g, events := [] ++ [cardReveal id s.fromSlot x] }) h (Layout.lt_of_card hy)
  -- the cards are shown where they lie before the swap
  obtain ⟨g', hexchange, h'⟩ := exchangeCards_spec
    (r := { game := g, events := ([] ++ [cardReveal id s.fromSlot x]) ++
      [cardReveal id' s.toSlot y] }) h hx hy true
  rw [bind_of_ok hok] at hshown
  dsimp only at hshown ⊢
  rw [bind_of_ok hid, bind_of_ok (emit_apply _ _), bind_of_ok hid', bind_of_ok (emit_apply _ _),
    hexchange] at hshown ⊢
  have hevents := hshown _ rfl
  refine ⟨exchangedLayout l s x y true, h', exchanged_shift hx hy fun _ => ⟨?_, ?_⟩⟩
  · exact hevents (cardReveal id s.fromSlot x) (by simp) x (.inl ⟨_, _, rfl⟩)
  · exact hevents (cardReveal id' s.toSlot y) (by simp) y (.inl ⟨_, _, rfl⟩)

theorem revealCard_spec {g : Game} {l : Layout} {shown : Value → Prop} (h : g.Lays l)
    (b : Rulebook) (c : Circumstances) (target : String) (indexParam : Option String)
    (hshown : ∀ r, revealCard b c target indexParam { game := g } = .ok () r →
      ∀ e ∈ r.events, ∀ card, Reveals e card → shown card) :
    ∃ l', (gameOf (revealCard b c target indexParam { game := g })).Lays l' ∧
      Shift shown l [] l' := by
  have hstay {e : Failure}
      (he : revealCard b c target indexParam { game := g } = .error e { game := g }) :
      ∃ l', (gameOf (revealCard b c target indexParam { game := g })).Lays l' ∧
        Shift shown l [] l' := ⟨l, by rw [he]; exact h, .stay l⟩
  rcases ReadsAt.seatOf (r := { game := g }) b c target with ⟨a, ha⟩ | ⟨e, he⟩
  case inr => exact hstay (by rw [revealCard, bind_of_error he])
  rcases ReadsAt.orFault (r := { game := g }) (do asIndex? (← c.param? indexParam)) with
    ⟨index, hindex⟩ | ⟨e, he⟩
  case inr => exact hstay (by rw [revealCard, bind_of_ok ha, bind_of_error he])
  rcases ReadsAt.requiredSlot (r := { game := g }) a index with ⟨n, hn⟩ | ⟨e, he⟩
  case inr => exact hstay (by rw [revealCard, bind_of_ok ha, bind_of_ok hindex, bind_of_error he])
  obtain ⟨-, hplace⟩ := requiredSlot_ok hn
  obtain ⟨card, hcard⟩ := h.card_of_place hplace
  have hlt := Layout.lt_of_card hcard
  obtain ⟨g', hmark, h'⟩ := markKnown_spec (r := { game := g }) h hlt n true
  obtain ⟨id, hid⟩ := idOf_spec (r := { game := g' }) h' (by simpa using hlt)
  have hcard' := cardAt_spec (r := { game := g' }) h' (by rwa [Layout.pile_marked])
  rw [revealCard, bind_of_ok ha, bind_of_ok hindex, bind_of_ok hn, bind_of_ok hmark,
    bind_of_ok hid, bind_of_ok hcard', emit_apply] at hshown ⊢
  have hevents := hshown _ rfl
  exact ⟨_, h', .mark hcard (hevents (cardReveal id n card) (by simp) card (.inl ⟨_, _, rfl⟩))⟩

end Play

namespace Step

/-- The cards that a step puts into hands, with the seats. -/
def puts (b : Rulebook) (s : Step) : List (Nat × Value) :=
  let c := s.leaf.circumstances
  match s.leaf.operation with
  | .moveCard source target count param =>
    Play.putsOfMove (Play.resolvePile (.text source) param c.params .null) target count.toNat s.game
  | .moveCardByIndex source target param =>
    Play.putsOfMove (Play.indexedSource c source param) target 1 s.game
  | .swapCards fromPlayer toPlayer fromIndex toIndex _
  | .swapCardsWithPeek fromPlayer toPlayer fromIndex toIndex =>
    Play.putsOfSwap (Play.swapped b c fromPlayer toPlayer fromIndex toIndex) s.game
  | _ => []

/-- The step shows a card. -/
def Shows (b : Rulebook) (s : Step) (card : Value) : Prop :=
  ∃ e ∈ (s.left b).events, Play.Reveals e card

/-- What a step does to the cards, also when it fails: a shift of the layout it finds. -/
theorem shifts {b : Rulebook} {s : Step} {l : Layout} (h : s.game.Lays l)
    (hn : Value.null ∉ l.cards) (hspares : s.SparesHands b) :
    ∃ l', (s.left b).game.Lays l' ∧ Shift (s.Shows b) l (s.puts b) l' := by
  obtain ⟨⟨c, o⟩, g⟩ := s
  have hshown : ∀ r, Play.perform b c o { game := g } = .ok () r →
      ∀ e ∈ r.events, ∀ card, Play.Reveals e card → Step.Shows b ⟨⟨c, o⟩, g⟩ card := by
    intro r hr e he card hcard
    refine ⟨e, ?_, hcard⟩
    rwa [left_of_ok (s := ⟨⟨c, o⟩, g⟩) hr]
  simp only [puts]
  rw [game_left]
  simp only [result, Leaf.perform]
  cases o with
  | moveCard source target count param =>
    rw [Play.perform, Play.moveCard_eq]
    obtain ⟨l', hl', -, hshift⟩ :=
      Play.moveFrom_spec (Play.findsPile_resolvePile _ h _ _ _ _) target count.toNat
    exact ⟨l', hl', hshift hn⟩
  | moveCardByIndex source target param =>
    rw [Play.perform, Play.moveCardByIndex_eq]
    obtain ⟨l', hl', -, hshift⟩ :=
      Play.moveFrom_spec (Play.findsPile_indexedSource h c source param) target 1
    exact ⟨l', hl', hshift hn⟩
  | setFlag target flag value =>
    refine ⟨l, Play.setFlag_still h fun ⟨r, hr⟩ => ?_, .stay l⟩
    exact hspares (completes_of_ok (s := ⟨⟨c, .setFlag target flag value⟩, g⟩) hr)
  | advanceTurnOrder | resetTurnFlags | setPhase | log | scoreRound =>
    refine ⟨l, (Play.perform_writes b c _).still ?_ ?_ _ l h, .stay l⟩ <;> simp [Operation.parts]
  | revealAllHands =>
    have hseats : ∀ a ∈ List.range g.seats, a < l.seats.length := by
      intro a ha
      rw [← h.seats.length_eq]
      exact List.mem_range.1 ha
    obtain ⟨g', es, hok, hshift⟩ :=
      Play.revealHands_spec (r := { game := g }) (List.range g.seats) h hseats
    have hok' : Play.perform b c .revealAllHands { game := g } =
        .ok () { game := g', events := es } := hok
    rw [hok']
    exact hshift _ fun e he card hcard => hshown _ hok' e he card hcard
  | swapCards fromPlayer toPlayer fromIndex toIndex reveal =>
    exact Play.swapCards_spec h b c fromPlayer toPlayer fromIndex toIndex reveal hshown
  | swapCardsWithPeek fromPlayer toPlayer fromIndex toIndex =>
    exact Play.swapCardsWithPeek_spec h b c fromPlayer toPlayer fromIndex toIndex hshown
  | revealCard target indexParam => exact Play.revealCard_spec h b c target indexParam hshown

/-- Into a hand comes only what the step puts there. -/
theorem mem_hand_left {b : Rulebook} {s : Step} {l : Layout} (h : s.game.Lays l)
    (hn : Value.null ∉ l.cards) (hspares : s.SparesHands b) {a : Nat} {p : Player}
    {hand : List Value} (hp : (s.left b).game.players[a]? = some p) (hhand : p.hand = .list hand)
    {card : Value} (hcard : card ∈ hand) : card ∈ l.pile (.hand a) ∨ (a, card) ∈ s.puts b := by
  obtain ⟨l', hl', hshift⟩ := shifts h hn hspares
  obtain ⟨t, ht, hholds⟩ := hl'.seat hp
  rw [hholds.hand] at hhand
  cases hhand
  exact hshift.mem_hand (by rwa [Layout.pile_hand ht])

end Step

end CardRules
