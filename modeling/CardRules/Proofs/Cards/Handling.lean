import CardRules.Proofs.Cards.Layout
import CardRules.Proofs.Play.Footprint
import CardRules.Proofs.Play.Reading

/-!
# Handling cards

How the cards of a game are handled whose piles and flags are lists (`Game.Lays`), one lemma for
each way: cards are taken (`take_spec`), put (`put_spec`), moved (`moveMany_spec`), laid down
(`layCard_spec`) and marked (`markKnown_spec`), and piles are looked up (`findsPile_resolvePile`).
None of these fails once the pile or place is found, and each leaves the layout that it says.
-/

namespace CardRules

/-! ## Games with a layout -/

/-- The player holds what lies at a seat. -/
structure Player.Holds (p : Player) (s : Seat) : Prop where
  hand : p.hand = .list s.cards
  known : p.known = .list s.flags

namespace Player

/-- The player with hand and flags changed like those at a seat, if they are lists. -/
def onSeat (f : Seat → Seat) (p : Player) : Player :=
  match p.hand, p.known with
  | .list cards, .list flags =>
    { p with hand := .list (f ⟨cards, flags⟩).cards, known := .list (f ⟨cards, flags⟩).flags }
  | _, _ => p

variable {p : Player} {s : Seat}

theorem Holds.onSeat_eq (h : p.Holds s) (f : Seat → Seat) :
    p.onSeat f = { p with hand := .list (f s).cards, known := .list (f s).flags } := by
  simp [Player.onSeat, h.hand, h.known]

theorem Holds.onSeat (h : p.Holds s) (f : Seat → Seat) : (p.onSeat f).Holds (f s) := by
  rw [h.onSeat_eq]
  exact ⟨rfl, rfl⟩

end Player

/-- The game has a layout. -/
structure Game.Lays (g : Game) (l : Layout) : Prop where
  deck : g.deck = l.deck
  discard : g.discard = l.discard
  seats : List.Forall₂ Player.Holds g.players l.seats

namespace Game.Lays

variable {g : Game} {l : Layout} {a : Nat}

theorem player (h : g.Lays l) {s : Seat} (hs : l.seats[a]? = some s) :
    ∃ p, g.players[a]? = some p ∧ p.Holds s := by
  obtain ⟨hlt, rfl⟩ := List.getElem?_eq_some_iff.1 hs
  have hlt' : a < g.players.length := by rwa [h.seats.length_eq]
  exact ⟨_, List.getElem?_eq_getElem hlt', h.seats.get hlt' hlt⟩

theorem seat (h : g.Lays l) {p : Player} (hp : g.players[a]? = some p) :
    ∃ s, l.seats[a]? = some s ∧ p.Holds s := by
  obtain ⟨hlt, rfl⟩ := List.getElem?_eq_some_iff.1 hp
  have hlt' : a < l.seats.length := by rwa [← h.seats.length_eq]
  exact ⟨_, List.getElem?_eq_getElem hlt', h.seats.get hlt hlt'⟩

theorem forall₂_modify {f : Player → Player} {f' : Seat → Seat} {ps : List Player}
    {ss : List Seat} (h : List.Forall₂ Player.Holds ps ss) :
    ∀ a, (∀ p s, ss[a]? = some s → p.Holds s → (f p).Holds (f' s)) →
      List.Forall₂ Player.Holds (ps.modify a f) (ss.modify a f') := by
  induction h with
  | nil => intro a _; simp
  | @cons p s ps ss hp hps ih =>
    intro a hf
    cases a with
    | zero =>
      rw [List.modify_zero_cons, List.modify_zero_cons]
      exact .cons (hf p s rfl hp) hps
    | succ a =>
      rw [List.modify_succ_cons, List.modify_succ_cons]
      exact .cons hp (ih a fun p s hs => hf p s (by simpa using hs))

/-- A change to a player is a change to its seat. -/
theorem modify (h : g.Lays l) {f : Player → Player} {f' : Seat → Seat}
    (hf : ∀ p s, l.seats[a]? = some s → p.Holds s → (f p).Holds (f' s)) :
    (g.modifyPlayer a f).Lays (l.modify a f') :=
  ⟨h.deck, h.discard, forall₂_modify h.seats a hf⟩

/-- A change to the player who holds what lies at a seat. -/
theorem modify_at (h : g.Lays l) {s : Seat} (hs : l.seats[a]? = some s) {f : Player → Player}
    {f' : Seat → Seat} (hf : ∀ p : Player, p.Holds s → (f p).Holds (f' s)) :
    (g.modifyPlayer a f).Lays (l.modify a f') := by
  refine h.modify fun p s' hs' hp => ?_
  obtain rfl : s = s' := Option.some.inj (hs.symm.trans hs')
  exact hf p hp

theorem onSeat (h : g.Lays l) (a : Nat) (f : Seat → Seat) :
    (g.modifyPlayer a (Player.onSeat f)).Lays (l.modify a f) :=
  h.modify fun _ _ _ hp => hp.onSeat f

/-- What is no card and no flag is not in the layout. -/
theorem modify_else (h : g.Lays l) {f : Player → Player}
    (hf : ∀ p, (f p).hand = p.hand ∧ (f p).known = p.known) : (g.modifyPlayer a f).Lays l := by
  have hkeep : ∀ p s, l.seats[a]? = some s → p.Holds s → (f p).Holds (id s) := fun p s _ hp =>
    ⟨(hf p).1.trans hp.hand, (hf p).2.trans hp.known⟩
  simpa [Layout.modify] using h.modify hkeep

theorem allCards (h : g.Lays l) : g.allCards? = .ok l.cards := by
  have hhands {ps : List Player} {ss : List Seat} (h : List.Forall₂ Player.Holds ps ss) :
      (ps.mapM fun p => p.hand.parts?) = .ok (ss.map Seat.cards) := by
    induction h with
    | nil => rfl
    | cons hp _ ih =>
      rw [List.mapM_cons, ih, hp.hand]
      rfl
  simp only [Game.allCards?, hhands h.seats, h.deck, h.discard, Layout.cards, List.flatMap]
  rfl

/-- A game has a layout whose players' hands and flags are lists. -/
theorem of_players {g : Game} (h : ∀ p ∈ g.players, ∃ s : Seat, p.Holds s) : ∃ l, g.Lays l := by
  have hseats (ps : List Player) (hps : ∀ p ∈ ps, ∃ s : Seat, p.Holds s) :
      ∃ ss, List.Forall₂ Player.Holds ps ss := by
    induction ps with
    | nil => exact ⟨[], .nil⟩
    | cons p ps ih =>
      obtain ⟨s, hs⟩ := hps p List.mem_cons_self
      obtain ⟨ss, hss⟩ := ih fun q hq => hps q (List.mem_cons_of_mem _ hq)
      exact ⟨s :: ss, .cons hs hss⟩
  obtain ⟨ss, hss⟩ := hseats g.players h
  exact ⟨⟨g.deck, g.discard, ss⟩, rfl, rfl, hss⟩

/-- A place of a hand holds a card. -/
theorem card_of_place (h : g.Lays l) {n : Nat} (hn : g.HasPlace a n) :
    ∃ card, (l.pile (.hand a))[n]? = some card := by
  obtain ⟨p, size, hp, hsize, hlt⟩ := hn
  obtain ⟨s, hs, hholds⟩ := h.seat hp
  rw [hholds.hand] at hsize
  cases hsize
  exact ⟨_, by rw [Layout.pile_hand hs, List.getElem?_eq_getElem hlt]⟩

end Game.Lays

/-- If the pile is a hand, it has a flag for each card. -/
def Layout.Lined (l : Layout) (p : Pile) : Prop :=
  ∀ a, p = .hand a → ∃ s, l.seats[a]? = some s ∧ s.Parallel

namespace Play

variable {r : Run} {l : Layout} {a n : Nat} {s : Seat} {card : Value}

/-! ## Flags in line -/

theorem aligned?_eq {p : Player} (h : p.Holds s) :
    ∃ q, p.aligned? = .ok q ∧ q.Holds s.lined := by
  unfold Player.aligned?
  rw [h.hand, h.known]
  simp only [Value.size?]
  by_cases hlt : s.flags.length < s.cards.length
  · refine ⟨_, by simp only [bind, Except.bind, if_pos hlt]; rfl, rfl, ?_⟩
    simp [Seat.lined, List.take_of_length_le (Nat.le_of_lt hlt)]
  · by_cases hgt : s.cards.length < s.flags.length
    · refine ⟨_, by simp only [bind, Except.bind, if_neg hlt, if_pos hgt]; rfl, rfl, ?_⟩
      have : s.cards.length - s.flags.length = 0 := by omega
      simp [Seat.lined, this]
    · have heq : s.flags.length = s.cards.length := by omega
      refine ⟨p, by simp only [bind, Except.bind, if_neg hlt, if_neg hgt]; rfl, ?_⟩
      rw [Seat.lined_of_parallel heq]
      exact h

theorem align_apply {p : Player} (hp : r.game.players[a]? = some p) (h : p.Holds s) :
    align a r =
      .ok () { r with game := r.game.modifyPlayer a (Player.onSeat Seat.lined) } := by
  obtain ⟨q, hq, hlined⟩ := aligned?_eq h
  have heq : q = p.onSeat Seat.lined := by
    rw [Player.aligned?_ok hq, hlined.known, h.onSeat_eq, Seat.lined, ← h.hand]
  rw [align, bind_of_ok (player_of hp), hq, bind_of_ok (orFault_ok q r), modifyPlayer_apply,
    modifyPlayer_congr hp heq]

theorem align_spec (h : r.game.Lays l) (hs : l.seats[a]? = some s) :
    ∃ g', align a r = .ok () { r with game := g' } ∧ g'.Lays (l.modify a Seat.lined) := by
  obtain ⟨p, hp, hholds⟩ := h.player hs
  exact ⟨_, align_apply hp hholds, h.onSeat a Seat.lined⟩

/-! ## Taking and putting -/

theorem takeAt_spec (xs : List Value) (ref : PileRef) (store : List Value → Game → Game) (r : Run) :
    takeAt xs ref store r = .ok .null r ∨
      ∃ (n : Nat) (card : Value), xs[n]? = some card ∧
        takeAt xs ref store r = .ok card { r with game := store (xs.eraseIdx n) r.game } := by
  cases xs with
  | nil => exact .inl rfl
  | cons x xs =>
    simp only [takeAt]
    cases h : (PileRef.slot? ref (x :: xs).length).bind
        fun n => (x :: xs)[n]?.map fun card => (n, card) with
    | none => exact .inl rfl
    | some nc =>
      obtain ⟨m, -, hm⟩ := Option.bind_eq_some_iff.1 h
      obtain ⟨card, hcard, rfl⟩ := Option.map_eq_some_iff.1 hm
      exact .inr ⟨m, card, hcard, rfl⟩

theorem takeFromHand_spec (h : r.game.Lays l) (hs : l.seats[a]? = some s) (hp : s.Parallel)
    (ref : PileRef) :
    takeFromHand a ref r = .ok .null r ∨
      ∃ (n : Nat) (card : Value) (g' : Game), s.cards[n]? = some card ∧
        takeFromHand a ref r = .ok card { r with game := g' } ∧
        g'.Lays (l.modify a (·.without n)) := by
  obtain ⟨p, hplayer, hholds⟩ := h.player hs
  unfold takeFromHand
  rw [bind_of_ok (player_of hplayer), hholds.hand]
  cases hvoid : (Value.list s.cards).isVoid with
  | true => exact .inl rfl
  | false =>
    rw [if_neg (by simp), Value.size?, bind_of_ok (orFault_ok _ r)]
    cases hn : PileRef.slot? ref s.cards.length with
    | none => exact .inl rfl
    | some n =>
      dsimp only
      cases hcard : s.cards[n]? with
      | none => exact .inl rfl
      | some card =>
        have hlt : n < s.flags.length := by
          have := (List.getElem?_eq_some_iff.1 hcard).1
          rw [Seat.Parallel] at hp
          omega
        refine .inr ⟨n, card, r.game.modifyPlayer a fun p =>
          { p with hand := .list (s.cards.eraseIdx n), known := .list (s.flags.eraseIdx n) },
          hcard, ?_, ?_⟩
        · -- the card goes first, then its flag
          dsimp only
          rw [bind_of_ok (modifyPlayer_apply a _ r),
            bind_of_ok (dropFlag_of (p := { p with hand := .list (s.cards.eraseIdx n) })
              (player_modifyPlayer hplayer _) hholds.known hlt)]
          dsimp only
          rw [modifyPlayer_modifyPlayer]
          rfl
        · exact h.modify_at hs fun _ _ => ⟨rfl, rfl⟩

theorem take_spec (h : r.game.Lays l) (ref : PileRef) (hl : l.Lined ref.pile) :
    take ref r = .ok .null r ∨
      ∃ (n : Nat) (card : Value) (g' : Game), (l.pile ref.pile)[n]? = some card ∧
        take ref r = .ok card { r with game := g' } ∧ g'.Lays (l.without ref.pile n) := by
  obtain ⟨p, index⟩ := ref
  cases p with
  | deck =>
    rcases takeAt_spec r.game.deck ⟨.deck, index⟩ (fun xs g => { g with deck := xs }) r with
      htake | ⟨n, card, hn, htake⟩
    · exact .inl htake
    · rw [h.deck] at hn
      exact .inr ⟨n, card, _, hn, htake, by rw [h.deck]; rfl, h.discard, h.seats⟩
  | discard =>
    rcases takeAt_spec r.game.discard ⟨.discard, index⟩
      (fun xs g => { g with discard := xs }) r with htake | ⟨n, card, hn, htake⟩
    · exact .inl htake
    · rw [h.discard] at hn
      exact .inr ⟨n, card, _, hn, htake, h.deck, by rw [h.discard]; rfl, h.seats⟩
  | hand a =>
    obtain ⟨s, hs, hp⟩ := hl a rfl
    rcases takeFromHand_spec h hs hp ⟨.hand a, index⟩ with htake | ⟨n, card, g', hn, htake, h'⟩
    · exact .inl htake
    · exact .inr ⟨n, card, g', by rwa [Layout.pile_hand hs], htake, h'⟩

theorem put_spec (h : r.game.Lays l) (ref : PileRef) (hq : l.Has ref.pile) (card : Value) :
    ∃ g', put ref card r = .ok () { r with game := g' } ∧ g'.Lays (l.onTop ref.pile card) := by
  obtain ⟨p, index⟩ := ref
  cases p with
  | deck => exact ⟨_, rfl, by simp [Layout.onTop, h.deck], h.discard, h.seats⟩
  | discard => exact ⟨_, rfl, h.deck, by simp [Layout.onTop, h.discard], h.seats⟩
  | hand a =>
    obtain ⟨s, hs⟩ : ∃ s, l.seats[a]? = some s := ⟨_, List.getElem?_eq_getElem hq⟩
    obtain ⟨p, hp, hholds⟩ := h.player hs
    refine ⟨r.game.modifyPlayer a fun p =>
      { p with hand := .list (s.cards ++ [card]), known := .list (s.flags ++ [.bool false]) },
      ?_, ?_⟩
    · unfold put
      dsimp only
      rw [bind_of_ok (player_of hp), hholds.hand]
      dsimp only
      rw [bind_of_ok (modifyPlayer_apply a _ r),
        bind_of_ok (player_of (p := { p with hand := .list (s.cards ++ [card]) })
          (player_modifyPlayer hp _)), hholds.known]
      dsimp only
      rw [modifyPlayer_apply]
      dsimp only
      rw [modifyPlayer_modifyPlayer]
      rfl
    · exact h.modify_at hs fun _ _ => ⟨rfl, rfl⟩

/-! ## Moving -/

/-- The cards that moving `n` times takes from the source and puts on the target. -/
def movedCards (source target : PileRef) : Nat → Game → List Value
  | 0, _ => []
  | n + 1, g =>
    let moved := match take source { game := g } with
      | .ok card _ => if card = .null then [] else [card]
      | .error _ _ => []
    moved ++ movedCards source target n (gameOf (moveOne source target { game := g }))

theorem lined_modify {f : Seat → Seat} (hf : ∀ s : Seat, s.Parallel → (f s).Parallel) {q : Pile}
    (h : l.Lined q) (a : Nat) : (l.modify a f).Lined q := by
  intro b hq
  obtain ⟨s, hs, hp⟩ := h b hq
  rw [Layout.seats_modify, hs]
  split
  · exact ⟨f s, rfl, hf s hp⟩
  · exact ⟨s, rfl, hp⟩

theorem lined_without {p q : Pile} (h : l.Lined q) : (l.without p n).Lined q := by
  cases p with
  | deck => exact h
  | discard => exact h
  | hand a => exact lined_modify (fun s hs => Seat.parallel_without hs n) h a

theorem lined_onTop {p q : Pile} (h : l.Lined q) : (l.onTop p card).Lined q := by
  cases p with
  | deck => exact h
  | discard => exact h
  | hand a => exact lined_modify (fun s hs => Seat.parallel_receiving hs card) h a

theorem has_of_lined {q : Pile} (h : l.Lined q) : l.Has q := by
  cases q with
  | deck => trivial
  | discard => trivial
  | hand a =>
    obtain ⟨s, hs, -⟩ := h a rfl
    exact (List.getElem?_eq_some_iff.1 hs).1

variable {shown : Value → Prop} {g : Game} {source target : PileRef}

/-- Moving a card keeps flags in line. It is a shift unless the card is null, which is taken and then
not put. -/
theorem moveOne_spec (shown : Value → Prop) (h : g.Lays l) (hs : l.Lined source.pile)
    (ht : l.Lined target.pile) :
    ∃ (g' : Game) (l' : Layout), moveOne source target { game := g } = .ok () { game := g' } ∧
      g'.Lays l' ∧ (∀ q, l.Lined q → l'.Lined q) ∧ (Value.null ∉ l.cards →
        Shift shown l ((movedCards source target 1 g).flatMap target.pile.receives) l') := by
  rcases take_spec (r := { game := g }) h source hs with
    htake | ⟨n, card, g₁, hcard, htake, h₁⟩
  · refine ⟨g, l, by rw [moveOne, bind_of_ok htake, if_neg (not_not.2 rfl)]; rfl, h,
      fun _ hq => hq, fun _ => ?_⟩
    simpa [movedCards, htake] using Shift.stay l
  by_cases hne : card = .null
  · refine ⟨g₁, _, ?_, h₁, fun _ hq => lined_without hq, fun hn => ?_⟩
    · rw [moveOne, bind_of_ok htake, if_neg (not_not.2 hne)]
      rfl
    · have hmem : card ∈ l.cards := (Layout.cards_without hcard).mem_iff.2 List.mem_cons_self
      exact absurd (hne ▸ hmem) hn
  · have ht₁ : (l.without source.pile n).Lined target.pile := lined_without ht
    obtain ⟨g₂, hput, h₂⟩ := put_spec (r := { game := g₁ }) h₁ target (has_of_lined ht₁) card
    refine ⟨g₂, _, ?_, h₂, fun _ hq => lined_onTop (lined_without hq), fun _ => ?_⟩
    · rw [moveOne, bind_of_ok htake, if_pos hne]
      exact hput
    · simpa [movedCards, htake, hne] using Shift.move hcard (has_of_lined ht)

theorem moveMany_spec (shown : Value → Prop) (n : Nat) (h : g.Lays l) (hs : l.Lined source.pile)
    (ht : l.Lined target.pile) :
    ∃ (g' : Game) (l' : Layout), moveMany source target n { game := g } = .ok () { game := g' } ∧
      g'.Lays l' ∧ (∀ q, l.Lined q → l'.Lined q) ∧ (Value.null ∉ l.cards →
        Shift shown l ((movedCards source target n g).flatMap target.pile.receives) l') := by
  induction n generalizing g l with
  | zero => exact ⟨g, l, rfl, h, fun _ hq => hq, fun _ => .stay l⟩
  | succ n ih =>
    obtain ⟨g₁, l₁, hone, h₁, hkeeps, hshift⟩ := moveOne_spec shown h hs ht
    obtain ⟨g₂, l₂, hmany, h₂, hkeeps', hshift'⟩ := ih h₁ (hkeeps _ hs) (hkeeps _ ht)
    refine ⟨g₂, l₂, by rw [moveMany, bind_of_ok hone]; exact hmany, h₂,
      fun q hq => hkeeps' q (hkeeps q hq), fun hn => ?_⟩
    have hn₁ : Value.null ∉ l₁.cards := fun hmem => hn ((hshift hn).perm.mem_iff.1 hmem)
    have hsplit : movedCards source target (n + 1) g =
        movedCards source target 1 g ++ movedCards source target n g₁ := by
      simp [movedCards, hone, gameOf]
    rw [hsplit, List.flatMap_append]
    exact (hshift hn).trans (hshift' hn₁)

/-! ## Resolving -/

/-- The search ends with a pile whose flags are in line, or it fails; the most that has changed is
that flags were brought in line. -/
def FindsPile (shown : Value → Prop) (g : Game) (l : Layout) (x : Play PileRef) : Prop :=
  ∃ (g' : Game) (l' : Layout), g'.Lays l' ∧ Shift shown l [] l' ∧
    (∀ q, l.Lined q → l'.Lined q) ∧
    ((∃ p, x { game := g } = .ok p { game := g' } ∧ l'.Lined p.pile) ∨
      ∃ e, x { game := g } = .error e { game := g' })

theorem findsPile_error (h : g.Lays l) {x : Play PileRef} {e : Failure}
    (hx : x { game := g } = .error e { game := g }) : FindsPile shown g l x :=
  ⟨g, l, h, .stay l, fun _ hq => hq, .inr ⟨e, hx⟩⟩

/-- The deck and the discard pile need no flags. -/
theorem findsPile_stack (h : g.Lays l) {p : Pile} (hp : l.Lined p) (forced : Value) :
    FindsPile shown g l do return ⟨p, ← orFault (asIndex? forced)⟩ := by
  cases hi : asIndex? forced with
  | error f => exact findsPile_error (e := .fault f) h rfl
  | ok i => exact ⟨g, l, h, .stay l, fun _ hq => hq, .inl ⟨⟨p, i⟩, rfl, hp⟩⟩

theorem findsPile_hand (h : g.Lays l) {a? : Except Fault Nat}
    (ha : ∀ a, a? = .ok a → a < g.players.length) (index? : Except Fault Value) :
    FindsPile shown g l do
      let seat ← orFault a?
      let index ← orFault index?
      align seat
      return ⟨.hand seat, ← orFault (asIndex? index)⟩ := by
  cases a? with
  | error f => exact findsPile_error (e := .fault f) h rfl
  | ok a =>
    cases index? with
    | error f => exact findsPile_error (e := .fault f) h rfl
    | ok index =>
      obtain ⟨s, hs, -⟩ := h.seat (List.getElem?_eq_getElem (ha a rfl))
      obtain ⟨g', halign, h'⟩ := align_spec (r := { game := g }) h hs
      refine ⟨g', _, h', .line l a, fun q hq => lined_modify (fun s _ => s.length_lined) hq a, ?_⟩
      cases hi : asIndex? index with
      | error f =>
        refine .inr ⟨.fault f, ?_⟩
        rw [bind_of_ok (orFault_ok a _), bind_of_ok (orFault_ok index _), bind_of_ok halign, hi]
        rfl
      | ok i =>
        refine .inl ⟨⟨.hand a, i⟩, ?_, ?_⟩
        · rw [bind_of_ok (orFault_ok a _), bind_of_ok (orFault_ok index _), bind_of_ok halign, hi]
          rfl
        · rintro b ⟨⟩
          refine ⟨s.lined, ?_, s.length_lined⟩
          rw [Layout.seats_modify, if_pos rfl, hs]
          rfl

theorem findsPile_resolvePile (shown : Value → Prop) (h : g.Lays l) (ref : Value)
    (param : Option String) (params forced : Value) :
    FindsPile shown g l (resolvePile ref param params forced) := by
  unfold resolvePile
  split
  · exact findsPile_stack h (fun a ha => by cases ha) forced
  split
  · exact findsPile_stack h (fun a ha => by cases ha) forced
  cases ref with
  | text t =>
    dsimp only
    split
    · exact findsPile_hand h (fun a ha => by
        split at ha
        · exact nextSeat?_ok ha
        · exact currentSeat?_ok ha) (indexFor? forced param params)
    · exact findsPile_error h rfl
  | null | bool | number | list | object | keyed => exact findsPile_error h rfl

/-! ## Places -/

theorem cardAt_spec (h : r.game.Lays l) (hn : (l.pile (.hand a))[n]? = some card) :
    cardAt a n r = .ok card r := by
  obtain ⟨s, hs, hcard⟩ := Layout.seat_of_card hn
  obtain ⟨p, hp, hholds⟩ := h.player hs
  rw [cardAt, bind_of_ok (player_of hp), hholds.hand, cardAt?, hcard]
  rfl

theorem layCard_apply {p : Player} (hp : r.game.players[a]? = some p) (h : p.Holds s) (n : Nat)
    (x : Value) :
    layCard a n x r =
      .ok () { r with game := r.game.modifyPlayer a (Player.onSeat (Seat.laid n x)) } := by
  rw [layCard, bind_of_ok (player_of hp), h.hand]
  dsimp only
  rw [modifyPlayer_apply, modifyPlayer_congr hp]
  rw [h.onSeat_eq, Seat.laid, ← h.known]

theorem layCard_spec (h : r.game.Lays l) (hn : (l.pile (.hand a))[n]? = some card) (x : Value) :
    ∃ g', layCard a n x r = .ok () { r with game := g' } ∧
      g'.Lays (l.modify a (Seat.laid n x)) := by
  obtain ⟨s, hs, -⟩ := Layout.seat_of_card hn
  obtain ⟨p, hp, hholds⟩ := h.player hs
  exact ⟨_, layCard_apply hp hholds n x, h.onSeat a (Seat.laid n x)⟩

theorem markKnown_apply {p : Player} (hp : r.game.players[a]? = some p) (h : p.Holds s) (n : Nat)
    (known : Bool) :
    markKnown a n known r =
      .ok () { r with game := r.game.modifyPlayer a (Player.onSeat (Seat.marked n known)) } := by
  rw [markKnown, bind_of_ok (align_apply hp h),
    bind_of_ok (player_of (player_modifyPlayer hp (Player.onSeat Seat.lined))),
    (h.onSeat Seat.lined).known, withFlag?, bind_of_ok (orFault_ok _ _), modifyPlayer_apply]
  dsimp only
  rw [modifyPlayer_modifyPlayer, modifyPlayer_congr hp]
  rw [Function.comp_apply, h.onSeat_eq, h.onSeat_eq, Seat.marked]

theorem markKnown_spec (h : r.game.Lays l) (ha : a < l.seats.length) (n : Nat) (known : Bool) :
    ∃ g', markKnown a n known r = .ok () { r with game := g' } ∧
      g'.Lays (l.modify a (Seat.marked n known)) := by
  obtain ⟨p, hp, hholds⟩ := h.player (List.getElem?_eq_getElem ha)
  exact ⟨_, markKnown_apply hp hholds n known, h.onSeat a (Seat.marked n known)⟩

theorem idOf_spec (h : r.game.Lays l) (ha : a < l.seats.length) : ∃ id, idOf a r = .ok id r := by
  obtain ⟨p, hp, -⟩ := h.player (List.getElem?_eq_getElem ha)
  exact ⟨p.id, by rw [idOf, bind_of_ok (player_of hp)]; rfl⟩

end Play

end CardRules
