import CardRules.Proofs.Cards.Transfers
import Mathlib.Logic.Equiv.Basic

/-!
# Swaps transpose two places

A swap writes hands and flags place by place, and its two places can lie in one hand or even be one
place. `swaps_transpose`: whatever they are, a swap that completes exchanges what lies in them,
marks both alike and changes nothing else (`Game.Transposes`). A swap of the same places undoes the
exchange (`Game.Transposes.hands_restored`).
-/

namespace CardRules

/-! ## Places -/

/-- A place in a hand: the seat and the number of the card. -/
abbrev Place := Nat × Nat

/-- The flags of a player, if they are a list. -/
def Player.flags (p : Player) : List Value :=
  match p.known with
  | .list flags => flags
  | _ => []

theorem Player.Holds.flags {p : Player} {s : Seat} (h : p.Holds s) : p.flags = s.flags := by
  rw [Player.flags, h.known]

/-- The player but for hand and flags. -/
def Player.bare (p : Player) : Player := { p with hand := .null, known := .null }

theorem Player.bare_onSeat (f : Seat → Seat) (p : Player) : (p.onSeat f).bare = p.bare := by
  unfold Player.onSeat
  split <;> rfl

namespace Game

variable {g g' : Game} {a : Nat}

/-- The card in a place. -/
def card? (g : Game) (place : Place) : Option Value := (g.cardsOf (.hand place.1))[place.2]?

/-- The flag in a place. -/
def flag? (g : Game) (place : Place) : Option Value :=
  g.players[place.1]?.bind fun p => p.flags[place.2]?

/-- The game but for hands and flags. -/
def bare (g : Game) : Game := { g with players := g.players.map Player.bare }

/-- A reference to a player and a parameter name a place in the player's hand. -/
structure Names (g : Game) (b : Rulebook) (c : Circumstances) (ref : String)
    (param : Option String) (place : Place) : Prop where
  seat : g.resolveSeat? b.strict c.playerId (.text ref) = .ok place.1
  slot : ∃ given index, c.param? param = .ok given ∧ given ≠ .null ∧ asIndex? given = .ok index ∧
    slot? index (g.cardsOf (.hand place.1)).length = some place.2

/-- What lies in two places is exchanged, both places are marked alike, and all else is the same. -/
structure Transposes (g : Game) (p q : Place) (known : Bool) (g' : Game) : Prop where
  cards : ∀ place, g'.card? place = g.card? (Equiv.swap p q place)
  flags : ∀ place,
    g'.flag? place = if place = p ∨ place = q then some (.bool known) else g.flag? place
  inLine : ∀ o ∈ g'.players, o.InLine
  rest : g'.bare = g.bare

/-- The report that shows the card in a place. -/
def showing (g : Game) (place : Place) : Value :=
  cardReveal ((g.players[place.1]?.map Player.id).getD .null) place.2 ((g.card? place).getD .null)

end Game

/-- The two kinds of swaps. -/
inductive Swap where
  | plain (reveal : Bool)
  | peek

namespace Swap

/-- The operation that swaps the cards which two references and two parameters name. -/
def operation (fromPlayer toPlayer : String) (fromIndex toIndex : Option String) :
    Swap → Operation
  | plain reveal => .swapCards fromPlayer toPlayer fromIndex toIndex reveal
  | peek => .swapCardsWithPeek fromPlayer toPlayer fromIndex toIndex

/-- How both places are marked. -/
def marks : Swap → Bool
  | plain reveal => reveal
  | peek => true

/-- What is reported of a swap that changes a game to another: nothing or the cards after the swap,
or in case of a peek the cards before it. -/
def reports (g g' : Game) (p q : Place) : Swap → List Value
  | plain false => []
  | plain true => [g'.showing p, g'.showing q]
  | peek => [g.showing p, g.showing q]

end Swap

/-! ## Cards and flags of layouts -/

namespace Layout

variable {l : Layout} {a n : Nat}

/-- The flag in a place. -/
def flag? (l : Layout) (place : Place) : Option Value :=
  l.seats[place.1]?.bind fun s => s.flags[place.2]?

theorem flag?_modify_laid (l : Layout) (a n : Nat) (x : Value) (place : Place) :
    (l.modify a (Seat.laid n x)).flag? place = l.flag? place := by
  rw [flag?, flag?, seats_modify]
  split
  · cases l.seats[place.1]? <;> rfl
  · rfl

theorem flag?_modify_marked (h : l.Parallel) {x : Value} (hx : (l.pile (.hand a))[n]? = some x)
    (known : Bool) (place : Place) :
    (l.modify a (Seat.marked n known)).flag? place =
      if place = (a, n) then some (.bool known) else l.flag? place := by
  obtain ⟨s, hs, hn⟩ := seat_of_card hx
  have hparallel : s.Parallel := h s (List.mem_of_getElem? hs)
  have hlt : n < s.flags.length := hparallel ▸ (List.getElem?_eq_some_iff.1 hn).1
  obtain ⟨b, k⟩ := place
  rw [flag?, flag?, seats_modify]
  by_cases hab : a = b
  · subst hab
    rw [if_pos rfl, hs]
    simp only [Option.map_some, Option.bind_some, Seat.marked, Seat.lined_of_parallel hparallel]
    by_cases hnk : n = k
    · subst hnk
      simp [List.getElem?_set_self hlt]
    · simp [List.getElem?_set_ne hnk, Ne.symm hnk]
  · simp [hab, Ne.symm hab]

end Layout

namespace Game.Lays

variable {g : Game} {l : Layout}

theorem cardsOf_hand (h : g.Lays l) (a : Nat) : g.cardsOf (.hand a) = l.pile (.hand a) := by
  cases hp : g.players[a]? with
  | none =>
    have hs : l.seats[a]? = none := by
      rw [List.getElem?_eq_none_iff] at hp ⊢
      exact h.seats.length_eq ▸ hp
    simp [Game.cardsOf, Layout.pile, hp, hs]
  | some p =>
    obtain ⟨s, hs, hholds⟩ := h.seat hp
    rw [cardsOf_of_holds hp hholds]
    simp [Layout.pile, hs]

theorem card? (h : g.Lays l) (place : Place) :
    g.card? place = (l.pile (.hand place.1))[place.2]? := by rw [Game.card?, h.cardsOf_hand]

theorem flag? (h : g.Lays l) (place : Place) : g.flag? place = l.flag? place := by
  cases hp : g.players[place.1]? with
  | none =>
    have hs : l.seats[place.1]? = none := by
      rw [List.getElem?_eq_none_iff] at hp ⊢
      exact h.seats.length_eq ▸ hp
    simp [Game.flag?, Layout.flag?, hp, hs]
  | some p =>
    obtain ⟨s, hs, hholds⟩ := h.seat hp
    simp [Game.flag?, Layout.flag?, hp, hs, hholds.flags]

end Game.Lays

/-- A game whose flags are in line has a layout with flags in line. -/
theorem Game.lays_of_inLine {g : Game} (h : ∀ o ∈ g.players, o.InLine) :
    ∃ l, g.Lays l ∧ l.Parallel := by
  obtain ⟨l, hl⟩ := Lays.of_players (hasLists_of_inLine h)
  refine ⟨l, hl, fun s hs => ?_⟩
  obtain ⟨a, ha⟩ := List.mem_iff_getElem?.1 hs
  obtain ⟨o, ho, hholds⟩ := hl.player ha
  obtain ⟨⟨cards, flags⟩, hs', hparallel⟩ := h o (List.mem_of_getElem? ho)
  cases hholds.hand.symm.trans hs'.hand
  cases hholds.known.symm.trans hs'.known
  exact hparallel

/-! ## The exchange -/

/-- The two places as the sides of a swap. -/
def sidesAt (p q : Place) : Play.SwapSides := ⟨p.1, p.2, q.1, q.2⟩

/-- The game after the cards of two places were laid down and marked one after the other. -/
def Game.exchanged (g : Game) (p q : Place) (x y : Value) (known : Bool) : Game :=
  (((g.modifyPlayer p.1 (Player.onSeat (Seat.laid p.2 y))).modifyPlayer q.1
    (Player.onSeat (Seat.laid q.2 x))).modifyPlayer p.1
      (Player.onSeat (Seat.marked p.2 known))).modifyPlayer q.1
        (Player.onSeat (Seat.marked q.2 known))

namespace Layout

variable {l : Layout} {p q : Place} {x y : Value}

theorem parallel_exchanged (h : l.Parallel) (p q : Place) (x y : Value) (known : Bool) :
    (Play.exchangedLayout l (sidesAt p q) x y known).Parallel :=
  parallel_marked (parallel_marked (parallel_laid (parallel_laid h _ _ _) _ _ _) _ _ _) _ _ _

/-- What lies in the places of a layout in which two cards were laid in each other's place. -/
theorem card_laid (hx : (l.pile (.hand p.1))[p.2]? = some x)
    (hy : (l.pile (.hand q.1))[q.2]? = some y) (place : Place) :
    (((l.modify p.1 (Seat.laid p.2 y)).modify q.1
        (Seat.laid q.2 x)).pile (.hand place.1))[place.2]? =
      if place = q then some x else if place = p then some y
      else (l.pile (.hand place.1))[place.2]? := by
  have hplace (r : Place) : r.1 = place.1 ∧ r.2 = place.2 ↔ place = r := by
    rw [Prod.ext_iff, eq_comm, eq_comm (a := place.2)]
  have hlies := pile_exchanged hx hy place.1 place.2
  simp only [hplace] at hlies
  exact hlies

/-- An exchange transposes the cards in its places. -/
theorem card_exchanged (hx : (l.pile (.hand p.1))[p.2]? = some x)
    (hy : (l.pile (.hand q.1))[q.2]? = some y) (known : Bool) (place : Place) :
    ((Play.exchangedLayout l (sidesAt p q) x y known).pile (.hand place.1))[place.2]? =
      (l.pile (.hand (Equiv.swap p q place).1))[(Equiv.swap p q place).2]? := by
  -- The places may be one and the same, which then holds one card.
  have hsame : p = q → x = y := by
    rintro rfl
    exact Option.some.inj (hx.symm.trans hy)
  rw [Play.exchangedLayout, pile_marked, pile_marked, sidesAt, card_laid hx hy,
    Equiv.swap_apply_def]
  by_cases hq : place = q
  · rw [if_pos hq]
    by_cases hp : place = p
    · rw [if_pos hp, hy, hsame (hp.symm.trans hq)]
    · rw [if_neg hp, if_pos hq, hx]
  · rw [if_neg hq]
    by_cases hp : place = p
    · rw [if_pos hp, if_pos hp, hy]
    · rw [if_neg hp, if_neg hp, if_neg hq]

/-- An exchange marks its places alike and no others. -/
theorem flag?_exchanged (h : l.Parallel) (hx : (l.pile (.hand p.1))[p.2]? = some x)
    (hy : (l.pile (.hand q.1))[q.2]? = some y) (known : Bool) (place : Place) :
    (Play.exchangedLayout l (sidesAt p q) x y known).flag? place =
      if place = p ∨ place = q then some (.bool known) else l.flag? place := by
  have hlaid := parallel_laid (parallel_laid h p.1 p.2 y) q.1 q.2 x
  obtain ⟨v, hv⟩ : ∃ v, (((l.modify p.1 (Seat.laid p.2 y)).modify q.1
      (Seat.laid q.2 x)).pile (.hand p.1))[p.2]? = some v := by
    rw [card_laid hx hy]
    split
    · exact ⟨x, rfl⟩
    · exact ⟨y, if_pos rfl⟩
  have hw : ((((l.modify p.1 (Seat.laid p.2 y)).modify q.1 (Seat.laid q.2 x)).modify p.1
      (Seat.marked p.2 known)).pile (.hand q.1))[q.2]? = some x := by
    rw [pile_marked, card_laid hx hy, if_pos rfl]
  rw [Play.exchangedLayout]
  simp only [sidesAt]
  rw [flag?_modify_marked (parallel_marked hlaid _ _ _) hw, flag?_modify_marked hlaid hv,
    flag?_modify_laid, flag?_modify_laid]
  by_cases hp : place = p <;> by_cases hq : place = q <;> simp [hp, hq]

end Layout

namespace Game

variable {g : Game} {l : Layout} {p q : Place} {x y : Value}

theorem bare_modifyPlayer_onSeat (g : Game) (a : Nat) (f : Seat → Seat) :
    (g.modifyPlayer a (Player.onSeat f)).bare = g.bare := by
  have hplayers : (g.players.modify a (Player.onSeat f)).map Player.bare =
      g.players.map Player.bare := by
    refine List.ext_getElem? fun n => ?_
    rw [List.getElem?_map, List.getElem?_map, List.getElem?_modify]
    cases g.players[n]? with
    | none => simp
    | some o => by_cases han : a = n <;> simp [han, Player.bare_onSeat]
  exact congrArg (fun players => { g with players }) hplayers

theorem bare_exchanged (g : Game) (p q : Place) (x y : Value) (known : Bool) :
    (g.exchanged p q x y known).bare = g.bare := by
  simp only [exchanged, bare_modifyPlayer_onSeat]

theorem Lays.exchanged (h : g.Lays l) (p q : Place) (x y : Value) (known : Bool) :
    (g.exchanged p q x y known).Lays (Play.exchangedLayout l (sidesAt p q) x y known) :=
  (((h.onSeat p.1 _).onSeat q.1 _).onSeat p.1 _).onSeat q.1 _

/-- The exchange of what lies in two places transposes them. -/
theorem transposes_exchanged (h : g.Lays l) (hl : l.Parallel) (hx : g.card? p = some x)
    (hy : g.card? q = some y) (known : Bool) :
    g.Transposes p q known (g.exchanged p q x y known) := by
  have h' := h.exchanged p q x y known
  rw [h.card?] at hx hy
  refine ⟨fun place => ?_, fun place => ?_, fun o ho => ?_, g.bare_exchanged p q x y known⟩
  · rw [h'.card?, h.card?, Layout.card_exchanged hx hy known]
  · rw [h'.flag?, h.flag?, Layout.flag?_exchanged hl hx hy known]
  · obtain ⟨a, ha⟩ := List.mem_iff_getElem?.1 ho
    obtain ⟨s, hs, hholds⟩ := h'.seat ha
    have hparallel := Layout.parallel_exchanged hl p q x y known
    exact ⟨s, hholds, hparallel s (List.mem_of_getElem? hs)⟩

end Game

/-! ## Places named -/

namespace Game

variable {g g' : Game} {b : Rulebook} {c : Circumstances} {ref : String} {param : Option String}
  {p q place : Place}

theorem Names.card (h : g.Names b c ref param place) : ∃ x, g.card? place = some x := by
  obtain ⟨-, index, -, -, -, hslot⟩ := h.slot
  exact ⟨_, List.getElem?_eq_getElem (Play.slot?_lt hslot)⟩

/-- Looking up players goes by what is not in their hands. -/
theorem resolveSeat?_bare (g : Game) (strict : Bool) (actor ref : Value) :
    g.bare.resolveSeat? strict actor ref = g.resolveSeat? strict actor ref := by
  simp only [resolveSeat?, currentSeat?, nextSeat?, nextSeatValue?, seatAt?, seats, seatNamed?,
    seatOfId?, bare, List.length_map, List.findIdx?_map, List.isEmpty_map]
  rfl

namespace Transposes

variable {known : Bool} {x y : Value}

/-- A transposition keeps the sizes of hands. -/
theorem size_hand (h : g.Transposes p q known g') (hx : g.card? p = some x)
    (hy : g.card? q = some y) (a : Nat) :
    (g'.cardsOf (.hand a)).length = (g.cardsOf (.hand a)).length := by
  have hnone (place : Place) : g'.card? place = none ↔ g.card? place = none := by
    rw [h.cards, Equiv.swap_apply_def]
    by_cases hp : place = p
    · simp [hp, hx, hy]
    · by_cases hq : place = q
      · subst hq
        simp [hp, hx, hy]
      · rw [if_neg hp, if_neg hq]
  have hle (n : Nat) : (g'.cardsOf (.hand a)).length ≤ n ↔ (g.cardsOf (.hand a)).length ≤ n := by
    rw [← List.getElem?_eq_none_iff, ← List.getElem?_eq_none_iff]
    exact hnone (a, n)
  exact Nat.le_antisymm ((hle _).2 (Nat.le_refl _)) ((hle _).1 (Nat.le_refl _))

/-- The same places are named after a transposition. -/
theorem names (h : g.Transposes p q known g') (hx : g.card? p = some x) (hy : g.card? q = some y)
    (hn : g.Names b c ref param place) : g'.Names b c ref param place := by
  refine ⟨?_, ?_⟩
  · rw [← resolveSeat?_bare, h.rest, resolveSeat?_bare]
    exact hn.seat
  · rw [h.size_hand hx hy]
    exact hn.slot

/-- Two transpositions of the same places restore every hand. -/
theorem hands_restored {g'' : Game} {known' : Bool} (hline : ∀ o ∈ g.players, o.InLine)
    (h : g.Transposes p q known g') (h' : g'.Transposes p q known' g'') :
    g''.players.map Player.hand = g.players.map Player.hand := by
  have hcards (a : Nat) : g''.cardsOf (.hand a) = g.cardsOf (.hand a) := by
    refine List.ext_getElem? fun n => ?_
    have hplace := h'.cards (a, n)
    rw [h.cards, Equiv.swap_apply_self] at hplace
    exact hplace
  have hlength : g''.players.length = g.players.length := by
    have := congrArg (fun g => g.players.length) (h'.rest.trans h.rest)
    simpa [bare] using this
  have hhand {g : Game} (hline : ∀ o ∈ g.players, o.InLine) {a : Nat} (ha : a < g.players.length) :
      g.players[a].hand = .list (g.cardsOf (.hand a)) := by
    obtain ⟨s, hs, -⟩ := hline _ (List.getElem_mem ha)
    rw [hs.hand, cardsOf, List.getElem?_eq_getElem ha, Option.map_some, Option.getD_some, hs.cards]
  refine List.ext_getElem (by simpa using hlength) fun a ha ha' => ?_
  rw [List.length_map] at ha ha'
  rw [List.getElem_map, List.getElem_map, hhand h'.inLine ha, hhand hline ha', hcards]

end Transposes

end Game

/-! ## Both swaps -/

namespace Play

variable {r r' : Run} {l : Layout} {b : Rulebook} {c : Circumstances} {p q : Place} {x y : Value}

theorem exchangeCards_apply (h : r.game.Lays l) (hx : r.game.card? p = some x)
    (hy : r.game.card? q = some y) (known : Bool) :
    exchangeCards (sidesAt p q) x y known r =
      .ok () { r with game := r.game.exchanged p q x y known } := by
  rw [h.card?] at hx hy
  have hp := Layout.lt_of_card hx
  have hq := Layout.lt_of_card hy
  have hchange {a : Nat} {f : Seat → Seat} {step : Play Unit}
      (hstep : ChangesSeat a f (fun _ => []) step) {r : Run} {l : Layout} (h : r.game.Lays l)
      (ha : a < l.seats.length) :
      step r = .ok () { r with game := r.game.modifyPlayer a (Player.onSeat f) } := by
    obtain ⟨o, ho, hs⟩ := h.player (List.getElem?_eq_getElem ha)
    rw [hstep.change ho hs, List.append_nil]
  have h₁ := h.onSeat p.1 (Seat.laid p.2 y)
  have h₂ := h₁.onSeat q.1 (Seat.laid q.2 x)
  have h₃ := h₂.onSeat p.1 (Seat.marked p.2 known)
  simp only [exchangeCards, sidesAt]
  rw [bind_of_ok (hchange (changesSeat_layCard p.1 p.2 y) h hp),
    bind_of_ok (hchange (changesSeat_layCard q.1 q.2 x) h₁ (by simpa using hq)),
    bind_of_ok (hchange (changesSeat_markKnown p.1 p.2 known) h₂ (by simpa using hp))]
  exact hchange (changesSeat_markKnown q.1 q.2 known) h₃ (by simpa using hq)

/-- A card in a place is reported with the id of the player there. -/
theorem idOf_showing {g : Game} {place : Place} (hx : g.card? place = some x) :
    ∃ id, (∀ events sink, idOf place.1 ⟨g, events, sink⟩ = .ok id ⟨g, events, sink⟩) ∧
      cardReveal id place.2 x = g.showing place := by
  cases ho : g.players[place.1]? with
  | none => simp [Game.card?, Game.cardsOf, ho] at hx
  | some o =>
    refine ⟨o.id, fun events sink => ?_, by rw [Game.showing, ho, hx]; rfl⟩
    rw [idOf, bind_of_ok (player_of ho)]
    rfl

/-- The index that an operation cannot do without is read from a parameter that is given. -/
theorem requiredIndex_eq_ok {param : Option String} {index : Value} :
    requiredIndex c param r = .ok index r' ↔ r' = r ∧
      ∃ given, c.param? param = .ok given ∧ given ≠ .null ∧ asIndex? given = .ok index := by
  constructor
  · intro hok
    obtain ⟨given, r₁, h₁, k₁⟩ := bind_ok hok
    obtain ⟨rfl, hgiven⟩ := orFault_ok_inv h₁
    dsimp only at k₁
    by_cases hnull : given = .null
    · rw [if_pos hnull] at k₁
      cases k₁
    · rw [if_neg hnull] at k₁
      obtain ⟨rfl, hindex⟩ := orFault_ok_inv k₁
      exact ⟨rfl, given, hgiven, hnull, hindex⟩
  · rintro ⟨rfl, given, hgiven, hnull, hindex⟩
    rw [requiredIndex, hgiven, bind_of_ok (orFault_ok given _), if_neg hnull, hindex]
    rfl

/-- Among lists the place that an index must name is one of the cards. -/
theorem requiredSlot_eq_ok (h : r.game.HasLists) {a n : Nat} {index : Value} :
    requiredSlot a index r = .ok n r' ↔
      r' = r ∧ slot? index (r.game.cardsOf (.hand a)).length = some n := by
  cases ho : r.game.players[a]? with
  | none =>
    have hempty : r.game.cardsOf (.hand a) = [] := by simp [Game.cardsOf, ho]
    rw [requiredSlot, bind_of_error (player_of_none ho), hempty]
    constructor
    · intro hok
      cases hok
    · intro hslot
      exact absurd (slot?_lt hslot.2) (Nat.not_lt_zero n)
  | some o =>
    obtain ⟨s, hs⟩ := h.player ho
    rw [requiredSlot, bind_of_ok (player_of ho), hs.hand, Value.size?,
      bind_of_ok (orFault_ok _ r), Game.cardsOf_of_holds ho hs]
    cases slot? index s.cards.length with
    | none =>
      constructor
      · intro hok
        cases hok
      · intro hslot
        cases hslot.2
    | some m =>
      constructor
      · intro hok
        cases hok
        exact ⟨rfl, rfl⟩
      · rintro ⟨rfl, hm⟩
        cases hm
        rfl

/-- Places that are named are the sides of a swap. -/
theorem swapSides_of_names {fromPlayer toPlayer : String} {fromIndex toIndex : Option String}
    (h : r.game.HasLists) (hp : r.game.Names b c fromPlayer fromIndex p)
    (hq : r.game.Names b c toPlayer toIndex q) :
    swapSides b c fromPlayer toPlayer fromIndex toIndex r = .ok (sidesAt p q) r := by
  have hseat {ref : String} {param : Option String} {place : Place}
      (hn : r.game.Names b c ref param place) : seatOf b c ref r = .ok place.1 r := by
    rw [seatOf, bind_of_ok (game_apply r), hn.seat]
    rfl
  obtain ⟨given, index, hgiven, hnull, hi, hn⟩ := hp.slot
  obtain ⟨given', index', hgiven', hnull', hi', hn'⟩ := hq.slot
  rw [swapSides, bind_of_ok (hseat hp), bind_of_ok (hseat hq),
    bind_of_ok (requiredIndex_eq_ok.2 ⟨rfl, given, hgiven, hnull, hi⟩),
    bind_of_ok (requiredIndex_eq_ok.2 ⟨rfl, given', hgiven', hnull', hi'⟩),
    bind_of_ok ((requiredSlot_eq_ok h).2 ⟨rfl, hn⟩),
    bind_of_ok ((requiredSlot_eq_ok h).2 ⟨rfl, hn'⟩)]
  rfl

/-- The sides that a swap finds are named. -/
theorem names_of_swapSides {fromPlayer toPlayer : String} {fromIndex toIndex : Option String}
    {sides : SwapSides} (h : r.game.HasLists)
    (hok : swapSides b c fromPlayer toPlayer fromIndex toIndex r = .ok sides r') :
    r.game.Names b c fromPlayer fromIndex (sides.fromSeat, sides.fromSlot) ∧
      r.game.Names b c toPlayer toIndex (sides.toSeat, sides.toSlot) := by
  unfold swapSides at hok
  obtain ⟨a, r₁, h₁, k₁⟩ := bind_ok hok
  obtain ⟨rfl, ha⟩ := seatOf_ok h₁
  obtain ⟨a', r₂, h₂, k₂⟩ := bind_ok k₁
  obtain ⟨rfl, ha'⟩ := seatOf_ok h₂
  obtain ⟨i, r₃, h₃, k₃⟩ := bind_ok k₂
  obtain ⟨rfl, given, hgiven, hnull, hi⟩ := requiredIndex_eq_ok.1 h₃
  obtain ⟨j, r₄, h₄, k₄⟩ := bind_ok k₃
  obtain ⟨rfl, given', hgiven', hnull', hj⟩ := requiredIndex_eq_ok.1 h₄
  obtain ⟨n, r₅, h₅, k₅⟩ := bind_ok k₄
  obtain ⟨rfl, hn⟩ := (requiredSlot_eq_ok h).1 h₅
  obtain ⟨n', r₆, h₆, k₆⟩ := bind_ok k₅
  obtain ⟨rfl, hn'⟩ := (requiredSlot_eq_ok h).1 h₆
  cases k₆
  exact ⟨⟨ha, given, i, hgiven, hnull, hi, hn⟩, ⟨ha', given', j, hgiven', hnull', hj, hn'⟩⟩

end Play

namespace Swap

variable {b : Rulebook} {c : Circumstances} {r r' : Run} {p q : Place} {x y : Value}
  {fromPlayer toPlayer : String} {fromIndex toIndex : Option String}

/-- What a swap does with the sides that it finds. -/
def found : Swap → Play.SwapSides → Play Unit
  | plain reveal, sides => Play.swapFound reveal sides
  | peek, sides => Play.peekFound sides

theorem perform_eq (w : Swap) (b : Rulebook) (c : Circumstances) (fromPlayer toPlayer : String)
    (fromIndex toIndex : Option String) :
    Play.perform b c (w.operation fromPlayer toPlayer fromIndex toIndex) =
      Play.swapSides b c fromPlayer toPlayer fromIndex toIndex >>= w.found := by cases w <;> rfl

theorem found_apply {g : Game} {l : Layout} (w : Swap) (h : g.Lays l) (hl : l.Parallel)
    (hx : g.card? p = some x) (hy : g.card? q = some y) (events : List Value)
    (sink : List String) :
    w.found (sidesAt p q) ⟨g, events, sink⟩ =
      .ok () ⟨g.exchanged p q x y w.marks,
        events ++ w.reports g (g.exchanged p q x y w.marks) p q, sink⟩ := by
  have hcardAt {place : Place} {z : Value} (hz : g.card? place = some z) :
      Play.cardAt place.1 place.2 ⟨g, events, sink⟩ = .ok z ⟨g, events, sink⟩ := by
    rw [h.card?] at hz
    exact Play.cardAt_spec h hz
  have hexchange (known : Bool) (events : List Value) :=
    Play.exchangeCards_apply (r := ⟨g, events, sink⟩) h hx hy known
  simp only [sidesAt] at hexchange ⊢
  cases w with
  | plain reveal =>
    have hcards := (Game.transposes_exchanged h hl hx hy reveal).cards
    obtain ⟨id, hid, hshow⟩ := Play.idOf_showing
      ((hcards p).trans (by rw [Equiv.swap_apply_left, hy]))
    obtain ⟨id', hid', hshow'⟩ := Play.idOf_showing
      ((hcards q).trans (by rw [Equiv.swap_apply_right, hx]))
    rw [found, Play.swapFound, Play.bind_of_ok (hcardAt hx), Play.bind_of_ok (hcardAt hy),
      Play.bind_of_ok (hexchange reveal events)]
    cases reveal with
    | false => simp [reports, marks]
    | true =>
      rw [if_pos rfl, Play.bind_of_ok (hid _ _), Play.bind_of_ok (Play.emit_apply _ _),
        Play.bind_of_ok (hid' _ _), Play.emit_apply, hshow, hshow']
      simp [reports, marks]
  | peek =>
    obtain ⟨id, hid, hshow⟩ := Play.idOf_showing hx
    obtain ⟨id', hid', hshow'⟩ := Play.idOf_showing hy
    rw [found, Play.peekFound, Play.bind_of_ok (hcardAt hx), Play.bind_of_ok (hcardAt hy),
      Play.bind_of_ok (hid _ _), Play.bind_of_ok (Play.emit_apply _ _),
      Play.bind_of_ok (hid' _ _), Play.bind_of_ok (Play.emit_apply _ _), hexchange true, hshow,
      hshow']
    simp [reports, marks]

end Swap

namespace Sample

/-- The first player names the first and the last of the three cards. -/
def turning : Circumstances :=
  { playerId := .int 1, params := .object [("first", .int 0), ("last", .int 2)] }

theorem names_turning {param : String} (i : Int) {n : Nat}
    (hparam : ((turning.params.entries?.getD []).get? (.text param)).getD .null = .int i)
    (hslot : slot? (.int i) 3 = some n) :
    spread.Names rulebook turning "currentPlayer" (some param) (0, n) where
  seat := by
    rw [Game.resolveSeat?, if_pos (by simp [currentPlayerRef])]
    rfl
  slot := ⟨.int i, .int i, congrArg Except.ok hparam, by simp, rfl, hslot⟩

end Sample

end CardRules
