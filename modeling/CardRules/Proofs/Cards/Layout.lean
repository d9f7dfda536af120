import CardRules.Play.Pile
import Mathlib.Data.List.Nodup
import Mathlib.Data.List.Perm.Basic

/-!
# Layouts

Where the cards of a game lie and which of them are marked as known: the deck, the discard pile and
for each seat its cards with the flags beside them. `Game.Lays g l` says that a game has a layout.

`Shift shown l puts l'` is all that an operation can do to a layout: `shown` are the cards it shows
to everybody and `puts` the cards it puts into hands, with the seats. Every shift

* keeps the cards (`Shift.perm`),
* keeps flags and cards in line (`Shift.parallel`),
* brings into a hand only what it puts there (`Shift.mem_hand`), and
* leaves a card marked only if it shows the card, or if the card was marked before and has stayed
  in its hand (`Shift.marked`).
-/

namespace CardRules

/-- The cards in a hand and the flags beside them. -/
structure Seat where
  cards : List Value
  flags : List Value

namespace Seat

/-- As many flags as cards: flags that are missing are false and surplus ones are cut. -/
def lined (s : Seat) : Seat where
  cards := s.cards
  flags := s.flags.take s.cards.length ++
    List.replicate (s.cards.length - s.flags.length) (.bool false)

/-- Without the card in a place. -/
def without (s : Seat) (n : Nat) : Seat := ⟨s.cards.eraseIdx n, s.flags.eraseIdx n⟩

/-- With an unknown card at the end. -/
def receiving (s : Seat) (card : Value) : Seat := ⟨s.cards ++ [card], s.flags ++ [.bool false]⟩

/-- With a card in the place of another. -/
def laid (n : Nat) (card : Value) (s : Seat) : Seat := { s with cards := s.cards.set n card }

/-- With the flag in a place set, the flags being in line. -/
def marked (n : Nat) (known : Bool) (s : Seat) : Seat :=
  { s.lined with flags := s.lined.flags.set n (.bool known) }

/-- With all cards known. -/
def shown (s : Seat) : Seat := { s with flags := List.replicate s.cards.length (.bool true) }

/-- Each card has its flag. -/
def Parallel (s : Seat) : Prop := s.flags.length = s.cards.length

theorem length_lined (s : Seat) : s.lined.flags.length = s.cards.length := by
  simp only [lined, List.length_append, List.length_take, List.length_replicate]
  omega

theorem lined_of_parallel {s : Seat} (h : s.Parallel) : s.lined = s := by
  have h' : s.flags.length = s.cards.length := h
  have ht : s.flags.take s.cards.length = s.flags := List.take_of_length_le (by omega)
  simp [lined, h', ht]

theorem parallel_without {s : Seat} (h : s.Parallel) (n : Nat) : (s.without n).Parallel := by
  simp only [Parallel, without, List.length_eraseIdx] at h ⊢
  rw [h]

theorem parallel_receiving {s : Seat} (h : s.Parallel) (card : Value) :
    (s.receiving card).Parallel := by
  simp only [Parallel, receiving, List.length_append, List.length_singleton] at h ⊢
  omega

theorem parallel_marked (n : Nat) (known : Bool) (s : Seat) : (Seat.marked n known s).Parallel := by
  simp only [Parallel, marked, List.length_set]
  exact s.length_lined

theorem parallel_shown (s : Seat) : s.shown.Parallel := by simp [Parallel, shown]

end Seat

/-- Where the cards lie. -/
structure Layout where
  deck : List Value
  discard : List Value
  seats : List Seat

namespace Layout

/-- All cards. -/
def cards (l : Layout) : List Value := l.deck ++ l.discard ++ l.seats.flatMap Seat.cards

/-- The layout with a seat changed. -/
def modify (l : Layout) (a : Nat) (f : Seat → Seat) : Layout :=
  { l with seats := l.seats.modify a f }

/-- The cards in a pile. -/
def pile (l : Layout) : Pile → List Value
  | .deck => l.deck
  | .discard => l.discard
  | .hand a => (l.seats[a]?.map Seat.cards).getD []

/-- Whether there is such a pile. -/
def Has (l : Layout) : Pile → Prop
  | .deck | .discard => True
  | .hand a => a < l.seats.length

/-- The layout without the card in a place of a pile. -/
def without (l : Layout) (p : Pile) (n : Nat) : Layout :=
  match p with
  | .deck => { l with deck := l.deck.eraseIdx n }
  | .discard => { l with discard := l.discard.eraseIdx n }
  | .hand a => l.modify a (·.without n)

/-- The layout with a card put on top of a pile. -/
def onTop (l : Layout) (p : Pile) (card : Value) : Layout :=
  match p with
  | .deck => { l with deck := l.deck ++ [card] }
  | .discard => { l with discard := l.discard ++ [card] }
  | .hand a => l.modify a (·.receiving card)

/-- Each card in a hand has its flag. -/
def Parallel (l : Layout) : Prop := ∀ s ∈ l.seats, s.Parallel

/-- A card lies in a place of a hand and is marked: its flag is anything but false. -/
def Marked (l : Layout) (a i : Nat) (card : Value) : Prop :=
  ∃ s, l.seats[a]? = some s ∧ s.cards[i]? = some card ∧
    ∃ v, s.flags[i]? = some v ∧ v ≠ .bool false

end Layout

/-- The hand that a card put on a pile comes into, with the card. -/
def Pile.receives (p : Pile) (card : Value) : List (Nat × Value) :=
  match p with
  | .deck | .discard => []
  | .hand a => [(a, card)]

/-- What an operation can do to a layout (module doc). -/
inductive Shift (shown : Value → Prop) : Layout → List (Nat × Value) → Layout → Prop
  | stay (l : Layout) : Shift shown l [] l
  | line (l : Layout) (a : Nat) : Shift shown l [] (l.modify a Seat.lined)
  | move {l : Layout} {p q : Pile} {n : Nat} {card : Value} (hp : (l.pile p)[n]? = some card)
      (hq : l.Has q) : Shift shown l (q.receives card) ((l.without p n).onTop q card)
  /-- Two cards change places, and both places are marked alike. -/
  | swap {l : Layout} {a b i j : Nat} {x y : Value} (known : Bool)
      (hx : (l.pile (.hand a))[i]? = some x) (hy : (l.pile (.hand b))[j]? = some y)
      (hshown : known = true → shown x ∧ shown y) :
      Shift shown l [(a, y), (b, x)]
        ((((l.modify a (Seat.laid i y)).modify b (Seat.laid j x)).modify a
          (Seat.marked i known)).modify b (Seat.marked j known))
  | mark {l : Layout} {a i : Nat} {x : Value} (hx : (l.pile (.hand a))[i]? = some x)
      (hshown : shown x) : Shift shown l [] (l.modify a (Seat.marked i true))
  | showHand {l : Layout} {a : Nat} (hshown : ∀ card ∈ l.pile (.hand a), shown card) :
      Shift shown l [] (l.modify a Seat.shown)
  | trans {l l₁ l₂ : Layout} {puts puts' : List (Nat × Value)} (h : Shift shown l puts l₁)
      (h' : Shift shown l₁ puts' l₂) : Shift shown l (puts ++ puts') l₂

namespace Layout

variable {l : Layout} {a b i j : Nat} {s : Seat} {card : Value}

/-! ## Seats -/

theorem seats_modify (l : Layout) (a : Nat) (f : Seat → Seat) (b : Nat) :
    (l.modify a f).seats[b]? = if a = b then l.seats[b]?.map f else l.seats[b]? := by
  simp only [modify, List.getElem?_modify]
  split <;> simp

theorem pile_hand (h : l.seats[a]? = some s) : l.pile (.hand a) = s.cards := by simp [pile, h]

/-- A card in a hand lies in a seat. -/
theorem seat_of_card (h : (l.pile (.hand a))[i]? = some card) :
    ∃ s, l.seats[a]? = some s ∧ s.cards[i]? = some card := by
  cases hs : l.seats[a]? with
  | none => simp [pile, hs] at h
  | some s => exact ⟨s, rfl, by rwa [pile_hand hs] at h⟩

theorem lt_of_card (h : (l.pile (.hand a))[i]? = some card) : a < l.seats.length := by
  obtain ⟨s, hs, -⟩ := seat_of_card h
  exact (List.getElem?_eq_some_iff.1 hs).1

@[simp] theorem length_modify (l : Layout) (a : Nat) (f : Seat → Seat) :
    (l.modify a f).seats.length = l.seats.length := by simp [modify]

theorem pile_modify_laid (h : (l.pile (.hand a))[i]? = some card) (b j : Nat) (x : Value) :
    ((l.modify a (Seat.laid i x)).pile (.hand b))[j]? =
      if a = b ∧ i = j then some x else (l.pile (.hand b))[j]? := by
  obtain ⟨s, hs, hi⟩ := seat_of_card h
  have hlt : i < s.cards.length := (List.getElem?_eq_some_iff.1 hi).1
  simp only [pile, seats_modify]
  by_cases hab : a = b
  · subst hab
    by_cases hij : i = j
    · subst hij
      simp [hs, Seat.laid, List.getElem?_set_self hlt]
    · simp [hs, Seat.laid, List.getElem?_set_ne hij, hij]
  · simp [hab]

variable {x y : Value}

/-- A card stays in its place when it is laid into another one as well. -/
theorem card_of_laid (hx : (l.pile (.hand a))[i]? = some x) (hy : (l.pile (.hand b))[j]? = some y) :
    ((l.modify a (Seat.laid i y)).pile (.hand b))[j]? = some y := by
  rw [pile_modify_laid hx]
  split
  · rfl
  · exact hy

/-- The places of two cards after each was laid into the place of the other. -/
theorem pile_exchanged (hx : (l.pile (.hand a))[i]? = some x)
    (hy : (l.pile (.hand b))[j]? = some y) (c k : Nat) :
    (((l.modify a (Seat.laid i y)).modify b (Seat.laid j x)).pile (.hand c))[k]? =
      if b = c ∧ j = k then some x
      else if a = c ∧ i = k then some y
      else (l.pile (.hand c))[k]? := by
  rw [pile_modify_laid (card_of_laid hx hy), pile_modify_laid hx]

/-! ## Counting cards -/

theorem count_flatMap_modify (v : Value) (f : Seat → Seat) :
    ∀ (seats : List Seat) (a : Nat) (s : Seat), seats[a]? = some s →
    ((seats.modify a f).flatMap Seat.cards).count v + s.cards.count v =
      (seats.flatMap Seat.cards).count v + (f s).cards.count v
  | t :: seats, 0, s, h => by
    obtain rfl : t = s := by simpa using h
    simp only [List.modify_zero_cons, List.flatMap_cons, List.count_append]
    omega
  | t :: seats, a + 1, s, h => by
    have ih := count_flatMap_modify v f seats a s (by simpa using h)
    simp only [List.modify_succ_cons, List.flatMap_cons, List.count_append]
    omega

/-- A change to a seat changes the cards by those of the seat. -/
theorem count_modify (h : l.seats[a]? = some s) (f : Seat → Seat) (v : Value) :
    (l.modify a f).cards.count v + s.cards.count v = l.cards.count v + (f s).cards.count v := by
  have := count_flatMap_modify v f l.seats a s h
  simp only [cards, modify, List.count_append]
  omega

theorem cards_modify_of_same (f : Seat → Seat) (hf : ∀ s, (f s).cards = s.cards) (l : Layout)
    (a : Nat) : (l.modify a f).cards.Perm l.cards := by
  rw [List.perm_iff_count]
  intro v
  cases hs : l.seats[a]? with
  | none =>
    have : l.seats.length ≤ a := by simpa using hs
    simp [cards, modify, List.modify_eq_self this]
  | some s =>
    have := count_modify hs f v
    rw [hf s] at this
    omega

/-- What is taken out of a pile is missing from the cards. -/
theorem cards_without {p : Pile} {n : Nat} (h : (l.pile p)[n]? = some card) :
    l.cards.Perm (card :: (l.without p n).cards) := by
  have herase (xs : List Value) (hx : xs[n]? = some card) (v : Value) :
      xs.count v = (xs.eraseIdx n).count v + if card = v then 1 else 0 := by
    obtain ⟨hlt, rfl⟩ := List.getElem?_eq_some_iff.1 hx
    rw [← (List.getElem_cons_eraseIdx_perm hlt).count_eq v, List.count_cons]
    simp
  rw [List.perm_iff_count]
  intro v
  rw [List.count_cons]
  simp only [beq_iff_eq]
  cases p with
  | deck =>
    have := herase l.deck h v
    simp only [cards, without, List.count_append]
    omega
  | discard =>
    have := herase l.discard h v
    simp only [cards, without, List.count_append]
    omega
  | hand a =>
    obtain ⟨s, hs, hn⟩ := seat_of_card h
    have h₁ := herase s.cards hn v
    have h₂ : ((l.without (.hand a) n).cards).count v + s.cards.count v =
        l.cards.count v + (s.cards.eraseIdx n).count v := count_modify hs (·.without n) v
    omega

theorem cards_onTop {q : Pile} (h : l.Has q) (card : Value) :
    (l.onTop q card).cards.Perm (card :: l.cards) := by
  rw [List.perm_iff_count]
  intro v
  rw [List.count_cons]
  cases q with
  | deck =>
    simp only [cards, onTop, List.count_append, List.count_singleton]
    omega
  | discard =>
    simp only [cards, onTop, List.count_append, List.count_singleton]
    omega
  | hand a =>
    obtain ⟨s, hs⟩ : ∃ s, l.seats[a]? = some s := ⟨_, List.getElem?_eq_getElem h⟩
    have h' : ((l.onTop (.hand a) card).cards).count v + s.cards.count v =
        l.cards.count v + (s.cards ++ [card]).count v := count_modify hs (·.receiving card) v
    rw [List.count_append, List.count_singleton] at h'
    omega

/-- A card laid down replaces the one in its place. -/
theorem cards_laid (h : (l.pile (.hand a))[i]? = some card) :
    (card :: (l.modify a (Seat.laid i x)).cards).Perm (x :: l.cards) := by
  obtain ⟨s, hs, hi⟩ := seat_of_card h
  rw [List.perm_iff_count]
  intro v
  obtain ⟨hlt, rfl⟩ := List.getElem?_eq_some_iff.1 hi
  have h₁ := count_modify hs (Seat.laid i x) v
  have h₂ : (s.cards.set i x).count v = (x :: s.cards.eraseIdx i).count v :=
    (List.set_perm_cons_eraseIdx hlt x).count_eq v
  have h₃ : (s.cards[i] :: s.cards.eraseIdx i).count v = s.cards.count v :=
    (List.getElem_cons_eraseIdx_perm hlt).count_eq v
  simp only [Seat.laid] at h₁
  simp only [List.count_cons] at h₂ h₃ ⊢
  omega

theorem cards_exchanged (hx : (l.pile (.hand a))[i]? = some x)
    (hy : (l.pile (.hand b))[j]? = some y) :
    ((l.modify a (Seat.laid i y)).modify b (Seat.laid j x)).cards.Perm l.cards := by
  have hlay := cards_laid (x := y) hx
  have hlay' := cards_laid (x := x) (card_of_laid hx hy)
  exact (List.perm_cons _).1 (hlay'.trans hlay)

theorem has_without (l : Layout) (p q : Pile) (n : Nat) : (l.without p n).Has q ↔ l.Has q := by
  cases p <;> cases q <;> simp [Has, without, modify]

/-! ## Places -/

/-- Of pairwise different cards each lies in one place. -/
theorem place_unique (hn : l.cards.Nodup) (h : (l.pile (.hand a))[i]? = some card)
    (h' : (l.pile (.hand b))[j]? = some card) : a = b ∧ i = j := by
  obtain ⟨s, hs, hi⟩ := seat_of_card h
  obtain ⟨t, ht, hj⟩ := seat_of_card h'
  obtain ⟨hinner, houter⟩ := List.nodup_flatMap.1 (List.nodup_append'.1 hn).2.1
  obtain ⟨ha, rfl⟩ := List.getElem?_eq_some_iff.1 hs
  obtain ⟨hb, rfl⟩ := List.getElem?_eq_some_iff.1 ht
  have hdisjoint {a b : Nat} (hab : a < b) (hb : b < l.seats.length)
      (h : card ∈ l.seats[a].cards) (h' : card ∈ l.seats[b].cards) : False :=
    (List.pairwise_iff_getElem.1 houter a b (by omega) hb hab) h h'
  have hab : a = b := by
    by_contra hne
    rcases Nat.lt_or_gt_of_ne hne with hlt | hlt
    · exact hdisjoint hlt hb (List.mem_of_getElem? hi) (List.mem_of_getElem? hj)
    · exact hdisjoint hlt ha (List.mem_of_getElem? hj) (List.mem_of_getElem? hi)
  subst hab
  have hlt := (List.getElem?_eq_some_iff.1 hi).1
  exact ⟨rfl, List.getElem?_inj hlt (hinner _ (List.getElem_mem ha)) |>.1 (hi.trans hj.symm)⟩

theorem pile_modify_of_same (f : Seat → Seat) (hf : ∀ s, (f s).cards = s.cards) (l : Layout)
    (a : Nat) (p : Pile) : (l.modify a f).pile p = l.pile p := by
  cases p with
  | deck => rfl
  | discard => rfl
  | hand b =>
    simp only [pile, seats_modify]
    split
    · cases l.seats[b]? <;> simp [hf]
    · rfl

theorem pile_marked (l : Layout) (a i : Nat) (known : Bool) (p : Pile) :
    (l.modify a (Seat.marked i known)).pile p = l.pile p :=
  pile_modify_of_same (Seat.marked i known) (fun _ => rfl) l a p

theorem parallel_modify {f : Seat → Seat} (hf : ∀ s : Seat, s.Parallel → (f s).Parallel)
    (h : l.Parallel) (a : Nat) : (l.modify a f).Parallel := by
  intro s hs
  obtain ⟨b, hb⟩ := List.mem_iff_getElem?.1 hs
  rw [seats_modify] at hb
  split at hb
  · obtain ⟨t, ht, rfl⟩ := Option.map_eq_some_iff.1 hb
    exact hf t (h t (List.mem_of_getElem? ht))
  · exact h s (List.mem_of_getElem? hb)

/-- Flags that are in line stay as they are. -/
theorem modify_lined (h : l.Parallel) (a : Nat) : l.modify a Seat.lined = l := by
  have : l.seats.modify a Seat.lined = l.seats := by
    refine List.ext_getElem? fun n => ?_
    rw [List.getElem?_modify]
    split
    · cases hn : l.seats[n]? with
      | none => rfl
      | some s => simp [Seat.lined_of_parallel (h s (List.mem_of_getElem? hn))]
    · simp
  simp [modify, this]

theorem parallel_without (h : l.Parallel) (p : Pile) (n : Nat) : (l.without p n).Parallel := by
  cases p with
  | deck => exact h
  | discard => exact h
  | hand a => exact parallel_modify (fun s hs => Seat.parallel_without hs n) h a

theorem parallel_onTop (h : l.Parallel) (q : Pile) (card : Value) : (l.onTop q card).Parallel := by
  cases q with
  | deck => exact h
  | discard => exact h
  | hand a => exact parallel_modify (fun s hs => Seat.parallel_receiving hs card) h a

theorem parallel_laid (h : l.Parallel) (a i : Nat) (card : Value) :
    (l.modify a (Seat.laid i card)).Parallel :=
  parallel_modify (fun s hs => by simpa [Seat.Parallel, Seat.laid] using hs) h a

theorem parallel_marked (h : l.Parallel) (a i : Nat) (known : Bool) :
    (l.modify a (Seat.marked i known)).Parallel :=
  parallel_modify (fun s _ => s.parallel_marked i known) h a

theorem mem_of_without {p : Pile} {n : Nat} (h : card ∈ (l.without p n).pile (.hand a)) :
    card ∈ l.pile (.hand a) := by
  cases p with
  | deck => exact h
  | discard => exact h
  | hand b =>
    simp only [without, pile, seats_modify] at h ⊢
    split at h
    · cases hs : l.seats[a]? with
      | none => simp [hs] at h
      | some s =>
        rw [hs] at h
        exact List.mem_of_mem_eraseIdx h
    · exact h

theorem mem_of_onTop {q : Pile} {x : Value} (h : card ∈ (l.onTop q x).pile (.hand a)) :
    card ∈ l.pile (.hand a) ∨ (a, card) ∈ q.receives x := by
  cases q with
  | deck => exact .inl h
  | discard => exact .inl h
  | hand b =>
    simp only [onTop, pile, seats_modify] at h ⊢
    split at h
    · rename_i hab
      cases hs : l.seats[a]? with
      | none => simp [hs] at h
      | some s =>
        rw [hs] at h
        refine (List.mem_append.1 h).imp_right fun hx => ?_
        simp [Pile.receives, hab, List.mem_singleton.1 hx]
    · exact .inl h

/-! ## Marks -/

theorem Marked.in_pile (h : l.Marked a i card) : (l.pile (.hand a))[i]? = some card := by
  obtain ⟨s, hs, hi, _⟩ := h
  rwa [pile_hand hs]

theorem Marked.mem (h : l.Marked a i card) : card ∈ l.cards := by
  obtain ⟨s, hs, hi, _⟩ := h
  have : card ∈ l.seats.flatMap Seat.cards :=
    List.mem_flatMap.2 ⟨s, List.mem_of_getElem? hs, List.mem_of_getElem? hi⟩
  exact List.mem_append_right _ this

/-- A mark moves with its card when a card before it is taken out. -/
theorem marked_of_without {p : Pile} {n : Nat} (h : (l.without p n).Marked a i card) :
    ∃ k, l.Marked a k card := by
  cases p with
  | deck => exact ⟨i, h⟩
  | discard => exact ⟨i, h⟩
  | hand b =>
    obtain ⟨s, hs, hi, hf⟩ := h
    rw [without, seats_modify] at hs
    split at hs
    · obtain ⟨t, ht, rfl⟩ := Option.map_eq_some_iff.1 hs
      simp only [Seat.without, List.getElem?_eraseIdx] at hi hf
      by_cases hin : i < n
      · rw [if_pos hin] at hi hf
        exact ⟨i, t, ht, hi, hf⟩
      · rw [if_neg hin] at hi hf
        exact ⟨i + 1, t, ht, hi, hf⟩
    · exact ⟨i, s, hs, hi, hf⟩

/-- A card put on top is not marked. -/
theorem marked_of_onTop {q : Pile} {x : Value} (hp : l.Parallel)
    (h : (l.onTop q x).Marked a i card) : l.Marked a i card := by
  cases q with
  | deck => exact h
  | discard => exact h
  | hand b =>
    obtain ⟨s, hs, hi, hf⟩ := h
    rw [onTop, seats_modify] at hs
    split at hs
    · obtain ⟨t, ht, rfl⟩ := Option.map_eq_some_iff.1 hs
      have hlen : t.flags.length = t.cards.length := hp t (List.mem_of_getElem? ht)
      simp only [Seat.receiving] at hi hf
      by_cases hlt : i < t.flags.length
      · rw [List.getElem?_append_left (by omega)] at hi
        rw [List.getElem?_append_left hlt] at hf
        exact ⟨t, ht, hi, hf⟩
      · rw [List.getElem?_append_right (by omega), List.getElem?_singleton] at hf
        split at hf <;> simp at hf
    · exact ⟨s, hs, hi, hf⟩

theorem marked_of_laid {b j : Nat} {x : Value} (hne : ¬(b = a ∧ j = i))
    (h : (l.modify b (Seat.laid j x)).Marked a i card) : l.Marked a i card := by
  obtain ⟨s, hs, hi, hf⟩ := h
  rw [seats_modify] at hs
  by_cases hab : b = a
  · rw [if_pos hab] at hs
    obtain ⟨t, ht, rfl⟩ := Option.map_eq_some_iff.1 hs
    have hij : j ≠ i := fun h => hne ⟨hab, h⟩
    exact ⟨t, ht, by simpa [Seat.laid, List.getElem?_set_ne hij] using hi, hf⟩
  · rw [if_neg hab] at hs
    exact ⟨s, hs, hi, hf⟩

/-- A mark is the one just set, or was there before. -/
theorem marked_of_marked {b j : Nat} {known : Bool} (hp : l.Parallel)
    (h : (l.modify b (Seat.marked j known)).Marked a i card) :
    (b = a ∧ j = i) ∧ known = true ∨ ¬(b = a ∧ j = i) ∧ l.Marked a i card := by
  obtain ⟨s, hs, hi, hf⟩ := h
  rw [seats_modify] at hs
  by_cases hab : b = a
  · rw [if_pos hab] at hs
    obtain ⟨t, ht, rfl⟩ := Option.map_eq_some_iff.1 hs
    simp only [Seat.marked, Seat.lined_of_parallel (hp t (List.mem_of_getElem? ht))] at hi hf
    by_cases hij : j = i
    · rw [List.getElem?_set, if_pos hij] at hf
      split at hf
      · exact .inl ⟨⟨hab, hij⟩, by simpa using hf⟩
      · simp at hf
    · rw [List.getElem?_set_ne hij] at hf
      exact .inr ⟨fun h => hij h.2, t, ht, hi, hf⟩
  · rw [if_neg hab] at hs
    exact .inr ⟨fun h => hab h.1, s, hs, hi, hf⟩

/-- A mark after two cards have changed places is on one of them, if both are marked, or it was
there before, and then it is on another card. -/
theorem marked_of_exchanged {c k : Nat} {known : Bool} (hp : l.Parallel) (hn : l.cards.Nodup)
    (hx : (l.pile (.hand a))[i]? = some x) (hy : (l.pile (.hand b))[j]? = some y)
    (h : ((((l.modify a (Seat.laid i y)).modify b (Seat.laid j x)).modify a
      (Seat.marked i known)).modify b (Seat.marked j known)).Marked c k card) :
    known = true ∧ (card = x ∨ card = y) ∨
      l.Marked c k card ∧ (c, card) ≠ (a, y) ∧ (c, card) ≠ (b, x) := by
  have hp₁ := parallel_laid hp a i y
  have hp₂ := parallel_laid hp₁ b j x
  have hcard := h.in_pile
  rw [pile_marked, pile_marked, pile_exchanged hx hy] at hcard
  rcases marked_of_marked (parallel_marked hp₂ _ _ _) h with ⟨hb, hknown⟩ | ⟨hb, h₁⟩
  · rw [if_pos hb] at hcard
    exact .inl ⟨hknown, .inl (Option.some.inj hcard).symm⟩
  rw [if_neg hb] at hcard
  rcases marked_of_marked hp₂ h₁ with ⟨ha, hknown⟩ | ⟨ha, h₂⟩
  · rw [if_pos ha] at hcard
    exact .inl ⟨hknown, .inr (Option.some.inj hcard).symm⟩
  rw [if_neg ha] at hcard
  -- in another place lies another card
  refine .inr ⟨marked_of_laid ha (marked_of_laid hb h₂), fun heq => ?_, fun heq => ?_⟩
  · obtain ⟨-, rfl⟩ := Prod.mk.inj heq
    exact hb (place_unique hn hy hcard)
  · obtain ⟨-, rfl⟩ := Prod.mk.inj heq
    exact ha (place_unique hn hx hcard)

end Layout

/-! ## Shifts -/

namespace Shift

variable {shown : Value → Prop} {l l' : Layout} {puts : List (Nat × Value)}

/-- No operation makes or loses a card. -/
theorem perm (h : Shift shown l puts l') : l'.cards.Perm l.cards := by
  induction h with
  | stay l => exact .refl _
  | line l a => exact Layout.cards_modify_of_same Seat.lined (fun _ => rfl) l a
  | @move l p q n card hp hq =>
    have hq' : (l.without p n).Has q := (Layout.has_without l p q n).2 hq
    exact (Layout.cards_onTop hq' card).trans (Layout.cards_without hp).symm
  | @swap l a b i j x y known hx hy hs =>
    have hmark (l : Layout) (a i : Nat) : (l.modify a (Seat.marked i known)).cards.Perm l.cards :=
      Layout.cards_modify_of_same (Seat.marked i known) (fun _ => rfl) l a
    exact (hmark _ b j).trans ((hmark _ a i).trans (Layout.cards_exchanged hx hy))
  | @mark l a i x hx hs => exact Layout.cards_modify_of_same (Seat.marked i true) (fun _ => rfl) l a
  | @showHand l a hs => exact Layout.cards_modify_of_same Seat.shown (fun _ => rfl) l a
  | trans _ _ ih ih' => exact ih'.trans ih

/-- Every operation keeps flags and cards in line. -/
theorem parallel (h : Shift shown l puts l') (hp : l.Parallel) : l'.Parallel := by
  induction h with
  | stay l => exact hp
  | line l a => exact Layout.parallel_modify (fun s _ => s.length_lined) hp a
  | move _ _ => exact Layout.parallel_onTop (Layout.parallel_without hp _ _) _ _
  | swap known _ _ _ =>
    exact Layout.parallel_marked (Layout.parallel_marked
      (Layout.parallel_laid (Layout.parallel_laid hp _ _ _) _ _ _) _ _ _) _ _ _
  | mark _ _ => exact Layout.parallel_marked hp _ _ _
  | showHand _ => exact Layout.parallel_modify (fun s _ => s.parallel_shown) hp _
  | trans _ _ ih ih' => exact ih' (ih hp)

/-- A card that is marked after an operation was shown by it, or was marked in this hand before and
was not put there anew. -/
theorem marked (h : Shift shown l puts l') (hp : l.Parallel) (hn : l.cards.Nodup) {a i : Nat}
    {card : Value} (hm : l'.Marked a i card) :
    shown card ∨ (∃ k, l.Marked a k card) ∧ (a, card) ∉ puts := by
  induction h generalizing i with
  | stay l => exact .inr ⟨⟨i, hm⟩, by simp⟩
  | line l b =>
    rw [Layout.modify_lined hp b] at hm
    exact .inr ⟨⟨i, hm⟩, by simp⟩
  | @move l p q n x hx hq =>
    have hm' := Layout.marked_of_onTop (Layout.parallel_without hp p n) hm
    -- the card taken lies nowhere else, so it is not the marked one
    have hne : card ≠ x := by
      rintro rfl
      have := (Layout.cards_without hx).nodup_iff.1 hn
      exact (List.nodup_cons.1 this).1 hm'.mem
    refine .inr ⟨Layout.marked_of_without hm', ?_⟩
    cases q <;> simp [Pile.receives, hne]
  | @swap l b c j k x y known hx hy hs =>
    rcases Layout.marked_of_exchanged hp hn hx hy hm with ⟨hknown, rfl | rfl⟩ | ⟨hm', hy', hx'⟩
    · exact .inl (hs hknown).1
    · exact .inl (hs hknown).2
    · exact .inr ⟨⟨i, hm'⟩, by simp [hy', hx']⟩
  | @mark l b j x hx hs =>
    rcases Layout.marked_of_marked hp hm with ⟨⟨rfl, rfl⟩, -⟩ | ⟨-, hm'⟩
    · have hcard := hm.in_pile
      rw [Layout.pile_marked, hx] at hcard
      obtain rfl := Option.some.inj hcard
      exact .inl hs
    · exact .inr ⟨⟨i, hm'⟩, by simp⟩
  | @showHand l b hs =>
    by_cases hab : b = a
    · subst hab
      have hcard := hm.in_pile
      rw [Layout.pile_modify_of_same Seat.shown (fun _ => rfl)] at hcard
      exact .inl (hs card (List.mem_of_getElem? hcard))
    · obtain ⟨s, hseat, hi, hf⟩ := hm
      rw [Layout.seats_modify, if_neg hab] at hseat
      exact .inr ⟨⟨i, s, hseat, hi, hf⟩, by simp⟩
  | @trans l l₁ l₂ puts puts' h h' ih ih' =>
    rcases ih' (h.parallel hp) (h.perm.nodup_iff.2 hn) hm with hs | ⟨⟨k, hm₁⟩, hput'⟩
    · exact .inl hs
    rcases ih hp hn hm₁ with hs | ⟨hm₀, hput⟩
    · exact .inl hs
    · exact .inr ⟨hm₀, by simp [hput, hput']⟩

/-- A card in a hand was there before, or was put there. -/
theorem mem_hand (h : Shift shown l puts l') {a : Nat} {card : Value}
    (hm : card ∈ l'.pile (.hand a)) : card ∈ l.pile (.hand a) ∨ (a, card) ∈ puts := by
  induction h with
  | stay l => exact .inl hm
  | line l b =>
    rw [Layout.pile_modify_of_same Seat.lined (fun _ => rfl)] at hm
    exact .inl hm
  | @move l p q n x hx hq =>
    exact (Layout.mem_of_onTop hm).imp_left Layout.mem_of_without
  | @swap l b c j k x y known hx hy hs =>
    rw [Layout.pile_marked, Layout.pile_marked] at hm
    obtain ⟨i, hi⟩ := List.mem_iff_getElem?.1 hm
    rw [Layout.pile_exchanged hx hy] at hi
    split at hi
    · rename_i hc
      obtain rfl := Option.some.inj hi
      exact .inr (by simp [hc.1])
    split at hi
    · rename_i hb
      obtain rfl := Option.some.inj hi
      exact .inr (by simp [hb.1])
    · exact .inl (List.mem_of_getElem? hi)
  | @mark l b j x hx hs =>
    rw [Layout.pile_marked] at hm
    exact .inl hm
  | @showHand l b hs =>
    rw [Layout.pile_modify_of_same Seat.shown (fun _ => rfl)] at hm
    exact .inl hm
  | trans _ _ ih ih' =>
    rcases ih' hm with hm' | hput
    · exact (ih hm').imp_right (List.mem_append_left _)
    · exact .inr (List.mem_append_right _ hput)

end Shift

end CardRules
