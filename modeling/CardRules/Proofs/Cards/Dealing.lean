import CardRules.Play.Deal
import CardRules.Proofs.Cards.Handling

/-!
# The deal

Shuffling changes the order of cards only (`shuffle_perm`), and dealing lays every card out once,
unknown to everybody (`newGame_lays`).
-/

namespace CardRules

/-! ## Shuffling -/

theorem exchange_perm {α : Type} (xs : List α) (i j : Nat) : (exchange xs i j).Perm xs := by
  unfold exchange
  split
  · rename_i x y hx hy
    obtain ⟨hi, rfl⟩ := List.getElem?_eq_some_iff.1 hx
    obtain ⟨hj, rfl⟩ := List.getElem?_eq_some_iff.1 hy
    exact List.set_set_perm hi hj
  · exact .refl _

theorem shuffleFrom_perm {α : Type} (i : Nat) :
    ∀ (source : Source) (xs : List α), (shuffleFrom source i xs).items.Perm xs := by
  induction i with
  | zero => exact fun _ _ => .refl _
  | succ i ih =>
    intro source xs
    simp only [shuffleFrom]
    split
    · exact .refl _
    · split
      · exact .refl _
      · exact (ih _ _).trans (exchange_perm xs _ _)

theorem shuffle_perm {α : Type} (source : Source) (xs : List α) :
    (shuffle source xs).items.Perm xs := shuffleFrom_perm _ source xs

/-! ## Dealing -/

/-- All cards of a seat are unknown. -/
def Seat.Unseen (s : Seat) : Prop := s.flags = List.replicate s.cards.length (.bool false)

/-- The hands are the front of the cards, in order. -/
theorem dealFrom?_ok {handSize : Nat} {entries : List Value} :
    ∀ {seat : Nat} {cards rest : List Value} {players : List Player},
    dealFrom? handSize seat entries cards = .ok (players, rest) →
    ∃ seats, List.Forall₂ Player.Holds players seats ∧
      seats.flatMap Seat.cards ++ rest = cards ∧ ∀ s ∈ seats, s.Unseen := by
  induction entries with
  | nil =>
    intro seat cards rest players h
    cases h
    exact ⟨[], .nil, rfl, by simp⟩
  | cons entry entries ih =>
    intro seat cards rest players h
    rw [dealFrom?] at h
    cases hentry : playerEntry? seat entry with
    | error f => rw [hentry] at h; cases h
    | ok named =>
      obtain ⟨id, name⟩ := named
      rw [hentry] at h
      cases hrest : dealFrom? handSize (seat + 1) entries (cards.drop handSize) with
      | error f => simp only [hrest] at h; cases h
      | ok dealt =>
        obtain ⟨others, left⟩ := dealt
        simp only [hrest] at h
        cases h
        obtain ⟨seats, hholds, hcards, hunseen⟩ := ih hrest
        refine ⟨⟨cards.take handSize,
          List.replicate (cards.take handSize).length (.bool false)⟩ :: seats,
          .cons ⟨rfl, rfl⟩ hholds, ?_, ?_⟩
        · rw [List.flatMap_cons, List.append_assoc, hcards, List.take_append_drop]
        · intro s hs
          rcases List.mem_cons.1 hs with rfl | hs
          · rfl
          · exact hunseen s hs

theorem dealGame?_lays {m : Metadata} {players : Value} {cards : List Value} {g : Game}
    (h : dealGame? m players cards = .ok g) :
    ∃ l, g.Lays l ∧ l.cards.Perm cards ∧ ∀ s ∈ l.seats, s.Unseen := by
  unfold dealGame? at h
  cases hentries : players.parts? with
  | error f => rw [hentries] at h; cases h
  | ok entries =>
    rw [hentries] at h
    cases hdeal : dealFrom? m.setup.handSize.toNat 0 entries cards with
    | error f => simp only [bind, Except.bind, hdeal] at h; cases h
    | ok dealt =>
      obtain ⟨seated, deck⟩ := dealt
      simp only [bind, Except.bind, hdeal] at h
      cases h
      obtain ⟨seats, hholds, hcards, hunseen⟩ := dealFrom?_ok hdeal
      refine ⟨⟨deck, [], seats⟩, ⟨rfl, rfl, hholds⟩, ?_, hunseen⟩
      rw [← hcards, Layout.cards, List.append_nil]
      exact List.perm_append_comm

/-- A fresh match lays out the cards it starts with, all of them unknown. -/
theorem newGame_lays {m : Metadata} {source : Source} {players deck shuffled : Value}
    {cards : List Value} {g : Game} (hcards : m.startCards? deck = .ok cards)
    (h : (newGame m source players deck shuffled).1 = .ok g) :
    ∃ l, g.Lays l ∧ l.cards.Perm cards ∧ ∀ s ∈ l.seats, s.Unseen := by
  unfold newGame at h
  rw [hcards] at h
  dsimp only at h
  split at h
  · split at h
    · cases h
    · obtain ⟨l, hl, hperm, hunseen⟩ := dealGame?_lays h
      exact ⟨l, hl, hperm.trans (shuffle_perm source cards), hunseen⟩
  · exact dealGame?_lays h

end CardRules
