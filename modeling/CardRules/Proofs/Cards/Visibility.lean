import CardRules.Proofs.Cards.Conservation
import CardRules.Proofs.Cards.Dealing

/-!
# Known cards were shown

A player's flags say which cards of the hand have been revealed. `known_shown`: in every state
that a fresh match of pairwise different cards can come to, a flag that is set stands beside a
card that was shown since it was last put into that hand. Flags stay with their cards, wherever
these go (`Shift.marked`), and what a step shows it reports (`Step.Shows`). What a step puts into
hands (`Step.puts`) is all that comes into them: a card that lies in a hand after a step was there
before it, or was put there (`Step.mem_hand_left`).
-/

namespace CardRules

/-- A card was shown by a step, and no step since has put it into the hand of the seat. By
`Step.mem_hand_left` it cannot have come into the hand in any other way either. -/
def ShownSince (b : Rulebook) (past : List Step) (a : Nat) (card : Value) : Prop :=
  ∃ early s late, past = early ++ s :: late ∧ s.Shows b card ∧
    ∀ t ∈ late, (a, card) ∉ t.puts b

namespace ShownSince

variable {b : Rulebook} {past : List Step} {a : Nat} {card : Value} {s : Step}

theorem now (h : s.Shows b card) : ShownSince b (past ++ [s]) a card :=
  ⟨past, s, [], rfl, h, by simp⟩

theorem still (h : ShownSince b past a card) (hput : (a, card) ∉ s.puts b) :
    ShownSince b (past ++ [s]) a card := by
  obtain ⟨early, t, late, rfl, hshows, hlate⟩ := h
  refine ⟨early, t, late ++ [s], by simp, hshows, fun u hu => ?_⟩
  rcases List.mem_append.1 hu with hu | hu
  · exact hlate u hu
  · rw [List.mem_singleton.1 hu]
    exact hput

end ShownSince

/-- The marks of a game: it has a layout of pairwise different cards with a flag for each card of a
hand, and each card that is marked was shown since it came into the hand. -/
def MarksShown (b : Rulebook) (past : List Step) (g : Game) : Prop :=
  ∃ l, g.Lays l ∧ l.Parallel ∧ l.cards.Nodup ∧ Value.null ∉ l.cards ∧
    ∀ a i card, l.Marked a i card → ShownSince b past a card

theorem MarksShown.step {b : Rulebook} {past : List Step} {s : Step}
    (h : MarksShown b past s.game) (hspares : s.SparesHands b) :
    MarksShown b (past ++ [s]) (s.left b).game := by
  obtain ⟨l, hl, hparallel, hnodup, hn, hmarks⟩ := h
  obtain ⟨l', hl', hshift⟩ := Step.shifts hl hn hspares
  have hperm := hshift.perm
  refine ⟨l', hl', hshift.parallel hparallel, hperm.nodup_iff.2 hnodup,
    fun hmem => hn (hperm.mem_iff.1 hmem), fun a i card hm => ?_⟩
  rcases hshift.marked hparallel hnodup hm with hshows | ⟨⟨k, hm'⟩, hput⟩
  · exact .now hshows
  · exact (hmarks a k card hm').still hput

/-- A fresh match has no marks. -/
theorem marksShown_newGame {b : Rulebook} {source : Source} {players deck shuffled : Value}
    {cards : List Value} {g : Game} (hcards : b.document.metadata.startCards? deck = .ok cards)
    (hcodes : ∀ v ∈ cards, v.IsCard) (hnodup : cards.Nodup)
    (h : (newGame b.document.metadata source players deck shuffled).1 = .ok g) :
    MarksShown b [] g := by
  obtain ⟨l, hl, hperm, hunseen⟩ := newGame_lays hcards h
  refine ⟨l, hl, fun s hs => ?_, hperm.nodup_iff.2 hnodup, fun hnull => ?_, fun a i card hm => ?_⟩
  · rw [Seat.Parallel, hunseen s hs, List.length_replicate]
  · obtain ⟨code, hcode⟩ := hcodes _ (hperm.mem_iff.1 hnull)
    cases hcode
  · obtain ⟨s, hs, -, v, hv, hne⟩ := hm
    rw [hunseen s (List.mem_of_getElem? hs)] at hv
    exact absurd (List.eq_of_mem_replicate (List.mem_of_getElem? hv)) hne

/-- No stale or unearned marks: after any calls on a fresh match of pairwise different cards, also
calls that failed, every player has a flag for each card of the hand, and beside a flag that is
anything but false lies a card that was shown since it was last put into this hand. -/
theorem known_shown (b : Rulebook) (source : Source) (players deck shuffled : Value)
    (cards : List Value) (g : Game) (calls : List Call)
    (hcards : b.document.metadata.startCards? deck = .ok cards)
    (hcodes : ∀ v ∈ cards, v.IsCard) (hnodup : cards.Nodup)
    (hnew : (newGame b.document.metadata source players deck shuffled).1 = .ok g)
    (hspares : ∀ s ∈ history b g calls, s.SparesHands b) (a : Nat) (p : Player)
    (hp : (g.after b calls).players[a]? = some p) :
    ∃ hand flags : List Value, p.hand = .list hand ∧ p.known = .list flags ∧
      flags.length = hand.length ∧
      ∀ (i : Nat) (v : Value), flags[i]? = some v → v ≠ .bool false →
        ∃ card, hand[i]? = some card ∧ ShownSince b (history b g calls) a card := by
  have hstart := marksShown_newGame hcards hcodes hnodup hnew
  obtain ⟨l, hl, hparallel, -, -, hmarks⟩ := history_induction (M := MarksShown b) calls [] g
    (fun past s hs h => h.step (hspares s hs)) hstart
  obtain ⟨s, hs, hholds⟩ := hl.seat hp
  have hlength : s.flags.length = s.cards.length := hparallel s (List.mem_of_getElem? hs)
  refine ⟨s.cards, s.flags, hholds.hand, hholds.known, hlength, fun i v hv hne => ?_⟩
  have hlt : i < s.cards.length := by
    rw [← hlength]
    exact (List.getElem?_eq_some_iff.1 hv).1
  have hcard : s.cards[i]? = some s.cards[i] := List.getElem?_eq_getElem hlt
  exact ⟨s.cards[i], hcard, hmarks a i _ ⟨s, hs, hcard, v, hv, hne⟩⟩

/-- The trade puts an ace into the first hand, and the ability then shows it. -/
theorem known_shown_sample :
    ∃ (cards : List Value) (p : Player),
      Sample.rulebook.document.metadata.startCards? .null = .ok cards ∧
      (∀ v ∈ cards, v.IsCard) ∧ cards.Nodup ∧
      (newGame Sample.rulebook.document.metadata default (.list [.text "Ann", .text "Bob"]) .null
        .null).1 = .ok Sample.game ∧
      (∀ s ∈ history Sample.rulebook Sample.game [Sample.trade],
        s.SparesHands Sample.rulebook) ∧
      (Sample.game.after Sample.rulebook [Sample.trade]).players[0]? = some p ∧
      p.hand = .list [.text "AH", .text "2H"] ∧ p.known = .list [.bool true, .bool false] ∧
      ShownSince Sample.rulebook (history Sample.rulebook Sample.game [Sample.trade]) 0
        (.text "AH") := by
  let cards : List Value := [.text "AS", .text "AH", .text "2S", .text "2H"]
  let p : Player :=
    { id := .int 1, name := .text "Ann", hand := .list [.text "AH", .text "2H"],
      known := .list [.bool true, .bool false], justDrawn := .bool true }
  have hcards : Sample.rulebook.document.metadata.startCards? .null = .ok cards := by decide +kernel
  have hcodes : ∀ v ∈ cards, v.IsCard := by simp [cards, Value.IsCard]
  have hnodup : cards.Nodup := by decide +kernel
  have hnew : (newGame Sample.rulebook.document.metadata default
      (.list [.text "Ann", .text "Bob"]) .null .null).1 = .ok Sample.game := by decide +kernel
  have hspares : ∀ s ∈ history Sample.rulebook Sample.game [Sample.trade],
      s.SparesHands Sample.rulebook := by decide +kernel
  have hp : (Sample.game.after Sample.rulebook [Sample.trade]).players[0]? = some p := by
    decide +kernel
  refine ⟨cards, p, hcards, hcodes, hnodup, hnew, hspares, hp, rfl, rfl, ?_⟩
  obtain ⟨hand, flags, hhand, hflags, -, hshown⟩ := known_shown _ _ _ _ _ cards _ [Sample.trade]
    hcards hcodes hnodup hnew hspares 0 p hp
  cases hhand
  cases hflags
  obtain ⟨card, hcard, hsince⟩ := hshown 0 (.bool true) rfl (by simp)
  cases hcard
  exact hsince

end CardRules
