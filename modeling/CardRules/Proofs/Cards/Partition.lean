import CardRules.Proofs.Cards.Decks
import CardRules.Proofs.Random.Orders
import Mathlib.Data.List.Basic

/-!
# Dealing as a partition

The hands of a fresh match are the first slices of the cards, one for each player and all of the
size the setup asks for, and what follows them is the deck (`dealFrom?_slices`). A slice is short or
empty where the cards run out, and the slices with the rest after them are the cards again
(`flatten_slices`). The shuffle before dealing cannot fail with draws of the unit interval, so the
deal always succeeds (`newGame_partition`).
-/

namespace CardRules

/-! ## Slices -/

section Slices

variable {α : Type}

/-- The `k`th slice of a list that is cut into slices of one size. -/
def slice (size : Nat) (xs : List α) (k : Nat) : List α := (xs.drop (k * size)).take size

/-- The first `n` slices. -/
def slices (size : Nat) (xs : List α) (n : Nat) : List (List α) :=
  (List.range n).map (slice size xs)

theorem length_slices (size : Nat) (xs : List α) (n : Nat) : (slices size xs n).length = n := by
  rw [slices, List.length_map, List.length_range]

theorem getElem?_slices (size : Nat) (xs : List α) {k n : Nat} (h : k < n) :
    (slices size xs n)[k]? = some (slice size xs k) := by
  rw [slices, List.getElem?_map, List.getElem?_range h, Option.map_some]

/-- The slices after the first one are those of the rest. -/
theorem slices_succ (size : Nat) (xs : List α) (n : Nat) :
    slices size xs (n + 1) = xs.take size :: slices size (xs.drop size) n := by
  have hslice (k : Nat) : slice size xs (k + 1) = slice size (xs.drop size) k := by
    rw [slice, slice, List.drop_drop, Nat.succ_mul, Nat.add_comm]
  rw [slices, List.range_succ_eq_map, List.map_cons, List.map_map, slice, Nat.zero_mul]
  exact congrArg _ (List.map_congr_left fun k _ => hslice k)

/-- The slices with the rest after them are the list again. -/
theorem flatten_slices (size : Nat) (xs : List α) (n : Nat) :
    (slices size xs n).flatten ++ xs.drop (n * size) = xs := by
  induction n generalizing xs with
  | zero => rw [Nat.zero_mul]; rfl
  | succ n ih =>
    have hrest := ih (xs.drop size)
    rw [List.drop_drop, Nat.add_comm, ← Nat.succ_mul] at hrest
    rw [slices_succ, List.flatten_cons, List.append_assoc, hrest, List.take_append_drop]

end Slices

/-! ## Dealing -/

/-- What a player can be given as: a name, or an object. -/
inductive Value.IsEntry : Value → Prop
  | name (s : String) : Value.IsEntry (.text s)
  | object (es : Table Value) : Value.IsEntry (.object es)

theorem Value.IsEntry.named {e : Value} (h : e.IsEntry) (seat : Nat) :
    ∃ named, playerEntry? seat e = .ok named := by
  cases h with
  | name s => exact ⟨_, rfl⟩
  | object es => exact ⟨_, rfl⟩

/-- A hand none of whose cards is known. -/
def unknown (hand : List Value) : Value := .list (List.replicate hand.length (.bool false))

/-- Each player gets a slice, all of it unknown, and what follows the slices is left. -/
theorem dealFrom?_slices {size : Nat} {entries : List Value} (h : ∀ e ∈ entries, e.IsEntry)
    (seat : Nat) (cards : List Value) :
    ∃ players,
      dealFrom? size seat entries cards = .ok (players, cards.drop (entries.length * size)) ∧
      players.map Player.hand = (slices size cards entries.length).map .list ∧
      players.map Player.known = (slices size cards entries.length).map unknown := by
  induction entries generalizing seat cards with
  | nil =>
    refine ⟨[], ?_, rfl, rfl⟩
    rw [dealFrom?, List.length_nil, Nat.zero_mul]
    rfl
  | cons entry entries ih =>
    obtain ⟨⟨id, name⟩, hnamed⟩ := (h entry List.mem_cons_self).named seat
    obtain ⟨players, hdeal, hhands, hknown⟩ :=
      ih (fun e he => h e (List.mem_cons_of_mem _ he)) (seat + 1) (cards.drop size)
    have hrest : (cards.drop size).drop (entries.length * size) =
        cards.drop ((entries.length + 1) * size) := by
      rw [List.drop_drop, Nat.succ_mul, Nat.add_comm]
    rw [hrest] at hdeal
    refine ⟨{ id, name, hand := .list (cards.take size), known := unknown (cards.take size) } ::
      players, ?_, ?_, ?_⟩
    · rw [dealFrom?, hnamed]
      simp only [bind, Except.bind, hdeal]
      rfl
    · rw [List.length_cons, slices_succ, List.map_cons, List.map_cons, hhands]
    · rw [List.length_cons, slices_succ, List.map_cons, List.map_cons, hknown]

/-! ## Fresh matches -/

namespace Metadata

/-- The cards a match starts with: the given ones, or one card for each rank and suit. -/
def StartsWith (m : Metadata) (deck : Value) (cards : List Value) : Prop :=
  if deck = .null then
    cards = (m.deck.ranks ×ˢ m.deck.suits).map fun card => .text (card.1 ++ card.2)
  else deck.parts? = .ok cards

/-- The first that is set of an argument, the setup and yes. -/
def firstSet (m : Metadata) (argument : Value) : Value :=
  ([argument, (m.setup.shuffle.map .bool).getD .null].find? (· ≠ .null)).getD (.bool true)

/-- The cards in the order in which they are dealt. -/
def order (m : Metadata) (source : Source) (argument : Value) (cards : List Value) : List Value :=
  if (m.firstSet argument).isVoid then cards else (shuffle source cards).items

variable {m : Metadata}

theorem StartsWith.startCards? {deck : Value} {cards : List Value} (h : m.StartsWith deck cards) :
    m.startCards? deck = .ok cards := by
  rw [StartsWith] at h
  rw [Metadata.startCards?]
  split at h
  · rename_i hnull
    rw [if_pos hnull, h, Metadata.cards, buildDeck_eq_map_product, List.map_map]
    rfl
  · rename_i hdeck
    rw [if_neg hdeck, h]

theorem shuffles_eq (m : Metadata) (argument : Value) :
    m.shuffles argument = !(m.firstSet argument).isVoid := by
  rw [shuffles, firstSet]
  by_cases hargument : argument = .null
  · subst hargument
    cases m.setup.shuffle <;> simp [Value.isVoid]
  · simp [hargument]

end Metadata

theorem newGame_eq {m : Metadata} {source : Source} {players deck argument : Value}
    {cards : List Value} (hcards : m.startCards? deck = .ok cards)
    (hfault : (shuffle source cards).fault = none) :
    (newGame m source players deck argument).1 =
      dealGame? m players (m.order source argument cards) := by
  rw [newGame, hcards, Metadata.order]
  cases hvoid : (m.firstSet argument).isVoid with
  | true => simp [Metadata.shuffles_eq, hvoid]
  | false => simp [Metadata.shuffles_eq, hvoid, hfault]

theorem Metadata.order_perm (m : Metadata) (source : Source) (argument : Value)
    (cards : List Value) : (m.order source argument cards).Perm cards := by
  rw [order]
  split
  · exact .refl cards
  · exact shuffle_perm source cards

/-- A fresh match partitions its cards, in the order the shuffle leaves them in, or as they come if
the first that is set of the argument, the setup and yes is not true: the hands in seat order, with
the deck after them, are these cards. The hand in seat `k` is the `k`th slice of the size the setup
asks for, a negative one counting as zero; no card is known, the discard pile is empty and the first
seat is to play. All draws are of the unit interval, every entry names a player, and the number of
cards is one that a draw can be multiplied by, as any number below `2 ^ 64` is. -/
theorem newGame_partition {m : Metadata} {source : Source} {players deck argument : Value}
    {entries cards : List Value} (hdraws : ∀ k, (source.draw k).InUnit)
    (hplayers : players.parts? = .ok entries) (hentries : ∀ e ∈ entries, e.IsEntry)
    (hcards : m.StartsWith deck cards) (hsize : ¬ (Number.int cards.length).TooLarge) :
    ∃ (g : Game) (hands : List (List Value)) (order : List Value),
      (newGame m source players deck argument).1 = .ok g ∧
      order = (if (m.firstSet argument).isVoid then cards else (shuffle source cards).items) ∧
      order.Perm cards ∧
      hands.flatten ++ g.deck = order ∧
      hands.length = entries.length ∧
      (∀ k < entries.length, hands[k]? =
        some ((order.drop (k * m.setup.handSize.toNat)).take m.setup.handSize.toNat)) ∧
      g.players.map Player.hand = hands.map .list ∧
      g.players.map Player.known = hands.map unknown ∧
      g.discard = [] ∧ g.turn.seat = .int 0 := by
  have hgame : (newGame m source players deck argument).1 =
      dealGame? m players (m.order source argument cards) :=
    newGame_eq hcards.startCards? (shuffle_fault_of_inUnit hdraws hsize)
  obtain ⟨seated, hdeal, hhands, hknown⟩ := @dealFrom?_slices m.setup.handSize.toNat
    entries hentries 0 (m.order source argument cards)
  have hok : dealGame? m players (m.order source argument cards) =
      .ok { deck := (m.order source argument cards).drop (entries.length * m.setup.handSize.toNat)
            players := seated
            turn := { phase := .text m.firstPhase } } := by
    rw [dealGame?, hplayers]
    simp only [bind, Except.bind, hdeal]
    rfl
  exact ⟨_, slices m.setup.handSize.toNat (m.order source argument cards) entries.length, _,
    hgame.trans hok, rfl, m.order_perm source argument cards, flatten_slices _ _ _,
    length_slices _ _ _, fun k hk => getElem?_slices _ _ hk, hhands, hknown, rfl, rfl⟩

/-- Of four cards that zero draws turn round, each of two players gets one. -/
theorem newGame_partition_sample :
    (∀ k, ((Source.fixed [.int 0] 0).draw k).InUnit) ∧
      ∃ (m : Metadata) (g : Game) (hands : List (List Value)),
        m.deck = ⟨["2", "3"], ["H", "S"]⟩ ∧ m.setup.handSize = 1 ∧
        (newGame m (.fixed [.int 0] 0) (.list [.text "Ann", .object []]) .null .null).1 = .ok g ∧
        hands.flatten ++ g.deck = [.text "2S", .text "3H", .text "3S", .text "2H"] ∧
        hands[1]? = some [.text "3H"] := by
  have hdraws (k : Nat) : ((Source.fixed [.int 0] 0).draw k).InUnit := by
    rw [Source.fixed_draw, List.length_singleton, Nat.mod_one]
    exact ⟨(fun _ hx => nomatch hx), by decide, by decide⟩
  obtain ⟨m, hm⟩ : ∃ m : Metadata,
      m = ⟨⟨["2", "3"], ["H", "S"]⟩, ⟨1, none, none⟩, [], [], none, []⟩ := ⟨_, rfl⟩
  have hentries : ∀ e ∈ [Value.text "Ann", .object []], e.IsEntry := by
    rw [List.forall_mem_cons, List.forall_mem_singleton]
    exact ⟨.name "Ann", .object []⟩
  have hcards : m.StartsWith .null [.text "2H", .text "2S", .text "3H", .text "3S"] := by
    rw [hm, Metadata.StartsWith, if_pos rfl]
    rfl
  have hsize : ¬ (Number.int (4 : Nat)).TooLarge := Number.not_tooLarge_of_lt (by decide)
  obtain ⟨g, hands, order, hgame, horder, -, hflat, -, hhands, -⟩ :=
    @newGame_partition m _ (.list _) .null .null _ _ hdraws rfl hentries hcards hsize
  have hturned : order = [.text "2S", .text "3H", .text "3S", .text "2H"] := by
    rw [horder, hm]
    decide +kernel
  refine ⟨hdraws, m, g, hands, by rw [hm], by rw [hm], hgame, hflat.trans hturned, ?_⟩
  rw [hhands 1 (by decide), hturned, hm]
  rfl

end CardRules
