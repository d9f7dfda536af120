import CardRules.Play.Execute
import CardRules.Proofs.Cards.Transpositions
import CardRules.Proofs.Play.Indices

/-!
# Index parameters

What effects do with a value that names no place of a hand. Moves and the abilities of cards do
nothing (`Play.PassesOver`), swaps and showing a card refuse it (`Play.Refusal`,
`Play.OutOfRange`), and the run is as it was. `indices_handled` says so of all values but the texts
that mislead: those cannot be read, by none of the six effects.
-/

namespace CardRules

namespace Play

variable {r : Run} {b : Rulebook} {c : Circumstances} {p q : Pile} {v index : Value} {a : Nat}
  {source target ref : String} {param : Option String} {size : Nat}

/-! ## Moves -/

/-- The step goes without a place that the value does not name. -/
structure PassesOver (x : Play Unit) (r : Run) (v : Value) (size : Nat) : Prop where
  unreadable : v.Misleads → x r = .error (.fault .unreadable) r
  completes : ¬ v.Misleads → ∃ r', x r = .ok () r'
  unchanged : ¬ v.Misleads → ¬ v.InRange size → x r = .ok () r

/-- A move between piles in line ends well, and without a card to take it changes nothing. -/
theorem moveMany_completes (hp : r.game.Lined p) (hq : r.game.Lined q) (index index' : Value)
    (n : Nat) :
    ∃ r', moveMany ⟨p, index⟩ ⟨q, index'⟩ n r = .ok () r' ∧
      ((∀ k, PileRef.slot? ⟨p, index⟩ (r.game.cardsOf p).length = some k →
        (r.game.cardsOf p).length ≤ k) → r' = r) := by
  induction n generalizing r with
  | zero => exact ⟨r, rfl, fun _ => rfl⟩
  | succ n ih =>
    by_cases hnone : ∀ k, PileRef.slot? ⟨p, index⟩ (r.game.cardsOf p).length = some k →
        (r.game.cardsOf p).length ≤ k
    · obtain ⟨r', hr', hsame⟩ := ih hp hq
      refine ⟨r', ?_, fun _ => hsame hnone⟩
      rw [moveMany, bind_of_ok (moveOne_of_none hp hnone _)]
      exact hr'
    · obtain ⟨k, hslot, hlt⟩ : ∃ k, PileRef.slot? ⟨p, index⟩ (r.game.cardsOf p).length = some k ∧
          k < (r.game.cardsOf p).length := by simpa using hnone
      obtain ⟨r₁, hone, hp₁, hq₁⟩ : ∃ r₁, moveOne ⟨p, index⟩ ⟨q, index'⟩ r = .ok () r₁ ∧
          r₁.game.Lined p ∧ r₁.game.Lined q :=
        ⟨_, moveOne_of_place hp hq hslot (List.getElem?_eq_getElem hlt) index',
          (hp.cutting _ _).gaining _ _, (hq.cutting _ _).gaining _ _⟩
      obtain ⟨r', hr', -⟩ := ih hp₁ hq₁
      exact ⟨r', by rw [moveMany, bind_of_ok hone]; exact hr', fun h => absurd h hnone⟩

/-- The pile that cards are put on is found. -/
theorem resolvePile_target (hline : ∀ o ∈ r.game.players, o.InLine)
    (hq : r.game.pileOf? target = some q) :
    resolvePile (.text target) none .null .null r = .ok ⟨q, .null⟩ r := by
  refine resolvePile_of hline hq ?_
  cases q with
  | deck => rfl
  | discard => rfl
  | hand a =>
    rw [Pile.index?, indexFor?, if_pos (.inr rfl)]
    rfl

theorem index?_forced (p : Pile) (hnull : v ≠ .null) : p.index? v none .null = asIndex? v := by
  cases p with
  | deck => rfl
  | discard => rfl
  | hand a =>
    rw [Pile.index?, indexFor?, if_pos (.inl hnull)]
    rfl

theorem passesOver_moveFrom (hline : ∀ o ∈ r.game.players, o.InLine)
    (hp : r.game.pileOf? source = some p) (hq : r.game.pileOf? target = some q) (hnull : v ≠ .null)
    (n : Nat) :
    PassesOver (moveFrom (resolvePile (.text source) none .null v) target n) r v
      (r.game.cardsOf p).length := by
  have hlined := lined_of_pileOf? hline hp
  have hlined' := lined_of_pileOf? hline hq
  have hsource := resolvePile_apply hline hp none .null v
  rw [index?_forced p hnull] at hsource
  have hmove (hread : ¬ v.Misleads) :
      ∃ r', moveFrom (resolvePile (.text source) none .null v) target n r = .ok () r' ∧
        (¬ v.InRange (r.game.cardsOf p).length → r' = r) := by
    obtain ⟨index, hindex⟩ := exists_asIndex? hread
    rw [hindex] at hsource
    have hindex' : index ≠ .null := by
      rintro rfl
      exact hnull (asIndex?_eq_null hindex)
    obtain ⟨r', hr', hsame⟩ := moveMany_completes hlined hlined' index .null n
    refine ⟨r', ?_, fun hrange => hsame fun k hk => ?_⟩
    · rw [moveFrom, bind_of_ok hsource, bind_of_ok (resolvePile_target hline hq)]
      exact hr'
    · rw [PileRef.slot?, if_neg hindex', (slot?_eq_none_iff hindex).2 hrange] at hk
      cases hk
  refine ⟨fun h => ?_, fun h => ?_, fun h hrange => ?_⟩
  · rw [asIndex?_of_misleads h] at hsource
    rw [moveFrom, bind_of_error hsource]
  · obtain ⟨r', hr', -⟩ := hmove h
    exact ⟨r', hr'⟩
  · obtain ⟨r', hr', hsame⟩ := hmove h
    rwa [hsame hrange] at hr'

/-- Without an index cards come from the top, if there are any. -/
theorem moveCard_null (hline : ∀ o ∈ r.game.players, o.InLine)
    (hp : r.game.pileOf? source = some p) (hq : r.game.pileOf? target = some q) {param : String}
    (hnull : c.params.named? param = .ok .null) (count : Int) :
    ∃ r', moveCard c source target count (some param) r = .ok () r' := by
  have hindex : p.index? .null (some param) c.params = .ok .null := by
    have hfor : indexFor? .null (some param) c.params = .ok .null := by
      unfold indexFor?
      split
      · rfl
      · exact hnull
    cases p with
    | deck => rfl
    | discard => rfl
    | hand a =>
      rw [Pile.index?, hfor]
      rfl
  obtain ⟨r', hr', -⟩ := moveMany_completes (lined_of_pileOf? hline hp)
    (lined_of_pileOf? hline hq) .null .null count.toNat
  refine ⟨r', ?_⟩
  rw [moveCard, bind_of_ok (resolvePile_of hline hp hindex),
    bind_of_ok (resolvePile_target hline hq)]
  exact hr'

theorem passesOver_moveCard (hline : ∀ o ∈ r.game.players, o.InLine)
    (hp : r.game.pileOf? source = some (.hand a)) (hq : r.game.pileOf? target = some q)
    {param : String} (hv : c.params.named? param = .ok v) (hnull : v ≠ .null) (count : Int) :
    PassesOver (moveCard c source target count (some param)) r v
      (r.game.cardsOf (.hand a)).length := by
  rw [moveCard_eq, resolvePile_param hp hv hnull]
  exact passesOver_moveFrom hline hp hq hnull count.toNat

theorem indexedSource_of {param : String} (hv : c.params.named? param = .ok v) (source : String)
    (r : Run) :
    indexedSource c source param r =
      if v = .null then .error (.of (.missingParameter (some param))) r
      else resolvePile (.text source) none .null v r := by
  have hparam : c.param? (some param) = .ok v := hv
  rw [indexedSource, hparam, bind_of_ok (orFault_ok v r)]
  split <;> rfl

theorem moveCardByIndex_null {param : String} (hnull : c.params.named? param = .ok .null)
    (r : Run) :
    moveCardByIndex c source target param r = .error (.of (.missingParameter (some param))) r := by
  have hsource := indexedSource_of hnull source r
  rw [if_pos rfl] at hsource
  rw [moveCardByIndex_eq, moveFrom, bind_of_error hsource]

theorem passesOver_moveCardByIndex (hline : ∀ o ∈ r.game.players, o.InLine)
    (hp : r.game.pileOf? source = some p) (hq : r.game.pileOf? target = some q) {param : String}
    (hv : c.params.named? param = .ok v) (hnull : v ≠ .null) :
    PassesOver (moveCardByIndex c source target param) r v (r.game.cardsOf p).length := by
  have hsame : moveCardByIndex c source target param r =
      moveFrom (resolvePile (.text source) none .null v) target 1 r := by
    rw [moveCardByIndex_eq, moveFrom, moveFrom, bind_apply, bind_apply, indexedSource_of hv,
      if_neg hnull]
  obtain ⟨hunreadable, hcompletes, hunchanged⟩ := passesOver_moveFrom hline hp hq hnull 1
  exact ⟨fun h => hsame.trans (hunreadable h), fun h => hsame ▸ hcompletes h,
    fun h hrange => hsame.trans (hunchanged h hrange)⟩

/-! ## Swaps -/

/-- How a parameter that must be given is not read: it is missing, or its value misleads. -/
inductive Unread (param : Option String) : Value → Failure → Prop
  | missing : Unread param .null (.of (.missingParameter param))
  | unreadable {v : Value} (h : v.Misleads) : Unread param v (.fault .unreadable)

/-- The value was read and names none of the places. -/
inductive OutOfRange (size : Nat) (v : Value) : Failure → Prop
  | intro {index : Value} (hindex : asIndex? v = .ok index) (hrange : ¬ v.InRange size) :
      OutOfRange size v (.of (.invalidIndex index size))

/-- How a swap fails whose two values do not both name a place. Both are read before the first place
is looked for. -/
inductive Refusal (fromIndex toIndex : Option String) (m n : Nat) (u v : Value) : Failure → Prop
  | fromUnread {e : Failure} (h : Unread fromIndex u e) : Refusal fromIndex toIndex m n u v e
  | toUnread {e : Failure} (hu : u ≠ .null) (hu' : ¬ u.Misleads) (h : Unread toIndex v e) :
      Refusal fromIndex toIndex m n u v e
  | fromOutOfRange {e : Failure} (hu : u ≠ .null) (hv : v ≠ .null) (hv' : ¬ v.Misleads)
      (h : OutOfRange m u e) : Refusal fromIndex toIndex m n u v e
  | toOutOfRange {e : Failure} (hu : u.InRange m) (hv : v ≠ .null) (h : OutOfRange n v e) :
      Refusal fromIndex toIndex m n u v e

theorem seatOf_of (h : r.game.resolveSeat? b.strict c.playerId (.text ref) = .ok a) :
    seatOf b c ref r = .ok a r := by
  rw [seatOf, bind_of_ok (game_apply r), h]
  rfl

/-- A parameter that must be given is refused or read. -/
theorem requiredIndex_cases (hv : c.param? param = .ok v) (r : Run) :
    (∃ e, requiredIndex c param r = .error e r ∧ Unread param v e) ∨
      ∃ index, requiredIndex c param r = .ok index r ∧ v ≠ .null ∧ asIndex? v = .ok index := by
  by_cases hnull : v = .null
  · subst hnull
    refine .inl ⟨_, ?_, .missing⟩
    rw [requiredIndex, hv, bind_of_ok (orFault_ok _ r), if_pos rfl]
    rfl
  by_cases hread : v.Misleads
  · refine .inl ⟨_, ?_, .unreadable hread⟩
    rw [requiredIndex, hv, bind_of_ok (orFault_ok _ r), if_neg hnull, asIndex?_of_misleads hread]
    rfl
  · obtain ⟨index, hindex⟩ := exists_asIndex? hread
    exact .inr ⟨index, requiredIndex_eq_ok.2 ⟨rfl, v, hv, hnull, hindex⟩, hnull, hindex⟩

theorem requiredSlot_of_none (hlists : r.game.HasLists) (ha : a < r.game.players.length)
    (hnone : slot? index (r.game.cardsOf (.hand a)).length = none) :
    requiredSlot a index r =
      .error (.of (.invalidIndex index (r.game.cardsOf (.hand a)).length)) r := by
  have ho := List.getElem?_eq_getElem ha
  obtain ⟨s, hs⟩ := hlists.player ho
  rw [Game.cardsOf_of_holds ho hs] at hnone ⊢
  rw [requiredSlot, bind_of_ok (player_of ho), hs.hand, Value.size?,
    bind_of_ok (orFault_ok _ r), hnone]
  rfl

end Play

/-- A value in range names a place. -/
theorem Game.names_of_inRange {g : Game} {b : Rulebook} {c : Circumstances} {ref : String}
    {param : Option String} {a : Nat} {v : Value}
    (ha : g.resolveSeat? b.strict c.playerId (.text ref) = .ok a) (hv : c.param? param = .ok v)
    (hrange : v.InRange (g.cardsOf (.hand a)).length) : ∃ n, g.Names b c ref param (a, n) := by
  obtain ⟨index, hindex⟩ := exists_asIndex? hrange.not_misleads
  obtain ⟨n, hn⟩ := hrange
  have hnull : v ≠ .null := by
    rintro rfl
    cases hn.2
  exact ⟨n, ha, v, index, hv, hnull, hindex, (slot?_eq_some_iff hindex).2 hn⟩

namespace Swap

variable {r : Run} {b : Rulebook} {c : Circumstances} {fromPlayer toPlayer : String}
  {fromIndex toIndex : Option String} {u v : Value} {s t : Nat}

theorem completes_of_inRange (w : Swap) (hline : ∀ o ∈ r.game.players, o.InLine)
    (hs : r.game.resolveSeat? b.strict c.playerId (.text fromPlayer) = .ok s)
    (ht : r.game.resolveSeat? b.strict c.playerId (.text toPlayer) = .ok t)
    (hu : c.param? fromIndex = .ok u) (hv : c.param? toIndex = .ok v)
    (hu' : u.InRange (r.game.cardsOf (.hand s)).length)
    (hv' : v.InRange (r.game.cardsOf (.hand t)).length) :
    ∃ r', Play.perform b c (w.operation fromPlayer toPlayer fromIndex toIndex) r = .ok () r' := by
  obtain ⟨m, hm⟩ := Game.names_of_inRange hs hu hu'
  obtain ⟨n, hn⟩ := Game.names_of_inRange ht hv hv'
  obtain ⟨l, hl, hparallel⟩ := Game.lays_of_inLine hline
  obtain ⟨x, hx⟩ := hm.card
  obtain ⟨y, hy⟩ := hn.card
  have hfound : Play.perform b c (w.operation fromPlayer toPlayer fromIndex toIndex) r =
      w.found (sidesAt (s, m) (t, n)) r := by
    rw [w.perform_eq, Play.bind_of_ok (Play.swapSides_of_names hl.hasLists hm hn)]
  exact ⟨_, hfound.trans (w.found_apply hl hparallel hx hy r.events r.sink)⟩

theorem refuses (w : Swap) (hline : ∀ o ∈ r.game.players, o.InLine)
    (hs : r.game.resolveSeat? b.strict c.playerId (.text fromPlayer) = .ok s)
    (ht : r.game.resolveSeat? b.strict c.playerId (.text toPlayer) = .ok t)
    (hu : c.param? fromIndex = .ok u) (hv : c.param? toIndex = .ok v)
    (hnone : ¬ (u.InRange (r.game.cardsOf (.hand s)).length ∧
      v.InRange (r.game.cardsOf (.hand t)).length)) :
    ∃ e, Play.perform b c (w.operation fromPlayer toPlayer fromIndex toIndex) r = .error e r ∧
      Play.Refusal fromIndex toIndex (r.game.cardsOf (.hand s)).length
        (r.game.cardsOf (.hand t)).length u v e := by
  have hlists := Game.hasLists_of_inLine hline
  suffices hsides : ∃ e,
      Play.swapSides b c fromPlayer toPlayer fromIndex toIndex r = .error e r ∧
        Play.Refusal fromIndex toIndex (r.game.cardsOf (.hand s)).length
          (r.game.cardsOf (.hand t)).length u v e by
    obtain ⟨e, he, hrefusal⟩ := hsides
    exact ⟨e, by rw [w.perform_eq, Play.bind_of_error he], hrefusal⟩
  rw [Play.swapSides, Play.bind_of_ok (Play.seatOf_of hs), Play.bind_of_ok (Play.seatOf_of ht)]
  rcases Play.requiredIndex_cases hu r with ⟨e, he, hunread⟩ | ⟨i, hi, hnull, hindex⟩
  · exact ⟨e, Play.bind_of_error he, .fromUnread hunread⟩
  rw [Play.bind_of_ok hi]
  rcases Play.requiredIndex_cases hv r with ⟨e, he, hunread⟩ | ⟨j, hj, hnull', hindex'⟩
  · exact ⟨e, Play.bind_of_error he, .toUnread hnull (not_misleads_of_ok hindex) hunread⟩
  rw [Play.bind_of_ok hj]
  by_cases hrange : u.InRange (r.game.cardsOf (.hand s)).length
  · obtain ⟨n, hn⟩ := id hrange
    have hrange' := fun h => hnone ⟨hrange, h⟩
    have hslot := Play.requiredSlot_of_none hlists (Play.resolveSeat?_ok ht)
      ((slot?_eq_none_iff hindex').2 hrange')
    rw [Play.bind_of_ok ((Play.requiredSlot_eq_ok hlists).2
      ⟨rfl, (slot?_eq_some_iff hindex).2 hn⟩), Play.bind_of_error hslot]
    exact ⟨_, rfl, .toOutOfRange hrange hnull' (.intro hindex' hrange')⟩
  · have hslot := Play.requiredSlot_of_none hlists (Play.resolveSeat?_ok hs)
      ((slot?_eq_none_iff hindex).2 hrange)
    rw [Play.bind_of_error hslot]
    exact ⟨_, rfl, .fromOutOfRange hnull hnull' (not_misleads_of_ok hindex')
      (.intro hindex hrange)⟩

end Swap

/-! ## Showing cards -/

namespace Play

variable {r : Run} {b : Rulebook} {c : Circumstances} {v : Value} {s : Nat} {ref : String}
  {param : Option String}

/-- A parameter is read as an index as soon as it is looked up. -/
theorem param_index (hv : c.param? param = .ok v) :
    (do asIndex? (← c.param? param)) = asIndex? v := by
  rw [hv]
  rfl

theorem revealCard_of_inRange (hline : ∀ o ∈ r.game.players, o.InLine)
    (hs : r.game.resolveSeat? b.strict c.playerId (.text ref) = .ok s)
    (hv : c.param? param = .ok v) (hrange : v.InRange (r.game.cardsOf (.hand s)).length) :
    ∃ r', revealCard b c ref param r = .ok () r' := by
  obtain ⟨l, hl, -⟩ := Game.lays_of_inLine hline
  obtain ⟨index, hindex⟩ := exists_asIndex? hrange.not_misleads
  obtain ⟨n, hn⟩ := hrange
  obtain ⟨card, hcard⟩ : ∃ card, (l.pile (.hand s))[n]? = some card := by
    rw [← hl.cardsOf_hand]
    exact ⟨_, List.getElem?_eq_getElem hn.1⟩
  have hlt := Layout.lt_of_card hcard
  obtain ⟨g', hmark, h'⟩ := markKnown_spec hl hlt n true
  obtain ⟨id, hid⟩ := idOf_spec (r := { r with game := g' }) h' (by simpa using hlt)
  have hcard' := cardAt_spec (r := { r with game := g' }) h' (by rwa [Layout.pile_marked])
  refine ⟨⟨g', r.events ++ [cardReveal id n card], r.sink⟩, ?_⟩
  rw [revealCard, bind_of_ok (seatOf_of hs), param_index hv, hindex,
    bind_of_ok (orFault_ok index r),
    bind_of_ok ((requiredSlot_eq_ok hl.hasLists).2 ⟨rfl, (slot?_eq_some_iff hindex).2 hn⟩),
    bind_of_ok hmark, bind_of_ok hid, bind_of_ok hcard', emit_apply]

theorem revealCard_refuses (hline : ∀ o ∈ r.game.players, o.InLine)
    (hs : r.game.resolveSeat? b.strict c.playerId (.text ref) = .ok s)
    (hv : c.param? param = .ok v) (hread : ¬ v.Misleads)
    (hrange : ¬ v.InRange (r.game.cardsOf (.hand s)).length) :
    ∃ e, revealCard b c ref param r = .error e r ∧
      OutOfRange (r.game.cardsOf (.hand s)).length v e := by
  have hlists := Game.hasLists_of_inLine hline
  obtain ⟨index, hindex⟩ := exists_asIndex? hread
  have hslot := requiredSlot_of_none hlists (resolveSeat?_ok hs)
    ((slot?_eq_none_iff hindex).2 hrange)
  refine ⟨_, ?_, .intro hindex hrange⟩
  rw [revealCard, bind_of_ok (seatOf_of hs), param_index hv, hindex,
    bind_of_ok (orFault_ok index r), bind_of_error hslot]

theorem revealCard_unreadable (hs : r.game.resolveSeat? b.strict c.playerId (.text ref) = .ok s)
    (hv : c.param? param = .ok v) (hread : v.Misleads) :
    revealCard b c ref param r = .error (.fault .unreadable) r := by
  rw [revealCard, bind_of_ok (seatOf_of hs), param_index hv, asIndex?_of_misleads hread,
    bind_of_error (orFault_error _ r)]

/-! ## Abilities of cards -/

variable {nested : Nested} {a : Nat}

theorem cardAbility_unreadable (hv : c.param? param = .ok v) (hread : v.Misleads) :
    cardAbility b nested c param r = .error (.fault .unreadable) r := by
  rw [cardAbility, param_index hv, asIndex?_of_misleads hread, bind_of_error (orFault_error _ r)]

/-- The place is one of the hand of the current player. -/
theorem cardAbility_read (hline : ∀ o ∈ r.game.players, o.InLine)
    (ha : r.game.currentSeat? = .ok a) (hv : c.param? param = .ok v) {index : Value}
    (hindex : asIndex? v = .ok index) :
    cardAbility b nested c param r = (do
      let card ← match slot? index (r.game.cardsOf (.hand a)).length with
        | some n => orFault (cardAt? (.list (r.game.cardsOf (.hand a))) n)
        | none => pure .null
      boundAbility b nested c.playerId index card) r := by
  have ho := List.getElem?_eq_getElem (currentSeat?_ok ha)
  obtain ⟨s, hs, -⟩ := hline _ (List.mem_of_getElem? ho)
  rw [Game.cardsOf_of_holds ho hs, cardAbility, param_index hv, hindex,
    bind_of_ok (orFault_ok index r), bind_of_ok (game_apply r), ha, bind_of_ok (orFault_ok a r),
    bind_of_ok (player_of ho), hs.hand, Value.size?]
  exact bind_of_ok (orFault_ok s.cards.length r)

/-- Without a card in the place that is named no ability runs. -/
theorem cardAbility_of_none (hline : ∀ o ∈ r.game.players, o.InLine)
    (ha : r.game.currentSeat? = .ok a) (hv : c.param? param = .ok v) (hread : ¬ v.Misleads)
    (hrange : ¬ v.InRange (r.game.cardsOf (.hand a)).length) :
    cardAbility b nested c param r = .ok () r := by
  obtain ⟨index, hindex⟩ := exists_asIndex? hread
  rw [cardAbility_read hline ha hv hindex, (slot?_eq_none_iff hindex).2 hrange]
  rfl

/-- The ability that runs is the one bound to the card in the place that is named, if one is. -/
theorem cardAbility_of_card (hline : ∀ o ∈ r.game.players, o.InLine)
    (ha : r.game.currentSeat? = .ok a) (hv : c.param? param = .ok v) {n : Nat} (hn : v.Denotes n)
    {card : Value} (hcard : (r.game.cardsOf (.hand a))[n]? = some card) {id? : Option String}
    (hid : b.document.abilityForCard? card = .ok id?) :
    cardAbility b nested c param r =
      if id?.getD "" = "" then .ok () r
      else ability b nested c.playerId (id?.getD "")
        (.object [("handIndex", .int n), ("cardCode", card)]) r := by
  have hindex := asIndex?_of_denotes hn
  have hlt := (List.getElem?_eq_some_iff.1 hcard).1
  rw [cardAbility_read hline ha hv hindex, (slot?_eq_some_iff hindex).2 ⟨hlt, hn⟩]
  simp only [cardAt?, hcard]
  rw [bind_of_ok (orFault_ok card r), boundAbility, hid, bind_of_ok (orFault_ok _ r)]
  split
  · rfl
  · rfl
  · rename_i hne
    rw [Option.getD_some, if_neg hne]

end Play

/-! ## All of them -/

/-- No value of an index parameter breaks an effect, unless it is a text that misleads. Let the
flags of a game be in line and a player be the current one. Take any value for an index parameter.

Of the moves out of a hand, `moveCard` and `moveCardByIndex` pass over a value that names no card;
without an index `moveCard` takes the top card and `moveCardByIndex` misses its parameter. A swap
completes if both of its values name cards, and else it is refused and changes nothing. `revealCard`
completes if its value names a card and else finds it out of range. The ability that runs for a card
is the one of the card that is named, and if none is named, none runs.

Texts that mislead have the form of an index and denote no number. All of these effects, if they get
as far as reading one, fail on it with a fault that is no rule error. -/
theorem indices_handled (b : Rulebook) (c : Circumstances) {r : Run} {a : Nat}
    (hline : ∀ o ∈ r.game.players, o.InLine) (ha : r.game.currentSeat? = .ok a) :
    (∀ source target s q param v, r.game.pileOf? source = some (.hand s) →
      r.game.pileOf? target = some q → c.params.named? param = .ok v → ∀ count,
        (v ≠ .null → Play.PassesOver
          (Play.perform b c (.moveCard source target count (some param))) r v
            (r.game.cardsOf (.hand s)).length) ∧
        (v = .null → ∃ r',
          Play.perform b c (.moveCard source target count (some param)) r = .ok () r')) ∧
    (∀ source target p q param v, r.game.pileOf? source = some p →
      r.game.pileOf? target = some q → c.params.named? param = .ok v →
        (v ≠ .null → Play.PassesOver (Play.perform b c (.moveCardByIndex source target param)) r v
          (r.game.cardsOf p).length) ∧
        (v = .null → Play.perform b c (.moveCardByIndex source target param) r =
          .error (.of (.missingParameter (some param))) r)) ∧
    (∀ (w : Swap) fromPlayer toPlayer fromIndex toIndex s t u v,
      r.game.resolveSeat? b.strict c.playerId (.text fromPlayer) = .ok s →
      r.game.resolveSeat? b.strict c.playerId (.text toPlayer) = .ok t →
      c.param? fromIndex = .ok u → c.param? toIndex = .ok v →
        (u.InRange (r.game.cardsOf (.hand s)).length ∧
            v.InRange (r.game.cardsOf (.hand t)).length → ∃ r',
          Play.perform b c (w.operation fromPlayer toPlayer fromIndex toIndex) r = .ok () r') ∧
        (¬ (u.InRange (r.game.cardsOf (.hand s)).length ∧
            v.InRange (r.game.cardsOf (.hand t)).length) → ∃ e,
          Play.perform b c (w.operation fromPlayer toPlayer fromIndex toIndex) r = .error e r ∧
            Play.Refusal fromIndex toIndex (r.game.cardsOf (.hand s)).length
              (r.game.cardsOf (.hand t)).length u v e)) ∧
    (∀ ref param s v, r.game.resolveSeat? b.strict c.playerId (.text ref) = .ok s →
      c.param? param = .ok v →
        (v.Misleads → Play.perform b c (.revealCard ref param) r = .error (.fault .unreadable) r) ∧
        (v.InRange (r.game.cardsOf (.hand s)).length → ∃ r',
          Play.perform b c (.revealCard ref param) r = .ok () r') ∧
        (¬ v.Misleads → ¬ v.InRange (r.game.cardsOf (.hand s)).length → ∃ e,
          Play.perform b c (.revealCard ref param) r = .error e r ∧
            Play.OutOfRange (r.game.cardsOf (.hand s)).length v e)) ∧
    ∀ nested param v, c.param? param = .ok v →
      (v.Misleads → Play.effect b nested c (.cardAbility param) r = .error (.fault .unreadable) r) ∧
      (¬ v.Misleads → ¬ v.InRange (r.game.cardsOf (.hand a)).length →
        Play.effect b nested c (.cardAbility param) r = .ok () r) ∧
      ∀ (n : Nat) card id?, v.Denotes n → (r.game.cardsOf (.hand a))[n]? = some card →
        b.document.abilityForCard? card = .ok id? →
          Play.effect b nested c (.cardAbility param) r =
            if id?.getD "" = "" then .ok () r
            else Play.ability b nested c.playerId (id?.getD "")
              (.object [("handIndex", .int n), ("cardCode", card)]) r := by
  refine ⟨?_, ?_, ?_, ?_, ?_⟩
  · rintro source target s q param v hp hq hv count
    refine ⟨fun hnull => Play.passesOver_moveCard hline hp hq hv hnull count, ?_⟩
    rintro rfl
    exact Play.moveCard_null hline hp hq hv count
  · rintro source target p q param v hp hq hv
    refine ⟨Play.passesOver_moveCardByIndex hline hp hq hv, ?_⟩
    rintro rfl
    exact Play.moveCardByIndex_null hv r
  · rintro w fromPlayer toPlayer fromIndex toIndex s t u v hs ht hu hv
    exact ⟨fun h => w.completes_of_inRange hline hs ht hu hv h.1 h.2,
      w.refuses hline hs ht hu hv⟩
  · rintro ref param s v hs hv
    exact ⟨Play.revealCard_unreadable hs hv, Play.revealCard_of_inRange hline hs hv,
      Play.revealCard_refuses hline hs hv⟩
  · rintro nested param v hv
    exact ⟨Play.cardAbility_unreadable hv, Play.cardAbility_of_none hline ha hv,
      fun n card id? hn hcard hid => Play.cardAbility_of_card hline ha hv hn hcard hid⟩

namespace Sample

/-- The first player gives a superscript, a place too far away and one in Arabic digits. -/
def guessing : Circumstances :=
  { playerId := .int 1
    params := .object [("mark", .text "²"), ("past", .text " 9 "), ("on", .text "٢")] }

/-- The superscript has the form of an index and spells no number. -/
theorem misleads_mark : (Value.text "²").Misleads := by
  have hread : asIndex? (.text "²") = .error .unreadable := by decide
  by_contra hmis
  obtain ⟨index, hindex⟩ := exists_asIndex? hmis
  rw [hread] at hindex
  cases hindex

theorem denotes_past : (Value.text " 9 ").Denotes 9 := by
  have hnumeral : IsNumeral ['9'] := isNumeral_iff.2 (by decide)
  have hblank : ∀ c ∈ [' '], Text.isWhiteSpace c = true :=
    List.forall_mem_singleton.2 (by decide)
  exact .text ⟨['9'], .plain hnumeral, [' '], [' '], rfl, hblank, hblank⟩

theorem denotes_on : (Value.text "٢").Denotes 2 := by
  have hnumeral : IsNumeral ['٢'] := isNumeral_iff.2 (by decide)
  exact .text ⟨['٢'], .plain hnumeral, [], [], rfl, by simp, by simp⟩

end Sample

/-- A superscript for an index is no number, and a move does not pass over it. -/
theorem superscript_unreadable :
    (∀ o ∈ Sample.spread.players, o.InLine) ∧ Sample.spread.currentSeat? = .ok 0 ∧
      Sample.guessing.params.named? "mark" = .ok (.text "²") ∧
      (∀ i, ¬ (Value.text "²").Denotes i) ∧
      Play.perform Sample.rulebook Sample.guessing
          (.moveCard "currentPlayer.hand" "discard" 1 (some "mark")) { game := Sample.spread } =
        .error (.fault .unreadable) { game := Sample.spread } := by
  have hmark : Sample.guessing.params.named? "mark" = .ok (.text "²") := by decide +kernel
  refine ⟨Sample.inLine_spread, by decide, hmark, fun i hi => ?_, ?_⟩
  · exact not_misleads_of_ok (asIndex?_of_denotes hi) Sample.misleads_mark
  · exact (Play.passesOver_moveCard (a := 0) (q := .discard) Sample.inLine_spread
      (by decide +kernel) rfl hmark (by simp) 1).unreadable Sample.misleads_mark

/-- A place that is too far is passed over or out of range, one in Arabic digits is found, and a
superscript cannot be read. -/
theorem indices_handled_sample :
    (∀ o ∈ Sample.spread.players, o.InLine) ∧ Sample.spread.currentSeat? = .ok 0 ∧
      Play.perform Sample.rulebook Sample.guessing
          (.moveCard "currentPlayer.hand" "discard" 2 (some "past")) { game := Sample.spread } =
        .ok () { game := Sample.spread } ∧
      Play.perform Sample.rulebook Sample.guessing
          (.moveCardByIndex "currentPlayer.hand" "discard" "none") { game := Sample.spread } =
        .error (.of (.missingParameter (some "none"))) { game := Sample.spread } ∧
      (∃ r', Play.perform Sample.rulebook Sample.guessing
          (.swapCards "currentPlayer" "currentPlayer" (some "on") (some "on") true)
          { game := Sample.spread } = .ok () r') ∧
      (∃ e, Play.perform Sample.rulebook Sample.guessing
          (.revealCard "currentPlayer" (some "past")) { game := Sample.spread } =
        .error e { game := Sample.spread } ∧ Play.OutOfRange 3 (.text " 9 ") e) ∧
      ∀ nested, Play.effect Sample.rulebook nested Sample.guessing (.cardAbility (some "mark"))
          { game := Sample.spread } = .error (.fault .unreadable) { game := Sample.spread } := by
  have hpast : ¬ (Value.text " 9 ").InRange 3 :=
    (slot?_eq_none_iff (asIndex?_of_denotes Sample.denotes_past)).1 (by decide)
  have hon : (Value.text "٢").InRange 3 := ⟨2, by decide, Sample.denotes_on⟩
  have hread : ¬ (Value.text " 9 ").Misleads :=
    not_misleads_of_ok (asIndex?_of_denotes Sample.denotes_past)
  have hhand : Sample.spread.pileOf? "currentPlayer.hand" = some (.hand 0) := by decide
  have hseat : Sample.spread.resolveSeat? Sample.rulebook.strict Sample.guessing.playerId
      (.text "currentPlayer") = .ok 0 := by decide +kernel
  have hcurrent : Sample.spread.currentSeat? = .ok 0 := by decide
  obtain ⟨hmove, hmoveByIndex, hswap, hreveal, hability⟩ :=
    indices_handled Sample.rulebook Sample.guessing (r := { game := Sample.spread })
      Sample.inLine_spread hcurrent
  refine ⟨Sample.inLine_spread, hcurrent, ?_, ?_, ?_, ?_, fun nested => ?_⟩
  · exact ((hmove _ "discard" 0 .discard "past" (.text " 9 ") hhand rfl (by decide +kernel) 2).1
      (by simp)).unchanged hread hpast
  · exact (hmoveByIndex _ "discard" (.hand 0) .discard "none" .null hhand rfl
      (by decide +kernel)).2 rfl
  · exact (hswap (.plain true) _ _ (some "on") (some "on") 0 0 _ _ hseat hseat
      (by decide +kernel) (by decide +kernel)).1 ⟨hon, hon⟩
  · exact (hreveal _ (some "past") 0 _ hseat (by decide +kernel)).2.2 hread hpast
  · exact (hability nested (some "mark") _ (by decide +kernel)).1 Sample.misleads_mark

end CardRules
