import CardRules.Proofs.Cards.InLine

/-!
# What a move moves

A move takes cards one by one, always from the top or always from the same place, and puts them on
another pile. All in all it empties a stretch of neighbouring places (`Stretch.emptied`), of cards
and flags alike, and puts what was there on the target (`Game.moved`): a move from the top turns the
cards over, a move from a place keeps their order. `moves_exactly` says this of both operations that
move cards, in games whose flags are in line.
-/

namespace CardRules

/-! ## Stretches -/

/-- Neighbouring places of a list. -/
structure Stretch where
  start : Nat
  size : Nat

namespace Stretch

variable {α : Type}

/-- What lies in the places. -/
def items (t : Stretch) (xs : List α) : List α := (xs.drop t.start).take t.size

/-- What lies outside of them. -/
def rest (t : Stretch) (xs : List α) : List α := xs.take t.start ++ xs.drop (t.start + t.size)

theorem getElem?_items (t : Stretch) (xs : List α) (k : Nat) :
    (t.items xs)[k]? = if k < t.size then xs[t.start + k]? else none := by
  simp [items, List.getElem?_take]

theorem getElem?_rest (t : Stretch) (xs : List α) (k : Nat) :
    (t.rest xs)[k]? = if k < t.start then xs[k]? else xs[k + t.size]? := by
  rw [rest, List.getElem?_append]
  simp only [List.length_take, List.getElem?_take, List.getElem?_drop]
  by_cases hk : k < t.start
  · by_cases hlt : k < xs.length
    · simp [hk, hlt]
    · have hle : xs.length ≤ t.start + t.size + (k - min t.start xs.length) := by omega
      simp [hk, hlt, hle]
  · have hmin : ¬ k < min t.start xs.length := by omega
    rw [if_neg hmin, if_neg hk]
    by_cases hle : t.start ≤ xs.length
    · rw [Nat.min_eq_left hle]
      congr 1
      omega
    · rw [List.getElem?_eq_none (by omega), List.getElem?_eq_none (by omega)]

@[simp] theorem items_empty (i : Nat) (xs : List α) : items ⟨i, 0⟩ xs = [] := List.take_zero

@[simp] theorem rest_empty (i : Nat) (xs : List α) : rest ⟨i, 0⟩ xs = xs :=
  List.take_append_drop i xs

theorem eraseIdx_eq_rest (xs : List α) (k : Nat) : xs.eraseIdx k = rest ⟨k, 1⟩ xs :=
  List.eraseIdx_eq_take_drop_succ xs k

variable {i m k : Nat}

/-- A place at either end of the stretch may be emptied first. -/
theorem rest_rest (hk : k = i ∨ k = i + m) (xs : List α) :
    rest ⟨i, m⟩ (rest ⟨k, 1⟩ xs) = rest ⟨i, m + 1⟩ xs := by
  refine List.ext_getElem? fun j => ?_
  simp only [getElem?_rest]
  by_cases hj : j < i
  · rw [if_pos hj, if_pos hj, if_pos (by omega)]
  · rw [if_neg hj, if_neg hj, if_neg (by omega), Nat.add_assoc]

theorem items_first {xs : List α} {x : α} (hx : xs[i]? = some x) (m : Nat) :
    items ⟨i, m + 1⟩ xs = x :: items ⟨i, m⟩ (rest ⟨i, 1⟩ xs) := by
  refine List.ext_getElem? fun j => ?_
  cases j with
  | zero => simp [getElem?_items, hx]
  | succ j =>
    simp only [List.getElem?_cons_succ, getElem?_items, getElem?_rest]
    rw [if_neg (by omega : ¬ i + j < i), Nat.add_assoc]
    simp

theorem items_last {xs : List α} {x : α} (hx : xs[i + m]? = some x) :
    items ⟨i, m + 1⟩ xs = items ⟨i, m⟩ (rest ⟨i + m, 1⟩ xs) ++ [x] := by
  have hlt : i + m < xs.length := (List.getElem?_eq_some_iff.1 hx).1
  have hsize : (items ⟨i, m⟩ (rest ⟨i + m, 1⟩ xs)).length = m := by
    simp [items, rest]
    omega
  refine List.ext_getElem? fun j => ?_
  rw [List.getElem?_append, hsize]
  simp only [getElem?_items, getElem?_rest]
  by_cases hj : j < m
  · rw [if_pos hj, if_pos (by omega), if_pos hj, if_pos (by omega)]
  · by_cases hjm : j = m
    · simp [hjm, hx]
    · rw [if_neg hj, if_neg (by omega), List.getElem?_eq_none (by simp; omega)]

/-- The places that a move of `n` cards empties, of `size` places. Without an index these are the
last ones, with an index the ones from there on, as far as there are any. -/
def emptied (index : Value) (n size : Nat) : Stretch :=
  match index with
  | .null => ⟨size - min n size, min n size⟩
  | .number (.int i) => if 0 ≤ i then ⟨i.toNat, min n (size - i.toNat)⟩ else ⟨0, 0⟩
  | _ => ⟨0, 0⟩

theorem slot?_null (p : Pile) (size : Nat) :
    Play.PileRef.slot? ⟨p, .null⟩ size = some (size - 1) := if_pos rfl

theorem emptied_zero (index : Value) (size : Nat) : (emptied index 0 size).size = 0 := by
  unfold emptied
  split
  · exact Nat.zero_min size
  · split <;> simp
  · rfl

/-- Without a place to take a card from nothing is emptied. -/
theorem emptied_of_none {p : Pile} {index : Value} {size : Nat}
    (h : ∀ k, Play.PileRef.slot? ⟨p, index⟩ size = some k → size ≤ k) (n : Nat) :
    (emptied index n size).size = 0 := by
  unfold emptied
  split
  · have := h (size - 1) (slot?_null p size)
    simp only
    omega
  · rename_i i
    split
    · rename_i hi
      have hslot : ¬ (0 ≤ i ∧ i < size) := by
        intro hlt
        have := h i.toNat (by simp [Play.PileRef.slot?, CardRules.slot?, hlt])
        omega
      simp only
      omega
    · rfl
  · rfl

/-- The first card that is taken comes from one end of the stretch: from the back if cards are taken
from the top, and else from the front. -/
theorem emptied_succ {p : Pile} {index : Value} {size : Nat}
    (hslot : Play.PileRef.slot? ⟨p, index⟩ size = some k) (hk : k < size) (n : Nat) :
    ∃ i m, emptied index (n + 1) size = ⟨i, m + 1⟩ ∧ emptied index n (size - 1) = ⟨i, m⟩ ∧
      k = if index = .null then i + m else i := by
  by_cases hnull : index = .null
  · -- from the top the stretch grows downwards, so its last place comes first
    subst hnull
    rw [slot?_null, Option.some.injEq] at hslot
    subst hslot
    refine ⟨size - 1 - min n (size - 1), min n (size - 1), ?_, rfl, ?_⟩
    · simp only [emptied, mk.injEq]
      omega
    · simp only [if_true]
      omega
  · simp only [Play.PileRef.slot?, if_neg hnull] at hslot
    unfold CardRules.slot? at hslot
    split at hslot
    · rename_i i
      split at hslot
      · rename_i hi
        cases hslot
        refine ⟨i.toNat, min n (size - 1 - i.toNat), ?_, ?_, (if_neg hnull).symm⟩
        · simp only [emptied, if_pos hi.1, mk.injEq, true_and]
          omega
        · simp [emptied, hi.1]
      · cases hslot
    · cases hslot

end Stretch

/-! ## Changes to a pile -/

namespace Player

theorem onSeat_onSeat (f f' : Seat → Seat) (p : Player) :
    (p.onSeat f).onSeat f' = p.onSeat (f' ∘ f) := by
  by_cases h : ∃ s, p.Holds s
  · obtain ⟨s, hs⟩ := h
    rw [(hs.onSeat f).onSeat_eq, hs.onSeat_eq, hs.onSeat_eq]
    rfl
  · rw [onSeat_of_not_holds h, onSeat_of_not_holds h, onSeat_of_not_holds h]

theorem onSeat_id (p : Player) : p.onSeat (fun s => s) = p := by
  unfold onSeat
  split
  · rename_i hhand hknown
    simp [← hhand, ← hknown]
  · rfl

end Player

namespace Game

variable {g : Game} {p q : Pile}

/-- The cards in a pile, those of a hand if it is a list. -/
def cardsOf (g : Game) : Pile → List Value
  | .deck => g.deck
  | .discard => g.discard
  | .hand a => (g.players[a]?.map Player.cards).getD []

theorem cardsOf_of_holds {a : Nat} {o : Player} {s : Seat} (ho : g.players[a]? = some o)
    (hs : o.Holds s) : g.cardsOf (.hand a) = s.cards := by
  simp [cardsOf, ho, hs.cards]

/-- The game with the cards in a pile changed, and the flags beside them if it is a hand. -/
def onPile (g : Game) (p : Pile) (cards flags : List Value → List Value) : Game :=
  match p with
  | .deck => { g with deck := cards g.deck }
  | .discard => { g with discard := cards g.discard }
  | .hand a => g.modifyPlayer a (Player.onSeat fun s => ⟨cards s.cards, flags s.flags⟩)

/-- The game without what is in some places of a pile. -/
def cutting (g : Game) (p : Pile) (t : Stretch) : Game := g.onPile p t.rest t.rest

/-- The game with cards put on top of a pile one after the other. In a hand they are unknown. -/
def gaining (g : Game) (p : Pile) (cards : List Value) : Game :=
  g.onPile p (· ++ cards) (· ++ List.replicate cards.length (.bool false))

/-- The game after a move of `n` cards from the top of a pile or from a place of it to another pile.
Cards from the top arrive in reverse order. Null is no card and does not arrive. -/
def moved (g : Game) (source target : Pile) (index : Value) (n : Nat) : Game :=
  let t := Stretch.emptied index n (g.cardsOf source).length
  let cards := t.items (g.cardsOf source)
  let taken := if index = .null then cards.reverse else cards
  (g.cutting source t).gaining target (taken.filter (· ≠ .null))

theorem onPile_onPile (g : Game) (p : Pile) (cards flags cards' flags' : List Value → List Value) :
    (g.onPile p cards flags).onPile p cards' flags' =
      g.onPile p (cards' ∘ cards) (flags' ∘ flags) := by
  cases p with
  | deck => rfl
  | discard => rfl
  | hand a =>
    simp only [onPile, Play.modifyPlayer_modifyPlayer]
    congr 1
    funext p
    rw [Function.comp_apply, Player.onSeat_onSeat]
    rfl

theorem onPile_comm (h : p ≠ q) (g : Game) (cards flags cards' flags' : List Value → List Value) :
    (g.onPile p cards flags).onPile q cards' flags' =
      (g.onPile q cards' flags').onPile p cards flags := by
  cases p with
  | deck => cases q <;> first | rfl | exact absurd rfl h
  | discard => cases q <;> first | rfl | exact absurd rfl h
  | hand a =>
    cases q with
    | deck => rfl
    | discard => rfl
    | hand b =>
      have hne : a ≠ b := fun hab => h (congrArg Pile.hand hab)
      simp only [onPile, modifyPlayer, List.modify_modify_ne _ _ _ hne]

theorem onPile_id (g : Game) (p : Pile) : g.onPile p id id = g := by
  cases p with
  | deck => rfl
  | discard => rfl
  | hand a =>
    have hid : (Player.onSeat fun s => ⟨id s.cards, id s.flags⟩) = id := funext Player.onSeat_id
    rw [onPile, hid, modifyPlayer, List.modify_id]

theorem cardsOf_onPile_of_ne (h : p ≠ q) (g : Game) (cards flags : List Value → List Value) :
    (g.onPile q cards flags).cardsOf p = g.cardsOf p := by
  cases q with
  | deck => cases p <;> first | rfl | exact absurd rfl h
  | discard => cases p <;> first | rfl | exact absurd rfl h
  | hand b =>
    cases p with
    | deck => rfl
    | discard => rfl
    | hand a =>
      have hne : b ≠ a := fun hab => h (congrArg Pile.hand hab.symm)
      simp [cardsOf, onPile, modifyPlayer, hne]

end Game

/-! ## Taking and putting -/

/-- If the pile is a hand, there is a player whose flags are in line. -/
def Game.Lined (g : Game) (p : Pile) : Prop :=
  ∀ a, p = .hand a → ∃ (o : Player) (s : Seat), g.players[a]? = some o ∧ o.Holds s ∧ s.Parallel

namespace Game.Lined

variable {g : Game} {p q : Pile}

theorem onPile (h : g.Lined q) (p : Pile) {cards flags : List Value → List Value}
    (hsame : ∀ xs ys, ys.length = xs.length → (flags ys).length = (cards xs).length) :
    (g.onPile p cards flags).Lined q := by
  rintro a rfl
  obtain ⟨o, s, ho, hs, hparallel⟩ := h a rfl
  cases p with
  | deck => exact ⟨o, s, ho, hs, hparallel⟩
  | discard => exact ⟨o, s, ho, hs, hparallel⟩
  | hand b =>
    by_cases hab : b = a
    · subst hab
      exact ⟨_, ⟨cards s.cards, flags s.flags⟩, Play.player_modifyPlayer ho _, hs.onSeat _,
        hsame _ _ hparallel⟩
    · refine ⟨o, s, ?_, hs, hparallel⟩
      simpa [Game.onPile, modifyPlayer, hab] using ho

theorem cutting (h : g.Lined q) (p : Pile) (t : Stretch) : (g.cutting p t).Lined q :=
  h.onPile p fun xs ys hlength => by simp [Stretch.rest, hlength]

theorem gaining (h : g.Lined q) (p : Pile) (cards : List Value) : (g.gaining p cards).Lined q :=
  h.onPile p fun xs ys hlength => by simp [hlength]

/-- What is cut out of a pile is gone from its cards. -/
theorem cardsOf_cutting (h : g.Lined p) (t : Stretch) :
    (g.cutting p t).cardsOf p = t.rest (g.cardsOf p) := by
  cases p with
  | deck => rfl
  | discard => rfl
  | hand a =>
    obtain ⟨o, s, ho, hs, -⟩ := h a rfl
    have ho' := Play.player_modifyPlayer ho
      (Player.onSeat fun s => ⟨t.rest s.cards, t.rest s.flags⟩)
    rw [Game.cutting, Game.onPile, Game.cardsOf, Game.cardsOf, ho', ho]
    simp [(hs.onSeat _).cards, hs.cards]

end Game.Lined

namespace Game

variable {g : Game} {p q : Pile}

theorem gaining_nil (g : Game) (p : Pile) : g.gaining p [] = g := by
  have hid : (· ++ []) = (id : List Value → List Value) := funext List.append_nil
  rw [gaining, hid, List.length_nil, List.replicate_zero, hid, onPile_id]

theorem gaining_gaining (g : Game) (p : Pile) (xs ys : List Value) :
    (g.gaining p xs).gaining p ys = g.gaining p (xs ++ ys) := by
  rw [gaining, gaining, onPile_onPile, gaining]
  congr 1 <;> funext zs <;> simp [List.append_assoc]

theorem cutting_of_empty (g : Game) (p : Pile) (i : Nat) : g.cutting p ⟨i, 0⟩ = g := by
  have hid : Stretch.rest ⟨i, 0⟩ = (id : List Value → List Value) :=
    funext (Stretch.rest_empty i)
  rw [cutting, hid, onPile_id]

theorem cutting_cutting {i m k : Nat} (hk : k = i ∨ k = i + m) (g : Game) (p : Pile) :
    (g.cutting p ⟨k, 1⟩).cutting p ⟨i, m⟩ = g.cutting p ⟨i, m + 1⟩ := by
  have hrest : Stretch.rest ⟨i, m⟩ ∘ Stretch.rest ⟨k, 1⟩ =
      (Stretch.rest ⟨i, m + 1⟩ : List Value → List Value) := funext (Stretch.rest_rest hk)
  rw [cutting, cutting, onPile_onPile, hrest, cutting]

theorem moved_of_empty {p : Pile} {index : Value} {n : Nat}
    (h : (Stretch.emptied index n (g.cardsOf p).length).size = 0) (q : Pile) :
    g.moved p q index n = g := by
  obtain ⟨i, hi⟩ : ∃ i, Stretch.emptied index n (g.cardsOf p).length = ⟨i, 0⟩ := ⟨_, by rw [← h]⟩
  simp [moved, hi, cutting_of_empty, gaining_nil]

/-- A move of one card more moves the card in the place to take from first. -/
theorem moved_succ {index : Value} {k : Nat} {card : Value} (hne : p ≠ q) (hp : g.Lined p)
    (hslot : Play.PileRef.slot? ⟨p, index⟩ (g.cardsOf p).length = some k)
    (hcard : (g.cardsOf p)[k]? = some card) (n : Nat) :
    ((g.cutting p ⟨k, 1⟩).gaining q ([card].filter (· ≠ .null))).moved p q index n =
      g.moved p q index (n + 1) := by
  have hk : k < (g.cardsOf p).length := (List.getElem?_eq_some_iff.1 hcard).1
  have hleft (ys : List Value) : ((g.cutting p ⟨k, 1⟩).gaining q ys).cardsOf p =
      Stretch.rest ⟨k, 1⟩ (g.cardsOf p) := by
    rw [gaining, cardsOf_onPile_of_ne hne, hp.cardsOf_cutting]
  have hsize : (Stretch.rest ⟨k, 1⟩ (g.cardsOf p)).length = (g.cardsOf p).length - 1 := by
    rw [← Stretch.eraseIdx_eq_rest, List.length_eraseIdx_of_lt hk]
  obtain ⟨i, m, hsucc, hprev, hend⟩ := Stretch.emptied_succ hslot hk n
  have hcut (ys : List Value) : ((g.cutting p ⟨k, 1⟩).gaining q ys).cutting p ⟨i, m⟩ =
      (g.cutting p ⟨i, m + 1⟩).gaining q ys := by
    have hk' : k = i ∨ k = i + m := by
      split at hend
      · exact .inr hend
      · exact .inl hend
    rw [gaining, cutting, ← onPile_comm hne, ← cutting, cutting_cutting hk', ← gaining]
  simp only [moved, hleft, hsize, hprev, hsucc, hcut, gaining_gaining, ← List.filter_append]
  congr 2
  by_cases hnull : index = .null
  · rw [if_pos hnull] at hend
    subst hend
    rw [if_pos hnull, if_pos hnull, Stretch.items_last hcard, List.reverse_append]
    rfl
  · rw [if_neg hnull] at hend
    subst hend
    rw [if_neg hnull, if_neg hnull, Stretch.items_first hcard]
    rfl

end Game

namespace Play

variable {r : Run} {p q : Pile} {index : Value}

/-- A card that is in the place to take from is taken. -/
theorem take_of_place (h : r.game.Lined p) {n : Nat} {card : Value}
    (hn : PileRef.slot? ⟨p, index⟩ (r.game.cardsOf p).length = some n)
    (hcard : (r.game.cardsOf p)[n]? = some card) :
    take ⟨p, index⟩ r = .ok card { r with game := r.game.cutting p ⟨n, 1⟩ } := by
  have hstack (xs : List Value) (store : List Value → Game → Game)
      (hn : PileRef.slot? ⟨p, index⟩ xs.length = some n) (hcard : xs[n]? = some card) :
      takeAt xs ⟨p, index⟩ store r =
        .ok card { r with game := store (Stretch.rest ⟨n, 1⟩ xs) r.game } := by
    cases xs with
    | nil => cases hcard
    | cons x xs =>
      rw [← Stretch.eraseIdx_eq_rest]
      simp only [takeAt, hn, Option.bind_some, hcard, Option.map_some]
      rfl
  cases p with
  | deck => exact hstack r.game.deck (fun xs g => { g with deck := xs }) hn hcard
  | discard => exact hstack r.game.discard (fun xs g => { g with discard := xs }) hn hcard
  | hand a =>
    obtain ⟨o, s, ho, hs, hparallel⟩ := h a rfl
    rw [Game.cardsOf_of_holds ho hs] at hn hcard
    have hlt : n < s.cards.length := (List.getElem?_eq_some_iff.1 hcard).1
    have hflag : n < s.flags.length := hparallel ▸ hlt
    have hvoid : (Value.list s.cards).isVoid = false := by
      cases hc : s.cards with
      | nil => simp [hc] at hlt
      | cons => rfl
    have hdrop := dropFlag_of (r := { r with game := r.game.modifyPlayer a fun o =>
      { o with hand := .list (s.cards.eraseIdx n) } }) (player_modifyPlayer ho _) hs.known hflag
    have hcut : (fun o : Player => { o with known := .list (s.flags.eraseIdx n) })
        { o with hand := .list (s.cards.eraseIdx n) } =
          o.onSeat fun s => ⟨Stretch.rest ⟨n, 1⟩ s.cards, Stretch.rest ⟨n, 1⟩ s.flags⟩ := by
      rw [hs.onSeat_eq, Stretch.eraseIdx_eq_rest, Stretch.eraseIdx_eq_rest]
    simp only [take, takeFromHand]
    rw [bind_of_ok (player_of ho), hs.hand, hvoid, if_neg Bool.false_ne_true, Value.size?,
      bind_of_ok (orFault_ok _ r), hn]
    simp only [hcard]
    rw [bind_of_ok (modifyPlayer_apply a _ r), bind_of_ok hdrop, modifyPlayer_modifyPlayer,
      modifyPlayer_congr ho hcut]
    rfl

/-- Nothing is taken if there is no card in the place to take from. -/
theorem take_of_none (h : r.game.Lined p)
    (hnone : ∀ n, PileRef.slot? ⟨p, index⟩ (r.game.cardsOf p).length = some n →
      (r.game.cardsOf p).length ≤ n) :
    take ⟨p, index⟩ r = .ok .null r := by
  have hbind (xs : List Value) (hnone : ∀ n, PileRef.slot? ⟨p, index⟩ xs.length = some n →
      xs.length ≤ n) :
      ((PileRef.slot? ⟨p, index⟩ xs.length).bind fun n => xs[n]?.map (n, ·)) = none := by
    cases hn : PileRef.slot? ⟨p, index⟩ xs.length with
    | none => rfl
    | some n => simp [hnone n hn]
  have hstack (xs : List Value) (store : List Value → Game → Game)
      (hnone : ∀ n, PileRef.slot? ⟨p, index⟩ xs.length = some n → xs.length ≤ n) :
      takeAt xs ⟨p, index⟩ store r = .ok .null r := by
    cases xs with
    | nil => rfl
    | cons x xs =>
      simp only [takeAt, hbind (x :: xs) hnone]
      rfl
  cases p with
  | deck => exact hstack r.game.deck (fun xs g => { g with deck := xs }) hnone
  | discard => exact hstack r.game.discard (fun xs g => { g with discard := xs }) hnone
  | hand a =>
    obtain ⟨o, s, ho, hs, -⟩ := h a rfl
    rw [Game.cardsOf_of_holds ho hs] at hnone
    simp only [take, takeFromHand]
    rw [bind_of_ok (player_of ho), hs.hand]
    cases hvoid : (Value.list s.cards).isVoid with
    | true => rfl
    | false =>
      rw [if_neg Bool.false_ne_true, Value.size?, bind_of_ok (orFault_ok _ r)]
      cases hn : PileRef.slot? ⟨.hand a, index⟩ s.cards.length with
      | none => rfl
      | some n =>
        simp only [List.getElem?_eq_none (hnone n hn)]
        rfl

theorem put_of_lined (h : r.game.Lined q) (index card : Value) :
    put ⟨q, index⟩ card r = .ok () { r with game := r.game.gaining q [card] } := by
  cases q with
  | deck => rfl
  | discard => rfl
  | hand a =>
    obtain ⟨o, s, ho, hs, -⟩ := h a rfl
    have hgain : (fun o : Player => { o with known := .list (s.flags ++ [.bool false]) })
        { o with hand := .list (s.cards ++ [card]) } =
          o.onSeat fun s => ⟨s.cards ++ [card], s.flags ++ [.bool false]⟩ := by
      rw [hs.onSeat_eq]
    simp only [put]
    rw [bind_of_ok (player_of ho), hs.hand]
    simp only
    rw [bind_of_ok (modifyPlayer_apply a _ r), bind_of_ok (player_of (player_modifyPlayer ho _)),
      hs.known]
    simp only
    rw [modifyPlayer_apply, modifyPlayer_modifyPlayer, modifyPlayer_congr ho hgain]
    rfl

/-! ## Moving -/

/-- A card that is taken is put on the target, unless it is null. -/
theorem moveOne_of_place (hp : r.game.Lined p) (hq : r.game.Lined q) {n : Nat} {card : Value}
    (hn : PileRef.slot? ⟨p, index⟩ (r.game.cardsOf p).length = some n)
    (hcard : (r.game.cardsOf p)[n]? = some card) (index' : Value) :
    moveOne ⟨p, index⟩ ⟨q, index'⟩ r = .ok ()
      { r with game := (r.game.cutting p ⟨n, 1⟩).gaining q ([card].filter (· ≠ .null)) } := by
  rw [moveOne, bind_of_ok (take_of_place hp hn hcard)]
  by_cases hnull : card = .null
  · have hnone : ([card].filter (· ≠ .null)) = [] := by simp [hnull]
    rw [if_neg (not_not.2 hnull), hnone, Game.gaining_nil]
    rfl
  · have hall : ([card].filter (· ≠ .null)) = [card] := by simp [hnull]
    rw [if_pos hnull, hall]
    exact put_of_lined (hq.cutting p ⟨n, 1⟩) index' card

theorem moveOne_of_none (hp : r.game.Lined p)
    (hnone : ∀ n, PileRef.slot? ⟨p, index⟩ (r.game.cardsOf p).length = some n →
      (r.game.cardsOf p).length ≤ n) (target : PileRef) :
    moveOne ⟨p, index⟩ target r = .ok () r := by
  rw [moveOne, bind_of_ok (take_of_none hp hnone), if_neg (not_not.2 rfl)]
  rfl

/-- Cards that are moved one by one are moved all together. -/
theorem moveMany_moved (hne : p ≠ q) (hp : r.game.Lined p) (hq : r.game.Lined q) (index' : Value)
    (n : Nat) :
    moveMany ⟨p, index⟩ ⟨q, index'⟩ n r = .ok () { r with game := r.game.moved p q index n } := by
  -- The game changes from card to card, and with it the stretch that is still to be moved.
  induction n generalizing r with
  | zero =>
    rw [Game.moved_of_empty (Stretch.emptied_zero _ _)]
    rfl
  | succ n ih =>
    by_cases hplace : ∃ k, PileRef.slot? ⟨p, index⟩ (r.game.cardsOf p).length = some k ∧
        k < (r.game.cardsOf p).length
    · obtain ⟨k, hslot, hk⟩ := hplace
      have hcard := List.getElem?_eq_getElem hk
      rw [moveMany, bind_of_ok (moveOne_of_place hp hq hslot hcard index'),
        ih ((hp.cutting _ _).gaining _ _) ((hq.cutting _ _).gaining _ _),
        Game.moved_succ hne hp hslot hcard]
    · have hnone : ∀ k, PileRef.slot? ⟨p, index⟩ (r.game.cardsOf p).length = some k →
          (r.game.cardsOf p).length ≤ k := by
        intro k hslot
        by_contra hlt
        exact hplace ⟨k, hslot, by omega⟩
      rw [moveMany, bind_of_ok (moveOne_of_none hp hnone _), ih hp hq,
        Game.moved_of_empty (Stretch.emptied_of_none hnone n),
        Game.moved_of_empty (Stretch.emptied_of_none hnone (n + 1))]

/-! ## Piles and indices -/

end Play

/-- The pile that a reference means, if it means one. -/
def Game.pileOf? (g : Game) (ref : String) : Option Pile :=
  if ref = "deck" then some .deck
  else if ref = "discard" then some .discard
  else (g.handSeat? ref).map .hand

/-- The index that cards are taken from a pile at, a forced one or, for a hand, that of a parameter:
null means the top. -/
def Pile.index? (p : Pile) (forced : Value) (param : Option String) (params : Value) :
    Except Fault Value :=
  match p with
  | .deck | .discard => asIndex? forced
  | .hand _ => do asIndex? (← Play.indexFor? forced param params)

namespace Play

variable {r : Run} {p q : Pile} {index : Value}

/-- The hand that a reference means is that of the next or of the current player. -/
theorem handSeat?_eq_some {g : Game} {ref : String} {a : Nat} (h : g.handSeat? ref = some a) :
    "hand".toList.isSuffixOf ref.toList ∧
      (if occursIn nextPlayerRef.toList ref.toList then g.nextSeat? else g.currentSeat?) =
        .ok a := by
  unfold Game.handSeat? at h
  split at h
  · rename_i hsuffix
    refine ⟨hsuffix, ?_⟩
    cases hseat : (if occursIn nextPlayerRef.toList ref.toList then g.nextSeat?
        else g.currentSeat?) with
    | error f =>
      rw [hseat] at h
      cases h
    | ok b =>
      rw [hseat] at h
      cases h
      rfl
  · cases h

theorem lined_of_pileOf? {g : Game} {ref : String} (hline : ∀ o ∈ g.players, o.InLine)
    (h : g.pileOf? ref = some p) : g.Lined p := by
  rintro a rfl
  unfold Game.pileOf? at h
  split at h
  · cases h
  split at h
  · cases h
  obtain ⟨b, hb, hab⟩ := Option.map_eq_some_iff.1 h
  cases hab
  have hlt : a < g.players.length := by
    obtain ⟨-, hseat⟩ := handSeat?_eq_some hb
    split at hseat
    · exact nextSeat?_ok hseat
    · exact currentSeat?_ok hseat
  obtain ⟨s, hs, hparallel⟩ := hline _ (List.getElem_mem hlt)
  exact ⟨_, s, List.getElem?_eq_getElem hlt, hs, hparallel⟩

theorem align_of_inLine {a : Nat} {o : Player} (ho : r.game.players[a]? = some o)
    (hline : o.InLine) : align a r = .ok () r := by
  obtain ⟨s, hs, hparallel⟩ := id hline
  have hsame : r.game.modifyPlayer a (Player.onSeat Seat.lined) =
      r.game.modifyPlayer a fun _ => o :=
    modifyPlayer_congr ho (Player.linedUp_of_inLine hline)
  rw [align_apply ho hs, hsame, modifyPlayer_same ho]

/-- A look-up finds the pile and leaves flags that are in line as they are. Whether it succeeds
hangs on the index alone. -/
theorem resolvePile_apply {ref : String} (hline : ∀ o ∈ r.game.players, o.InLine)
    (hp : r.game.pileOf? ref = some p) (param : Option String) (params forced : Value) :
    resolvePile (.text ref) param params forced r =
      orFault ((p.index? forced param params).map (PileRef.mk p)) r := by
  have hlined := lined_of_pileOf? hline hp
  unfold Game.pileOf? at hp
  unfold resolvePile
  by_cases hdeck : ref = "deck"
  · subst hdeck
    cases hp
    rw [if_pos rfl, Pile.index?]
    cases asIndex? forced <;> rfl
  by_cases hdiscard : ref = "discard"
  · subst hdiscard
    cases hp
    rw [if_neg (by simp), if_pos rfl, Pile.index?]
    cases asIndex? forced <;> rfl
  rw [if_neg hdeck, if_neg hdiscard] at hp
  obtain ⟨a, ha, rfl⟩ := Option.map_eq_some_iff.1 hp
  obtain ⟨o, s, ho, hs, hparallel⟩ := hlined a rfl
  obtain ⟨hsuffix, hseat⟩ := handSeat?_eq_some ha
  rw [if_neg (by simpa using hdeck), if_neg (by simpa using hdiscard)]
  simp only
  rw [if_pos hsuffix, bind_of_ok (game_apply r), hseat, bind_of_ok (orFault_ok a r), Pile.index?]
  cases indexFor? forced param params with
  | error f => rfl
  | ok i =>
    rw [bind_of_ok (orFault_ok i r), bind_of_ok (align_of_inLine ho ⟨s, hs, hparallel⟩)]
    show _ = orFault ((asIndex? i).map _) r
    cases asIndex? i <;> rfl

theorem resolvePile_of {ref : String} (hline : ∀ o ∈ r.game.players, o.InLine)
    (hp : r.game.pileOf? ref = some p) {forced params : Value} {param : Option String}
    (hindex : p.index? forced param params = .ok index) :
    resolvePile (.text ref) param params forced r = .ok ⟨p, index⟩ r := by
  rw [resolvePile_apply hline hp, hindex]
  rfl

end Play

/-! ## Both moves -/

namespace Play

/-- An index that is given for a hand is read from the parameters too. -/
theorem indexFor?_param {params given : Value} {param : String}
    (hgiven : params.named? param = .ok given) (hnull : given ≠ .null) :
    indexFor? .null (some param) params = indexFor? given none .null := by
  have hfull : params.isVoid = false := by
    cases params with
    | object es =>
      cases es with
      | nil => exact absurd (Except.ok.inj hgiven).symm hnull
      | cons => rfl
    | keyed es =>
      cases es with
      | nil => exact absurd (Except.ok.inj hgiven).symm hnull
      | cons => rfl
    | null | bool | number | text | list => cases hgiven
  rw [indexFor?, indexFor?, if_neg (by simp [hfull]), if_pos (.inl hnull)]
  exact hgiven

theorem resolvePile_param {g : Game} {ref param : String} {a : Nat} {params given : Value}
    (hp : g.pileOf? ref = some (.hand a)) (hgiven : params.named? param = .ok given)
    (hnull : given ≠ .null) :
    resolvePile (.text ref) (some param) params .null =
      resolvePile (.text ref) none .null given := by
  unfold Game.pileOf? at hp
  split at hp
  · cases hp
  split at hp
  · cases hp
  simp only [resolvePile, Value.text.injEq, *, if_false, indexFor?_param hgiven hnull]

end Play

namespace Sample

/-- The first player has three cards and knows two of them. -/
def spread : Game where
  deck := [.text "4S", .text "5S", .text "6S"]
  players :=
    [{ id := .int 1, name := .text "Ann", hand := .list [.text "AS", .text "2S", .text "3S"],
       known := .list [.bool true, .bool false, .bool true] },
     { id := .int 2, name := .text "Bob" }]

/-- The first player names the place after the first one. -/
def pointing : Circumstances := { playerId := .int 1, params := .object [("at", .int 1)] }

theorem inLine_spread : ∀ o ∈ spread.players, o.InLine := by
  intro o ho
  simp only [spread, List.mem_cons, List.not_mem_nil, or_false] at ho
  rcases ho with rfl | rfl
  · exact ⟨⟨_, _⟩, ⟨rfl, rfl⟩, rfl⟩
  · exact ⟨⟨_, _⟩, ⟨rfl, rfl⟩, rfl⟩

end Sample

/-- Cards from the top are turned over. -/
example : (Sample.spread.moved .deck .discard .null 2).discard = [.text "6S", .text "5S"] := by
  decide +kernel

end CardRules
