import CardRules.Proofs.Cards.Dealing
import CardRules.Proofs.Random.Period
import Mathlib.Data.Fin.Tuple.Basic
import Mathlib.Data.Fintype.BigOperators
import Mathlib.Data.Nat.Factorial.BigOperators
import Mathlib.Data.Set.Card

/-!
# The orders a shuffle can leave

A shuffle whose draws pick places in range exchanges each place, from the last one down, with the
one picked for it (`shuffle_arrange`). After its own exchange a place is never touched again
(`getElem?_arrange`), so the item left there tells which place was picked, and any item left of it
could have been: the picks correspond one to one to the orders of the list (`arrange_injective`,
`exists_arrange`).
-/

namespace CardRules

open Nat (factorial)

/-! ## Exchanges -/

section Exchange

variable {α : Type} {xs : List α} {i j k : Nat}

theorem exchange_of_lt (hi : i < xs.length) (hj : j < xs.length) :
    exchange xs i j = (xs.set i xs[j]).set j xs[i] := by
  rw [exchange, List.getElem?_eq_getElem hi, List.getElem?_eq_getElem hj]

@[simp] theorem length_exchange (xs : List α) (i j : Nat) :
    (exchange xs i j).length = xs.length := (exchange_perm xs i j).length_eq

theorem exchange_self (xs : List α) (i : Nat) : exchange xs i i = xs := by
  by_cases hi : i < xs.length
  · rw [exchange_of_lt hi hi, List.set_set, List.set_getElem_self]
  · rw [exchange, List.getElem?_eq_none (Nat.le_of_not_lt hi)]

theorem getElem?_exchange_left (hi : i < xs.length) (hj : j < xs.length) :
    (exchange xs i j)[i]? = xs[j]? := by
  by_cases h : i = j
  · rw [h, exchange_self]
  · rw [exchange_of_lt hi hj, List.getElem?_set_ne (Ne.symm h), List.getElem?_set_self hi,
      List.getElem?_eq_getElem hj]

theorem getElem?_exchange_of_ne (hi : i ≠ k) (hj : j ≠ k) : (exchange xs i j)[k]? = xs[k]? := by
  unfold exchange
  split
  · rw [List.getElem?_set_ne hj, List.getElem?_set_ne hi]
  · rfl

end Exchange

/-! ## Arrangements -/

/-- The places picked in a shuffle of `n` items: one for each place, from the first up to it. -/
abbrev Picks (n : Nat) : Type := (i : Fin n) → Fin (i + 1)

namespace Picks

variable {n : Nat}

/-- The place picked for the last one. -/
def last (picks : Picks (n + 1)) : Nat := picks (Fin.last n)

/-- The places picked for all but the last one. -/
def init (picks : Picks (n + 1)) : Picks n := fun i => picks i.castSucc

/-- One more place picked. -/
def extend (picks : Picks n) (p : Fin (n + 1)) : Picks (n + 1) :=
  Fin.lastCases p picks

theorem last_le (picks : Picks (n + 1)) : picks.last ≤ n :=
  Nat.le_of_lt_succ (picks (Fin.last n)).isLt

theorem last_extend (picks : Picks n) (p : Fin (n + 1)) : (picks.extend p).last = p :=
  congrArg Fin.val (Fin.lastCases_last ..)

theorem init_extend (picks : Picks n) (p : Fin (n + 1)) : (picks.extend p).init = picks := by
  funext i
  rw [init, extend, Fin.lastCases_castSucc]

theorem ext {picks picks' : Picks (n + 1)} (hlast : picks.last = picks'.last)
    (hinit : picks.init = picks'.init) : picks = picks' := by
  funext i
  cases i using Fin.lastCases with
  | last => exact Fin.ext hlast
  | cast i => exact congrFun hinit i

/-- There are `n` factorial ways to pick. -/
theorem card_eq (n : Nat) : Nat.card (Picks n) = factorial n := by
  rw [Nat.card_eq_fintype_card, Fintype.card_pi]
  simp only [Fintype.card_fin]
  rw [Fin.prod_univ_eq_prod_range (fun i => i + 1) n, Finset.prod_range_add_one_eq_factorial]

end Picks

/-- The list after its first `n` places have been exchanged, from the last of them down, with those
picked for them. -/
def arrange {α : Type} : {n : Nat} → Picks n → List α → List α
  | 0, _, xs => xs
  | n + 1, picks, xs => arrange picks.init (exchange xs n picks.last)

/-- The source's draws pick these places: the draw for a place comes after those for the places
above it, and there is none for the first place. -/
def Source.Takes (s : Source) {n : Nat} (picks : Picks n) : Prop :=
  ∀ i : Fin n, 0 < i.val → scaledDraw? (s.draw (n - 1 - i)) (i + 1) = .ok (picks i : Nat)

namespace Source

variable {s : Source} {n : Nat}

theorem Takes.init {picks : Picks (n + 1)} (h : s.Takes picks) : s.next.2.Takes picks.init := by
  intro i hi
  have hpick := h i.castSucc hi
  have hplace : n + 1 - 1 - (i.castSucc : Nat) = n - 1 - i + 1 := by
    rw [Fin.val_castSucc]
    omega
  rwa [hplace, draw_succ] at hpick

theorem Takes.last {picks : Picks (n + 2)} (h : s.Takes picks) :
    scaledDraw? s.next.1 (n + 2) = .ok picks.last := by
  have hpick := h (Fin.last (n + 1)) (Nat.succ_pos n)
  have hfirst : n + 2 - 1 - (Fin.last (n + 1) : Nat) = 0 := Nat.sub_self (n + 1)
  rwa [hfirst] at hpick

/-- A source each of whose draws picks some place takes some picks. -/
theorem exists_takes
    (h : ∀ i < n, ∃ j < i + 1, scaledDraw? (s.draw (n - 1 - i)) (i + 1) = .ok (j : Int)) :
    ∃ picks : Picks n, s.Takes picks := by
  choose j hj hdraw using fun i : Fin n => h i i.isLt
  exact ⟨fun i => ⟨j i, hj i⟩, fun i _ => hdraw i⟩

end Source

section Arrange

variable {α : Type} {xs ys : List α} {n k : Nat}

theorem shuffleFrom_arrange {source : Source} {picks : Picks (n + 1)} (hn : n < xs.length)
    (h : source.Takes picks) :
    shuffleFrom source n xs = ⟨arrange picks xs, source.after n, none⟩ := by
  induction n generalizing source xs with
  | zero =>
    have hfirst : picks.last = 0 := Nat.le_zero.1 picks.last_le
    rw [arrange, hfirst, exchange_self]
    rfl
  | succ n ih =>
    have hlt : picks.last < xs.length := Nat.lt_of_le_of_lt picks.last_le hn
    have hplace : placeOf? picks.last xs.length = some picks.last := by
      rw [placeOf?, if_pos (Int.natCast_nonneg _), if_pos (Int.ofNat_lt.2 hlt), Int.toNat_natCast]
    simp only [shuffleFrom, h.last, hplace]
    exact ih (by rw [length_exchange]; omega) h.init

/-- A shuffle whose draws pick places in range leaves the list arranged by them. -/
theorem shuffle_arrange {source : Source} {picks : Picks n} (hn : xs.length = n)
    (h : source.Takes picks) :
    shuffle source xs = ⟨arrange picks xs, source.after (n - 1), none⟩ := by
  rw [shuffle, hn]
  cases n with
  | zero => rfl
  | succ n => exact shuffleFrom_arrange (by omega) h

theorem arrange_perm (picks : Picks n) (xs : List α) : (arrange picks xs).Perm xs := by
  induction n generalizing xs with
  | zero => exact .refl xs
  | succ n ih => exact (ih picks.init _).trans (exchange_perm xs n picks.last)

/-- Places from the `n`th on stay as they are. -/
theorem getElem?_arrange (picks : Picks n) (xs : List α) (h : n ≤ k) :
    (arrange picks xs)[k]? = xs[k]? := by
  induction n generalizing xs with
  | zero => rfl
  | succ n ih =>
    have hlast := picks.last_le
    rw [arrange, ih _ _ (by omega), getElem?_exchange_of_ne (by omega) (by omega)]

theorem getElem?_arrange_last (picks : Picks (n + 1)) (hn : n < xs.length) :
    (arrange picks xs)[n]? = xs[picks.last]? := by
  have hlast := picks.last_le
  rw [arrange, getElem?_arrange _ _ (Nat.le_refl n), getElem?_exchange_left hn (by omega)]

theorem arrange_injective (hxs : xs.Nodup) (hn : n ≤ xs.length) :
    Function.Injective fun picks : Picks n => arrange picks xs := by
  induction n generalizing xs with
  | zero => exact Function.injective_of_subsingleton _
  | succ n ih =>
    intro picks picks' h
    have hsame : arrange picks xs = arrange picks' xs := h
    have hlast : picks.last = picks'.last := by
      have hle := picks.last_le
      rw [← List.getElem?_inj (by omega) hxs, ← getElem?_arrange_last picks hn,
        ← getElem?_arrange_last picks' hn, hsame]
    have hinit : picks.init = picks'.init := by
      have hnodup := (exchange_perm xs n picks.last).nodup_iff.2 hxs
      apply ih hnodup (by rw [length_exchange]; omega)
      rwa [arrange, arrange, ← hlast] at hsame
    exact Picks.ext hlast hinit

/-- Every order that keeps the places from the `n`th on is an arrangement of the places below. -/
theorem exists_arrange (hxs : xs.Nodup) (hn : n ≤ xs.length) (hperm : ys.Perm xs)
    (hsame : ∀ k, n ≤ k → ys[k]? = xs[k]?) : ∃ picks : Picks n, arrange picks xs = ys := by
  induction n generalizing xs with
  | zero => exact ⟨fun i => i.elim0, (List.ext_getElem? fun k => hsame k (Nat.zero_le k)).symm⟩
  | succ n ih =>
    have hlt : n < ys.length := by
      rw [hperm.length_eq]
      exact hn
    obtain ⟨p, hp, hitem⟩ := List.getElem_of_mem (hperm.subset (List.getElem_mem hlt))
    have hitem : ys[n]? = xs[p]? := by
      rw [List.getElem?_eq_getElem hlt, List.getElem?_eq_getElem hp, hitem]
    -- the places above are settled, so the item left in place `n` came from one up to it
    have hle : p < n + 1 := by
      by_contra hge
      have habove : ys[n]? = ys[p]? := hitem.trans (hsame p (by omega)).symm
      have hplaces := (List.getElem?_inj hlt (hperm.nodup_iff.2 hxs)).1 habove
      omega
    obtain ⟨picks, hpicks⟩ : ∃ picks : Picks n, arrange picks (exchange xs n p) = ys := by
      have hexchange := exchange_perm xs n p
      apply ih (hexchange.nodup_iff.2 hxs) (by rw [length_exchange]; omega)
        (hperm.trans hexchange.symm)
      intro k hk
      by_cases hkn : n = k
      · subst hkn
        rw [getElem?_exchange_left hn hp, hitem]
      · rw [getElem?_exchange_of_ne hkn (by omega), hsame k (by omega)]
    refine ⟨picks.extend ⟨p, hle⟩, ?_⟩
    rw [arrange, Picks.init_extend, Picks.last_extend]
    exact hpicks

theorem range_arrange (hxs : xs.Nodup) :
    (Set.range fun picks : Picks xs.length => arrange picks xs) = {ys | ys.Perm xs} := by
  ext ys
  constructor
  · rintro ⟨picks, rfl⟩
    exact arrange_perm picks xs
  · intro hperm
    apply exists_arrange hxs (Nat.le_refl _) hperm
    intro k hk
    rw [List.getElem?_eq_none hk, List.getElem?_eq_none (hperm.length_eq ▸ hk)]

end Arrange

/-! ## Sources that pick in range -/

/-- Draws of the unit interval never stop the shuffle of a list whose length is not too large. -/
theorem shuffle_fault_of_inUnit {α : Type} {source : Source} {xs : List α}
    (hdraws : ∀ k, (source.draw k).InUnit) (hsize : ¬ (Number.int xs.length).TooLarge) :
    (shuffle source xs).fault = none := by
  obtain ⟨picks, hpicks⟩ : ∃ picks : Picks xs.length, source.Takes picks := by
    apply Source.exists_takes
    intro i hi
    apply (hdraws _).scaledDraw? (Nat.succ_pos i)
    exact fun hlarge => hsize (hlarge.mono hi)
  rw [shuffle_arrange rfl hpicks]

/-- A seeded source never stops the shuffle of a list shorter than `2 ^ 64`. -/
theorem shuffle_seeded_fault {α : Type} {xs : List α} (hsize : xs.length < 2 ^ 64)
    (g : Generator) : (shuffle (.seeded g) xs).fault = none := by
  apply shuffle_fault_of_inUnit
  · intro k
    rw [Generator.draw_eq]
    exact Generator.inUnit_fraction _
  · exact Number.not_tooLarge_of_lt hsize

theorem Source.fixed_after (draws : List Number) (used k : Nat) :
    (Source.fixed draws used).after k = .fixed draws (used + k) := by
  induction k with
  | zero => rfl
  | succ k ih =>
    rw [after_succ, ih]
    rfl

theorem Source.fixed_draw (draws : List Number) (k : Nat) :
    (Source.fixed draws 0).draw k = draws[k % draws.length]?.getD (.int 0) := by
  rw [draw, fixed_after, Nat.zero_add]
  rfl

/-- The draw of a fraction picks a place up to the current one. -/
theorem toNat_mul_div_le (w : UInt32) (i : Nat) : w.toNat * (i + 1) / 2 ^ 32 ≤ i := by
  have hlt : w.toNat * (i + 1) < 2 ^ 32 * (i + 1) :=
    Nat.mul_lt_mul_of_pos_right w.toNat_lt (Nat.succ_pos i)
  exact Nat.le_of_lt_succ (Nat.div_lt_of_lt_mul hlt)

/-- The first word whose fraction picks place `j` of those up to `i`. -/
def wordFor (i j : Nat) : UInt32 := UInt32.ofNat ((j * 2 ^ 32 + i) / (i + 1))

theorem scaledDraw?_wordFor {i j : Nat} (hi : i < 2 ^ 21) (hj : j ≤ i) :
    scaledDraw? (.float (Generator.fraction (wordFor i j))) (i + 1) = .ok (j : Int) := by
  have hword : (wordFor i j).toNat = (j * 2 ^ 32 + i) / (i + 1) := by
    apply UInt32.toNat_ofNat_of_lt'
    apply Nat.div_lt_of_lt_mul
    show _ < (i + 1) * 2 ^ 32
    omega
  have hplace : (j * 2 ^ 32 + i) / (i + 1) * (i + 1) / 2 ^ 32 = j := by
    have hle := Nat.div_mul_le_self (j * 2 ^ 32 + i) (i + 1)
    have hlt := Nat.lt_div_mul_add (a := j * 2 ^ 32 + i) (Nat.succ_pos i)
    generalize (j * 2 ^ 32 + i) / (i + 1) * (i + 1) = product at hle hlt ⊢
    omega
  have hdraw := scaledDraw?_fraction (wordFor i j) (n := i + 1) (by omega)
  rwa [hword, hplace] at hdraw

/-- Some fractions pick any given places of a list shorter than `2 ^ 21`. -/
theorem exists_source_takes {n : Nat} (hn : n < 2 ^ 21) (picks : Picks n) :
    ∃ draws, (∀ r ∈ draws, r.InUnit) ∧ (Source.fixed draws 0).Takes picks := by
  -- the draws come in the order of the places from the last one down
  refine ⟨List.ofFn fun k : Fin n => .float (Generator.fraction (wordFor k.rev (picks k.rev))),
    ?_, ?_⟩
  · intro r hr
    obtain ⟨k, rfl⟩ := List.mem_ofFn.1 hr
    exact Generator.inUnit_fraction _
  · intro i _
    have hi := i.isLt
    have hplace : n - 1 - i < n := by omega
    have hrev : (⟨n - 1 - i, hplace⟩ : Fin n) = i.rev := by
      apply Fin.ext
      show n - 1 - i = i.rev
      rw [Fin.val_rev]
      omega
    rw [Source.fixed_draw, List.length_ofFn, Nat.mod_eq_of_lt hplace, List.getElem?_ofFn,
      dif_pos hplace, hrev, Fin.rev_rev]
    exact scaledDraw?_wordFor (by omega) (Nat.le_of_lt_succ (picks i).isLt)

/-! ## Picks and orders -/

/-- A shuffle leaves an order of the list, whatever is drawn and also when it stops. Draws that pick
places in range leave the list arranged by these picks, and the picks correspond one to one to the
orders of a list without repetitions. For a list shorter than `2 ^ 21` a seeded draw `k / 2 ^ 32`
picks place `k * (i + 1) / 2 ^ 32`, rounded down, of those up to `i`, no seeded shuffle stops, and
some draws of the unit interval pick any given places. -/
theorem shuffle_orders {α : Type} (xs : List α) :
    (∀ source, (shuffle source xs).items.Perm xs) ∧
      (∀ source (picks : Picks xs.length), source.Takes picks →
        (shuffle source xs).items = arrange picks xs ∧ (shuffle source xs).fault = none) ∧
      (xs.Nodup →
        (Function.Injective fun picks : Picks xs.length => arrange picks xs) ∧
        (Set.range fun picks : Picks xs.length => arrange picks xs) = {ys | ys.Perm xs} ∧
        {ys : List α | ys.Perm xs}.ncard = factorial xs.length) ∧
      (xs.length < 2 ^ 21 →
        (∀ (w : UInt32) (i : Nat), i < xs.length →
          scaledDraw? (.float (Generator.fraction w)) (i + 1) =
            .ok (w.toNat * (i + 1) / 2 ^ 32 : Nat) ∧
          w.toNat * (i + 1) / 2 ^ 32 ≤ i) ∧
        (∀ g, (shuffle (.seeded g) xs).fault = none) ∧
        ∀ picks : Picks xs.length, ∃ draws, (∀ r ∈ draws, r.InUnit) ∧
          (Source.fixed draws 0).Takes picks) := by
  refine ⟨fun source => shuffle_perm source xs, ?_, ?_, ?_⟩
  · intro source picks h
    rw [shuffle_arrange rfl h]
    exact ⟨rfl, rfl⟩
  · intro hxs
    have hinjective := arrange_injective hxs (Nat.le_refl xs.length)
    refine ⟨hinjective, range_arrange hxs, ?_⟩
    rw [← range_arrange hxs, ← Picks.card_eq]
    exact Nat.card_range_of_injective hinjective
  · intro hsize
    refine ⟨?_, shuffle_seeded_fault (by omega), exists_source_takes hsize⟩
    intro w i hi
    exact ⟨scaledDraw?_fraction w (by omega), toNat_mul_div_le w i⟩

/-- Draws of zero pick the first place each time and turn three cards round; there are six orders of
them, and a seeded shuffle of them does not stop. -/
theorem shuffle_orders_sample :
    (shuffle (.fixed [.int 0] 0) ["A", "B", "C"]).items = ["B", "C", "A"] ∧
      {ys : List String | ys.Perm ["A", "B", "C"]}.ncard = 6 ∧
      (shuffle (.seeded ⟨7⟩) ["A", "B", "C"]).fault = none := by
  obtain ⟨-, harranged, horders, hseeded⟩ := shuffle_orders ["A", "B", "C"]
  have hzero : (Source.fixed [.int 0] 0).Takes fun _ : Fin 3 => 0 := by
    intro i _
    rw [Source.fixed_draw, List.length_singleton, Nat.mod_one]
    exact congrArg Except.ok (Int.zero_mul _)
  refine ⟨(harranged _ _ hzero).1.trans (by decide), (horders (by decide)).2.2, ?_⟩
  exact (hseeded (by decide)).2.1 ⟨7⟩

end CardRules
