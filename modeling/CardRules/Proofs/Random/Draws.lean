import CardRules.Proofs.Decimal.Exactness
import CardRules.Shuffle
import Mathlib.Logic.Function.Iterate

/-!
# Draws and the places they pick

The draws of a source in order (`Source.draw`). A draw from zero up to but excluding one, times a
count, picks one of that many places (`Number.InUnit.scaledDraw?`): the product is rounded, but never
up to the count. A draw of a seeded source is a 32-bit word divided by `2 ^ 32` (`fraction_eq`), and
its product with a count up to `2 ^ 21` is not rounded at all (`scaledDraw?_fraction`).
-/

namespace CardRules

open Decimal

/-! ## The draws of a source -/

namespace Source

/-- The source after a number of draws. -/
def after (s : Source) (k : Nat) : Source := (fun s => s.next.2)^[k] s

/-- The draw of a source after `k` others. -/
def draw (s : Source) (k : Nat) : Number := (s.after k).next.1

theorem after_succ (s : Source) (k : Nat) : s.after (k + 1) = (s.after k).next.2 :=
  Function.iterate_succ_apply' _ k s

theorem draw_succ (s : Source) (k : Nat) : s.draw (k + 1) = s.next.2.draw k :=
  congrArg (fun s => s.next.1) (Function.iterate_succ_apply _ k s)

end Source

/-! ## Whole numbers in binary64 -/

namespace Decimal

/-- The number `2 ^ (-32)`, counted in units. -/
def unitsPerStep : Nat := Nat.pow 2 1042

theorem unitsPerStep_eq : unitsPerStep = 2 ^ 1042 := by decide +kernel

theorem unitsPerOne_eq : unitsPerOne = 2 ^ 32 * unitsPerStep := by decide +kernel

theorem unitsPerOne_pos : 0 < unitsPerOne := by decide +kernel

theorem unitsPerStep_pos : 0 < unitsPerStep := by decide +kernel

/-- Up to `2 ^ 53` steps are counted exactly, and are far from too many. -/
theorem isRounded_steps {m : Nat} (h : m < 2 ^ 53) :
    IsRounded (m * unitsPerStep) ∧ m * unitsPerStep < infiniteFrom := by
  have htop : 2 ^ 53 * unitsPerStep < infiniteFrom := by decide +kernel
  refine ⟨?_, Nat.lt_trans (Nat.mul_lt_mul_of_pos_right h unitsPerStep_pos) htop⟩
  rw [unitsPerStep_eq]
  exact isRounded_mul_two_pow h 1042

/-- A whole number, rounded to binary64, in units. -/
def wholeUnits (n : Nat) : Nat := roundUnits (n * unitsPerOne) 1

theorem Binary64.ofInt_nat (n : Nat) : Binary64.ofInt n =
    if wholeUnits n < infiniteFrom then .finite false (wholeUnits n) else .infinite false := by
  have hcast : (n : Int) * (unitsPerOne : Nat) = ((n * unitsPerOne : Nat) : Int) :=
    (Int.natCast_mul n unitsPerOne).symm
  rw [ofInt, ofUnits, hcast, wholeUnits]
  generalize n * unitsPerOne = z
  by_cases hz : z = 0
  · have hzero : roundUnits 0 1 = 0 := isRounded_of_lt (by omega)
    rw [hz, hzero, if_pos Int.natCast_zero, if_pos infiniteFrom_pos]
  · have hneg : decide ((z : Int) < 0) = false := decide_eq_false (by omega)
    rw [if_neg (by omega), hneg, Int.natAbs_natCast, ofRatio]

end Decimal

namespace Number

theorem tooLarge_nat_iff {n : Nat} : (Number.int n).TooLarge ↔ infiniteFrom ≤ wholeUnits n := by
  rw [TooLarge, toBinary64?, Binary64.ofInt_nat, ← Nat.not_lt]
  by_cases h : wholeUnits n < infiniteFrom
  · rw [if_pos h]
    refine iff_of_false ?_ (not_not_intro h)
    intro hnone
    cases hnone
  · rw [if_neg h]
    exact iff_of_true rfl h

theorem toBinary64?_nat {n : Nat} (h : wholeUnits n < infiniteFrom) :
    (Number.int n).toBinary64? = some (.finite false (wholeUnits n)) := by
  rw [toBinary64?, Binary64.ofInt_nat, if_pos h]
  rfl

theorem TooLarge.mono {m n : Nat} (h : (Number.int m).TooLarge) (hle : m ≤ n) :
    (Number.int n).TooLarge := by
  rw [tooLarge_nat_iff] at *
  refine Nat.le_trans h (roundUnits_mono Nat.one_pos Nat.one_pos ?_)
  rw [Nat.mul_one, Nat.mul_one]
  exact Nat.mul_le_mul_right _ hle

theorem not_tooLarge_of_lt {n : Nat} (h : n < 2 ^ 64) : ¬ (Number.int n).TooLarge := by
  have htop : ¬ infiniteFrom ≤ wholeUnits (2 ^ 64) := by decide +kernel
  exact fun hlarge => htop (tooLarge_nat_iff.1 (hlarge.mono (Nat.le_of_lt h)))

theorem mul_float_int {x y : Binary64} {i : Int} (h : (Number.int i).toBinary64? = some y) :
    (Number.float x).mul (.int i) = some (.float (x.mul y)) := by
  simp [mul, lift, toBinary64?_float, h]

end Number

/-! ## Scaled draws -/

/-- A scaled draw is rounded once for the count and once for the product. -/
theorem scaledDraw?_finite {s : Bool} {u n : Nat} (hn : wholeUnits n < infiniteFrom)
    (hp : roundUnits (u * wholeUnits n) unitsPerOne < infiniteFrom) :
    scaledDraw? (.float (.finite s u)) n = .ok (Binary64.signedUnits s
      (roundUnits (u * wholeUnits n) unitsPerOne / unitsPerOne)) := by
  have hmul : (Binary64.finite s u).mul (.finite false (wholeUnits n)) =
      .finite s (roundUnits (u * wholeUnits n) unitsPerOne) := by
    rw [Binary64.mul, Bool.bne_false, Binary64.ofRatio]
    exact if_pos hp
  rw [scaledDraw?, Number.mul_float_int (Number.toBinary64?_nat hn), hmul]
  rfl

/-- A binary64 number that there is: a finite one has at most 53 significant bits and is not too
large. -/
def Decimal.Binary64.Proper : Binary64 → Prop
  | .finite _ u => IsRounded u ∧ u < infiniteFrom
  | _ => True

/-- A number from zero up to but excluding one. -/
structure Number.InUnit (r : Number) : Prop where
  proper : ∀ x, r = .float x → x.Proper
  nonneg : r.holds .ge (.int 0) = true
  below : r.holds .lt (.int 1) = true

namespace Comparison

theorem holds_ge_iff {a b : Int} : Comparison.ge.holds (compare a b) = true ↔ b ≤ a := by
  rw [← Int.not_lt, ← Int.compare_eq_lt, holds]
  exact bne_iff_ne

theorem holds_lt_iff {a b : Int} : Comparison.lt.holds (compare a b) = true ↔ a < b := by
  rw [← Int.compare_eq_lt, holds]
  exact beq_iff_eq

end Comparison

namespace Number

theorem holds_int (op : Comparison) (i j : Int) :
    (Number.int i).holds op (.int j) = op.holds (compare i j) := rfl

theorem holds_finite (op : Comparison) (s : Bool) (u : Nat) (i : Int) :
    (Number.float (.finite s u)).holds op (.int i) =
      op.holds (compare (Binary64.signedUnits s u) (i * unitsPerOne)) := by
  rw [Std.OrientedOrd.eq_swap]
  rfl

/-- A number of the unit interval is zero, or a finite one of less than the units of one. -/
theorem InUnit.eq {r : Number} (h : r.InUnit) : r = .int 0 ∨
    ∃ s u, r = .float (.finite s u) ∧ (s = true → u = 0) ∧ u < unitsPerOne ∧ IsRounded u := by
  obtain ⟨hproper, hge, hlt⟩ := h
  cases r with
  | int i =>
    left
    rw [holds_int, Comparison.holds_ge_iff] at hge
    rw [holds_int, Comparison.holds_lt_iff] at hlt
    exact congrArg Number.int (by omega)
  | float x =>
    right
    cases x with
    | nan => cases hge
    | infinite s =>
      cases s with
      | false => cases hlt
      | true => cases hge
    | finite s u =>
      rw [holds_finite, Comparison.holds_ge_iff, Int.zero_mul] at hge
      rw [holds_finite, Comparison.holds_lt_iff, Int.one_mul] at hlt
      have hrounded : IsRounded u := (hproper _ rfl).1
      cases s with
      | false => exact ⟨false, u, rfl, (fun hs => nomatch hs), Int.ofNat_lt.1 hlt, hrounded⟩
      | true =>
        have hzero : u = 0 := by
          have hge : 0 ≤ -(u : Int) := hge
          omega
        refine ⟨true, u, rfl, fun _ => hzero, ?_, hrounded⟩
        rw [hzero]
        exact unitsPerOne_pos

end Number

/-- Whole numbers in units are large magnitudes. -/
theorem two_pow_le_wholeUnits {n : Nat} (hn : 0 < n) : 2 ^ 53 ≤ wholeUnits n := by
  have hone : 2 ^ 53 ≤ unitsPerOne := by decide +kernel
  have hrounded : IsRounded (2 ^ 53) := isRounded_mul_two_pow (m := 1) (by omega) 53
  apply hrounded.le_roundUnits Nat.one_pos
  rw [Nat.mul_one]
  exact Nat.le_trans hone (Nat.le_mul_of_pos_left _ hn)

section Below

variable {u n : Nat} (hrounded : IsRounded u) (hu : u < unitsPerOne) (hn : 0 < n)

include hrounded hu hn

/-- A number below one takes a count to less than the count, also after rounding. -/
theorem roundUnits_mul_wholeUnits_lt :
    roundUnits (u * wholeUnits n) unitsPerOne < wholeUnits n := by
  have hbelow : 2 ^ 53 * u + unitsPerOne ≤ 2 ^ 53 * unitsPerOne := by
    have hone : unitsPerOne = 2 ^ (53 + 1021) := by decide +kernel
    rw [hone] at hu ⊢
    exact hrounded.below hu
  exact roundUnits_lt unitsPerOne_pos hbelow (two_pow_le_wholeUnits hn)

theorem roundUnits_mul_wholeUnits_div_lt :
    roundUnits (u * wholeUnits n) unitsPerOne / unitsPerOne < n := by
  apply Nat.div_lt_of_lt_mul
  by_contra hge
  have hcount : n * unitsPerOne ≤ roundUnits (u * wholeUnits n) unitsPerOne * 1 := by
    rw [Nat.mul_one, Nat.mul_comm]
    exact Nat.le_of_not_lt hge
  -- then the count itself would have been rounded to no more than the product
  have hle := (isRounded_roundUnits (u * wholeUnits n) unitsPerOne).roundUnits_le
    Nat.one_pos hcount
  exact absurd (roundUnits_mul_wholeUnits_lt hrounded hu hn) (Nat.not_lt.2 hle)

end Below

/-- A number of the unit interval picks one of any number of places, if that number is not too
large. -/
theorem Number.InUnit.scaledDraw? {r : Number} (h : r.InUnit) {n : Nat} (hpos : 0 < n)
    (hn : ¬ (Number.int n).TooLarge) : ∃ j < n, CardRules.scaledDraw? r n = .ok (j : Int) := by
  rcases h.eq with rfl | ⟨s, u, rfl, hs, hu, hrounded⟩
  · refine ⟨0, hpos, ?_⟩
    show Except.ok (0 * (n : Int)) = .ok 0
    rw [Int.zero_mul]
  · have hfinite : wholeUnits n < infiniteFrom := Nat.lt_of_not_le (mt tooLarge_nat_iff.2 hn)
    have hlt := roundUnits_mul_wholeUnits_lt hrounded hu hpos
    refine ⟨_, roundUnits_mul_wholeUnits_div_lt hrounded hu hpos, ?_⟩
    rw [scaledDraw?_finite hfinite (Nat.lt_trans hlt hfinite)]
    cases s with
    | false => rfl
    | true =>
      have hzero : roundUnits (0 * unitsPerOne) unitsPerOne = 0 :=
        (isRounded_of_lt (by omega)).roundUnits_mul unitsPerOne_pos
      rw [Nat.zero_mul] at hzero
      rw [hs rfl, Nat.zero_mul, hzero, Nat.zero_div]
      rfl

/-! ## Seeded draws -/

namespace Generator

theorem toNat_mul_lt (w : UInt32) {n : Nat} (hn : n ≤ 2 ^ 21) : w.toNat * n < 2 ^ 53 := by
  have hw := w.toNat_lt
  calc w.toNat * n ≤ w.toNat * 2 ^ 21 := Nat.mul_le_mul_left _ hn
    _ < 2 ^ 53 := by omega

/-- The fraction of a word is exactly the word divided by `2 ^ 32`. -/
theorem fraction_eq (w : UInt32) : fraction w = .finite false (w.toNat * unitsPerStep) := by
  have hw := w.toNat_lt
  obtain ⟨hrounded, hfinite⟩ := isRounded_steps (m := w.toNat) (by omega)
  have hround : roundUnits (w.toNat * unitsPerOne) (Nat.pow 2 32) = w.toNat * unitsPerStep := by
    rw [unitsPerOne_eq, Nat.mul_comm (2 ^ 32), ← Nat.mul_assoc]
    exact hrounded.roundUnits_mul (Nat.two_pow_pos 32)
  rw [fraction, Binary64.ofRatio, hround]
  exact if_pos hfinite

/-- Every fraction lies between zero and one. -/
theorem inUnit_fraction (w : UInt32) : (Number.float (fraction w)).InUnit := by
  have hw := w.toNat_lt
  obtain ⟨hrounded, hfinite⟩ := isRounded_steps (m := w.toNat) (by omega)
  have hbelow : w.toNat * unitsPerStep < unitsPerOne := by
    rw [unitsPerOne_eq]
    exact Nat.mul_lt_mul_of_pos_right hw unitsPerStep_pos
  rw [fraction_eq]
  refine ⟨?_, ?_, ?_⟩
  · intro x hx
    cases hx
    exact ⟨hrounded, hfinite⟩
  · rw [Number.holds_finite, Comparison.holds_ge_iff, Int.zero_mul]
    exact Int.natCast_nonneg _
  · rw [Number.holds_finite, Comparison.holds_lt_iff, Int.one_mul]
    exact Int.ofNat_lt.2 hbelow

end Generator

/-- The product of a fraction with a small count is exact. -/
theorem scaledDraw?_fraction (w : UInt32) {n : Nat} (hn : n ≤ 2 ^ 21) :
    scaledDraw? (.float (Generator.fraction w)) n = .ok ((w.toNat * n / 2 ^ 32 : Nat) : Int) := by
  have hproduct := Generator.toNat_mul_lt w hn
  obtain ⟨hrounded, hsmall⟩ := isRounded_steps hproduct
  have hwhole : wholeUnits n = n * unitsPerOne := by
    have hone : unitsPerOne = 2 ^ 1074 := by decide +kernel
    rw [wholeUnits, hone]
    exact isRounded_mul_two_pow (by omega) 1074
  have hfinite : wholeUnits n < infiniteFrom := by
    have htop : 2 ^ 21 * unitsPerOne < infiniteFrom := by decide +kernel
    rw [hwhole]
    exact Nat.lt_of_le_of_lt (Nat.mul_le_mul_right _ hn) htop
  have hround : roundUnits (w.toNat * unitsPerStep * wholeUnits n) unitsPerOne =
      w.toNat * n * unitsPerStep := by
    rw [hwhole, ← Nat.mul_assoc, Nat.mul_right_comm w.toNat]
    exact hrounded.roundUnits_mul unitsPerOne_pos
  have hplace : w.toNat * n * unitsPerStep / unitsPerOne = w.toNat * n / 2 ^ 32 := by
    rw [unitsPerOne_eq, Nat.mul_div_mul_right _ _ unitsPerStep_pos]
  have hbounded : roundUnits (w.toNat * unitsPerStep * wholeUnits n) unitsPerOne < infiniteFrom := by
    rw [hround]
    exact hsmall
  rw [Generator.fraction_eq, scaledDraw?_finite hfinite hbounded, hround, hplace]
  rfl

end CardRules
