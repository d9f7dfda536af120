import CardRules.Number
import Mathlib.Data.Nat.Log
import Mathlib.Tactic.Linarith

/-!
# Rounding is monotone

A quotient that is no larger is not rounded to anything larger (`roundUnits_mono`). So what is
divided has no binary64 form if its quotient by a whole number has none, and in general arithmetic
has a result unless an operand is too large (`Number.tooLarge_of_lift`, `Number.tooLarge_of_div`).
-/

namespace CardRules

namespace Decimal

/-! ## Rounding to a whole number -/

variable {n d : Nat}

theorem roundDiv_cases (n d : Nat) :
    (roundDiv n d = n / d ∧ 2 * (n % d) ≤ d ∧ (2 * (n % d) = d → n / d % 2 = 0)) ∨
      (roundDiv n d = n / d + 1 ∧ d ≤ 2 * (n % d) ∧ (2 * (n % d) = d → (n / d + 1) % 2 = 0)) := by
  unfold roundDiv
  dsimp only
  split
  · exact .inl ⟨rfl, by omega, by omega⟩
  split
  · exact .inr ⟨rfl, by omega, by omega⟩
  split
  · exact .inl ⟨rfl, by omega, by omega⟩
  · exact .inr ⟨rfl, by omega, by omega⟩

theorem le_roundDiv (n d : Nat) : n / d ≤ roundDiv n d := by
  rcases roundDiv_cases n d with ⟨h, -⟩ | ⟨h, -⟩ <;> omega

theorem roundDiv_le (n d : Nat) : roundDiv n d ≤ n / d + 1 := by
  rcases roundDiv_cases n d with ⟨h, -⟩ | ⟨h, -⟩ <;> omega

/-- The rounded quotient is at most a half above the quotient, and even if it is just that. -/
theorem roundDiv_above (n d : Nat) :
    2 * (d * roundDiv n d) ≤ 2 * n + d ∧
      (2 * (d * roundDiv n d) = 2 * n + d → 0 < d → roundDiv n d % 2 = 0) := by
  have hdiv := Nat.div_add_mod n d
  rcases roundDiv_cases n d with ⟨h, hle, heven⟩ | ⟨h, hle, heven⟩
  · rw [h]
    exact ⟨by omega, by omega⟩
  · rw [h, Nat.mul_succ]
    exact ⟨by omega, fun heq hd => heven (by omega)⟩

/-- The rounded quotient is at most a half below the quotient, and even if it is just that. -/
theorem roundDiv_below (hd : 0 < d) (n : Nat) :
    2 * n ≤ 2 * (d * roundDiv n d) + d ∧
      (2 * n = 2 * (d * roundDiv n d) + d → roundDiv n d % 2 = 0) := by
  have hdiv := Nat.div_add_mod n d
  have hlt := Nat.mod_lt n hd
  rcases roundDiv_cases n d with ⟨h, hle, heven⟩ | ⟨h, hle, heven⟩
  · rw [h]
    exact ⟨by omega, fun heq => heven (by omega)⟩
  · rw [h, Nat.mul_succ]
    exact ⟨by omega, by omega⟩

theorem roundDiv_mono {n' d' : Nat} (hd : 0 < d) (hd' : 0 < d') (h : n * d' ≤ n' * d) :
    roundDiv n d ≤ roundDiv n' d' := by
  obtain ⟨habove, hup⟩ := roundDiv_above n d
  obtain ⟨hbelow, hdown⟩ := roundDiv_below hd' n'
  by_contra hlt
  generalize roundDiv n d = m at *
  generalize roundDiv n' d' = m' at *
  -- over the denominator `d * d'`, what lies between the two quotients is at most one
  have hscaled : 2 * (d * m) * d' ≤ (2 * n + d) * d' := Nat.mul_le_mul_right d' habove
  have hscaled' : 2 * n' * d ≤ (2 * (d' * m') + d') * d := Nat.mul_le_mul_right d hbelow
  have hle : m ≤ m' + 1 := by
    have hprod : d * d' * m ≤ d * d' * (m' + 1) := by linarith
    exact Nat.le_of_mul_le_mul_left hprod (Nat.mul_pos hd hd')
  obtain rfl : m = m' + 1 := by omega
  -- so both are halves, and both neighbours would have to be even
  have htop : 2 * (d * (m' + 1)) = 2 * n + d :=
    Nat.eq_of_mul_eq_mul_right hd' (by linarith)
  have hbottom : 2 * n' = 2 * (d' * m') + d' := Nat.eq_of_mul_eq_mul_right hd (by linarith)
  have heven := hup htop hd
  have heven' := hdown hbottom
  omega

/-! ## Rounding to 53 bits -/

theorem excessBits_mono {q q' : Nat} (h : q ≤ q') : excessBits q ≤ excessBits q' := by
  unfold excessBits
  rw [Nat.log2_eq_log_two, Nat.log2_eq_log_two]
  exact Nat.sub_le_sub_right (Nat.log_mono_right h) 52

theorem lt_of_excessBits (q : Nat) : q < 2 ^ 53 * 2 ^ excessBits q := by
  rw [← Nat.pow_add]
  refine Nat.lt_of_lt_of_le (Nat.lt_log2_self) (Nat.pow_le_pow_right (by omega) ?_)
  unfold excessBits
  omega

theorem le_of_excessBits {q : Nat} (h : 0 < excessBits q) : 2 ^ 52 * 2 ^ excessBits q ≤ q := by
  have hlog : 52 + excessBits q = q.log2 := by
    unfold excessBits at *
    omega
  have hq : q ≠ 0 := by
    rintro rfl
    simp [excessBits] at h
  rw [← Nat.pow_add, hlog]
  exact Nat.log2_self_le hq

theorem roundUnits_eq (n d : Nat) : roundUnits n d =
    roundDiv n (d * 2 ^ excessBits (n / d)) * 2 ^ excessBits (n / d) := rfl

theorem roundUnits_le (n d : Nat) : roundUnits n d ≤ 2 ^ 53 * 2 ^ excessBits (n / d) := by
  refine Nat.mul_le_mul_right _ (Nat.le_trans (roundDiv_le _ _) ?_)
  rw [← Nat.div_div_eq_div_mul]
  exact Nat.div_lt_of_lt_mul (by rw [Nat.mul_comm]; exact lt_of_excessBits (n / d))

theorem le_roundUnits {n d : Nat} (h : 0 < excessBits (n / d)) :
    2 ^ 52 * 2 ^ excessBits (n / d) ≤ roundUnits n d := by
  refine Nat.mul_le_mul_right _ (Nat.le_trans ?_ (le_roundDiv _ _))
  rw [← Nat.div_div_eq_div_mul]
  exact (Nat.le_div_iff_mul_le (Nat.two_pow_pos _)).2 (le_of_excessBits h)

/-- Rounding keeps the order of quotients. -/
theorem roundUnits_mono {n d n' d' : Nat} (hd : 0 < d) (hd' : 0 < d') (h : n * d' ≤ n' * d) :
    roundUnits n d ≤ roundUnits n' d' := by
  have hq : n / d ≤ n' / d' := by
    rw [Nat.le_div_iff_mul_le hd']
    refine Nat.le_of_mul_le_mul_right ?_ hd
    calc n / d * d' * d = n / d * d * d' := Nat.mul_right_comm _ _ _
      _ ≤ n * d' := Nat.mul_le_mul_right _ (Nat.div_mul_le_self n d)
      _ ≤ n' * d := h
  rcases Nat.eq_or_lt_of_le (excessBits_mono hq) with heq | hlt
  · have hscaled : n * (d' * 2 ^ excessBits (n' / d')) ≤ n' * (d * 2 ^ excessBits (n' / d')) := by
      rw [← Nat.mul_assoc, ← Nat.mul_assoc]
      exact Nat.mul_le_mul_right _ h
    rw [roundUnits_eq, roundUnits_eq, heq]
    exact Nat.mul_le_mul_right _ (roundDiv_mono (Nat.mul_pos hd (Nat.two_pow_pos _))
      (Nat.mul_pos hd' (Nat.two_pow_pos _)) hscaled)
  · have hpow : 2 ^ 53 * 2 ^ excessBits (n / d) = 2 ^ 52 * 2 ^ (excessBits (n / d) + 1) := by
      rw [← Nat.pow_add, ← Nat.pow_add]
      congr 1
      omega
    calc roundUnits n d ≤ 2 ^ 53 * 2 ^ excessBits (n / d) := roundUnits_le n d
      _ = 2 ^ 52 * 2 ^ (excessBits (n / d) + 1) := hpow
      _ ≤ 2 ^ 52 * 2 ^ excessBits (n' / d') :=
        Nat.mul_le_mul_left _ (Nat.pow_le_pow_right (by omega) hlt)
      _ ≤ roundUnits n' d' := le_roundUnits (by omega)

theorem infiniteFrom_pos : 0 < infiniteFrom := by decide +kernel

theorem Binary64.eq_infinite_of_bounded? {x : Binary64} (h : x.bounded? = none) :
    ∃ s, x = .infinite s := by
  cases x with
  | infinite s => exact ⟨s, rfl⟩
  | nan | finite => cases h

/-- A whole number whose quotient by a whole number is rounded to infinity is rounded to infinity
itself. -/
theorem Binary64.ofInt_infinite {i : Int} {d : Nat} (hd : 0 < d) {s t : Bool}
    (h : ofRatio s (i.natAbs * unitsPerOne) d = .infinite t) : ∃ u, ofInt i = .infinite u := by
  have hunits : infiniteFrom ≤ roundUnits (i.natAbs * unitsPerOne) d := by
    unfold ofRatio at h
    dsimp only at h
    split at h
    · cases h
    · omega
  have hle : infiniteFrom ≤ roundUnits (i.natAbs * unitsPerOne) 1 :=
    Nat.le_trans hunits (roundUnits_mono hd Nat.one_pos (Nat.mul_le_mul_left _ hd))
  have habs : (i * unitsPerOne).natAbs = i.natAbs * unitsPerOne := by
    rw [Int.natAbs_mul, Int.natAbs_natCast]
  have hne : i * unitsPerOne ≠ 0 := by
    intro hzero
    rw [← habs, hzero] at hle
    exact absurd hle (Nat.not_le.2 infiniteFrom_pos)
  have hround : ¬ roundUnits (i.natAbs * unitsPerOne) 1 < infiniteFrom := Nat.not_lt.2 hle
  refine ⟨decide (i * unitsPerOne < 0), ?_⟩
  rw [ofInt, ofUnits, if_neg hne, ofRatio, habs]
  exact if_neg hround

end Decimal

/-! ## Numbers -/

namespace Number

open Decimal

theorem toBinary64?_float (x : Binary64) : (Number.float x).toBinary64? = some x := rfl

/-- A whole number too large for binary64. -/
def TooLarge (n : Number) : Prop := n.toBinary64? = none

theorem tooLarge_of_lift {whole : Int → Int → Int} {real : Binary64 → Binary64 → Binary64}
    {m n : Number} (h : lift whole real m n = none) : m.TooLarge ∨ n.TooLarge := by
  cases hm : m.toBinary64? with
  | none => exact .inl hm
  | some x =>
    cases hn : n.toBinary64? with
    | none => exact .inr hn
    | some y => cases m <;> cases n <;> simp [lift, hm, hn] at h

/-- A quotient is too large only if a part of it is. -/
theorem tooLarge_of_div {m n : Number} (hn : n.isZero = false) (h : m.div n = none) :
    m.TooLarge ∨ n.TooLarge := by
  cases m with
  | float x =>
    cases hy : n.toBinary64? with
    | none => exact .inr hy
    | some y => simp [div, toBinary64?_float, hy] at h
  | int i =>
    cases n with
    | float y =>
      cases hx : (int i).toBinary64? with
      | none => exact .inl hx
      | some x => simp [div, toBinary64?_float, hx] at h
    | int j =>
      have hj : 0 < j.natAbs := by
        rw [isZero, beq_eq_false_iff_ne] at hn
        omega
      unfold div at h
      obtain ⟨t, ht⟩ := Binary64.eq_infinite_of_bounded? (Option.map_eq_none_iff.1 h)
      obtain ⟨u, hu⟩ := Binary64.ofInt_infinite hj ht
      refine .inl ?_
      rw [TooLarge, toBinary64?, hu, Binary64.bounded?]

end Number

end CardRules
