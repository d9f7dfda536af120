import CardRules.Proofs.Decimal.Rounding

/-!
# Exact and nearly exact magnitudes

A magnitude of at most 53 significant bits is its own rounding (`IsRounded`), and a quotient that
comes out at such a magnitude is exact (`IsRounded.roundUnits_mul`). Every rounded quotient is one
(`isRounded_roundUnits`), so that a rounded magnitude on one side of a quotient stays on that side
(`IsRounded.le_roundUnits`). A product with a factor that is below one by at least `2 ^ (-53)` is
rounded to less than the other factor (`roundUnits_lt`), and every rounded magnitude below a power
of two is below it by so much (`IsRounded.gap`).
-/

namespace CardRules

namespace Decimal

/-- The magnitude has at most 53 significant bits: it is its own rounding. -/
def IsRounded (u : Nat) : Prop := roundUnits u 1 = u

variable {u n d m s : Nat}

/-! ## Exact quotients -/

theorem roundDiv_mul (hd : 0 < d) (q : Nat) : roundDiv (q * d) d = q := by
  unfold roundDiv
  rw [Nat.mul_div_cancel q hd, Nat.mul_mod_left]
  simp [hd]

theorem excessBits_le (h : n < 2 ^ (53 + s)) : excessBits n ≤ s := by
  unfold excessBits
  by_cases hn : n = 0
  · simp [hn]
  · have hlog := (Nat.log2_lt hn).2 h
    omega

theorem isRounded_mul_two_pow (hm : m < 2 ^ 53) (s : Nat) : IsRounded (m * 2 ^ s) := by
  have hle : excessBits (m * 2 ^ s) ≤ s := by
    apply excessBits_le
    rw [Nat.pow_add]
    exact Nat.mul_lt_mul_of_pos_right hm (Nat.two_pow_pos s)
  have hsplit : m * 2 ^ s = m * 2 ^ (s - excessBits (m * 2 ^ s)) * 2 ^ excessBits (m * 2 ^ s) := by
    rw [Nat.mul_assoc, ← Nat.pow_add, Nat.sub_add_cancel hle]
  rw [IsRounded, roundUnits_eq, Nat.div_one, Nat.one_mul]
  generalize excessBits (m * 2 ^ s) = t at hsplit ⊢
  rw [hsplit, roundDiv_mul (Nat.two_pow_pos t)]

theorem isRounded_of_lt (h : n < 2 ^ 53) : IsRounded n := by
  have hshifted := isRounded_mul_two_pow h 0
  rwa [Nat.pow_zero, Nat.mul_one] at hshifted

/-- Rounding gives magnitudes that need no more rounding. -/
theorem isRounded_roundUnits (n d : Nat) : IsRounded (roundUnits n d) := by
  have hle := roundUnits_le n d
  rw [roundUnits_eq] at hle ⊢
  generalize excessBits (n / d) = t at hle ⊢
  generalize roundDiv n (d * 2 ^ t) = q at hle ⊢
  have hq : q ≤ 2 ^ 53 := Nat.le_of_mul_le_mul_right hle (Nat.two_pow_pos t)
  rcases Nat.lt_or_eq_of_le hq with hlt | rfl
  · exact isRounded_mul_two_pow hlt t
  · have hshift : 2 ^ 53 * 2 ^ t = 2 ^ 52 * 2 ^ (t + 1) := by
      rw [← Nat.pow_add, ← Nat.pow_add]
      congr 1
      omega
    rw [hshift]
    exact isRounded_mul_two_pow (by omega) (t + 1)

theorem IsRounded.le_roundUnits (hu : IsRounded u) (hd : 0 < d) (h : u * d ≤ n) :
    u ≤ roundUnits n d :=
  calc u = roundUnits u 1 := hu.symm
    _ ≤ roundUnits n d := roundUnits_mono Nat.one_pos hd (by rwa [Nat.mul_one])

theorem IsRounded.roundUnits_le (hu : IsRounded u) (hd : 0 < d) (h : n ≤ u * d) :
    roundUnits n d ≤ u :=
  calc roundUnits n d ≤ roundUnits u 1 := roundUnits_mono hd Nat.one_pos (by rwa [Nat.mul_one])
    _ = u := hu

/-- A quotient that is a rounded magnitude is not rounded any more. -/
theorem IsRounded.roundUnits_mul (hu : IsRounded u) (hd : 0 < d) : roundUnits (u * d) d = u :=
  Nat.le_antisymm (hu.roundUnits_le hd (Nat.le_refl _)) (hu.le_roundUnits hd (Nat.le_refl _))

/-! ## Factors below one -/

/-- A rounded magnitude below a power of two is below it by a unit of its last place. -/
theorem IsRounded.gap {k : Nat} (hu : IsRounded u) (h : u < 2 ^ (53 + k)) :
    u + 2 ^ k ≤ 2 ^ (53 + k) := by
  have hk := excessBits_le h
  have hle := Decimal.roundUnits_le u 1
  rw [show roundUnits u 1 = u from hu, Nat.div_one] at hle
  have hdigits : u = roundDiv u (2 ^ excessBits u) * 2 ^ excessBits u := by
    have heq := roundUnits_eq u 1
    rwa [show roundUnits u 1 = u from hu, Nat.div_one, Nat.one_mul] at heq
  generalize excessBits u = t at *
  generalize roundDiv u (2 ^ t) = q at *
  subst hdigits
  obtain ⟨j, rfl⟩ := Nat.exists_eq_add_of_le hk
  have hq : q ≤ 2 ^ 53 := Nat.le_of_mul_le_mul_right hle (Nat.two_pow_pos t)
  have hpow : 2 ^ (53 + (t + j)) = 2 ^ 53 * 2 ^ j * 2 ^ t := by
    rw [← Nat.pow_add, ← Nat.pow_add]
    congr 1
    omega
  rw [hpow] at h ⊢
  rw [Nat.pow_add 2 t j, Nat.mul_comm (2 ^ t), ← Nat.add_mul]
  apply Nat.mul_le_mul_right
  have hlt : q < 2 ^ 53 * 2 ^ j := Nat.lt_of_mul_lt_mul_right h
  -- the last place of `u` is either the place of the gap or below it
  cases j with
  | zero => omega
  | succ j =>
    have hpos := Nat.two_pow_pos j
    rw [Nat.pow_succ]
    omega

/-- The same in proportion: a power of two is above a smaller rounded magnitude by `2 ^ (-53)` of
itself at least. -/
theorem IsRounded.below {k : Nat} (hu : IsRounded u) (h : u < 2 ^ (53 + k)) :
    2 ^ 53 * u + 2 ^ (53 + k) ≤ 2 ^ 53 * 2 ^ (53 + k) := by
  have hgap := Nat.mul_le_mul_left (2 ^ 53) (hu.gap h)
  rwa [Nat.mul_add, ← Nat.pow_add] at hgap

/-- A number that is below one by `2 ^ (-53)` at least makes any large magnitude smaller. -/
theorem roundUnits_lt {r : Nat} (hd : 0 < d) (hr : 2 ^ 53 * r + d ≤ 2 ^ 53 * d) (hn : 2 ^ 53 ≤ n) :
    roundUnits (r * n) d < n := by
  by_contra hge
  have hlt : r * n / d < n := by
    have hrd : r < d := by omega
    exact Nat.div_lt_of_lt_mul (Nat.mul_lt_mul_of_pos_right hrd (by omega))
  have habove := (roundDiv_above (r * n) (d * 2 ^ excessBits (r * n / d))).1
  have hbits : 0 < excessBits (r * n / d) → 2 ^ 52 * 2 ^ excessBits (r * n / d) ≤ r * n / d :=
    le_of_excessBits
  rw [roundUnits_eq] at hge
  generalize excessBits (r * n / d) = t at *
  generalize roundDiv (r * n) (d * 2 ^ t) = q at *
  -- half a unit of the last place makes up for the gap only if that place is far above the quotient
  have hplace : n ≤ 2 ^ 52 * 2 ^ t := by
    have hgap : (2 ^ 53 * r + d) * n ≤ 2 ^ 53 * d * n := Nat.mul_le_mul_right n hr
    have hup : d * n ≤ d * (q * 2 ^ t) := Nat.mul_le_mul_left d (Nat.le_of_not_lt hge)
    have hscaled : d * n ≤ d * (2 ^ 52 * 2 ^ t) := by linarith
    exact Nat.le_of_mul_le_mul_left hscaled hd
  rcases Nat.eq_zero_or_pos t with rfl | ht
  · omega
  · have hquot := hbits ht
    omega

end Decimal

end CardRules
