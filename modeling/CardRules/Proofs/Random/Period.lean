import CardRules.Proofs.Random.Draws
import Mathlib.Data.Nat.Factorization.Basic
import Mathlib.Data.Nat.ModEq
import Mathlib.Tactic.Ring

/-!
# The period of seeded sources

The states of a generator are those of a counter that goes on by an odd number, so it comes to every
state once in `2 ^ 32` steps (`Generator.after_eq_iff`, `Generator.reaches`). The words drawn repeat
with the states and with no shorter period: a shorter one would make half the words have it too, and
adding `2 ^ 31` to a state changes its word for some states (`Generator.draws_periodic_iff`). A word
is what the scrambling gives in unbounded arithmetic (`Generator.scramble_toNat`).
-/

namespace CardRules

open Decimal

namespace Generator

/-- The generator after a number of steps. -/
def after (g : Generator) (k : Nat) : Generator := advance^[k] g

theorem after_succ (g : Generator) (k : Nat) : g.after (k + 1) = (g.after k).advance :=
  Function.iterate_succ_apply' _ k g

theorem ext_toNat {g g' : Generator} (h : g.state.toNat = g'.state.toNat) : g = g' := by
  obtain ⟨s⟩ := g
  obtain ⟨s'⟩ := g'
  exact congrArg Generator.mk (UInt32.toNat_inj.1 h)

/-! ## States -/

variable (g : Generator)

theorem toNat_advance : g.advance.state.toNat = (g.state.toNat + 0x6D2B79F5) % 2 ^ 32 :=
  UInt32.toNat_add g.state increment

theorem toNat_after (k : Nat) :
    (g.after k).state.toNat = (g.state.toNat + k * 0x6D2B79F5) % 2 ^ 32 := by
  induction k with
  | zero =>
    have hlt := g.state.toNat_lt
    show g.state.toNat = _
    omega
  | succ k ih =>
    rw [after_succ, toNat_advance, ih]
    omega

/-- Two numbers of steps lead to one state just if they differ by a multiple of `2 ^ 32`. -/
theorem after_eq_iff (k m : Nat) : g.after k = g.after m ↔ k ≡ m [MOD 2 ^ 32] := by
  constructor
  · intro h
    have hstates : g.state.toNat + k * 0x6D2B79F5 ≡ g.state.toNat + m * 0x6D2B79F5 [MOD 2 ^ 32] := by
      have htoNat := congrArg (fun g => g.state.toNat) h
      rwa [toNat_after, toNat_after] at htoNat
    have hodd : Nat.gcd (2 ^ 32) 0x6D2B79F5 = 1 := by decide
    exact (hstates.add_left_cancel' _).cancel_right_of_coprime hodd
  · intro h
    apply ext_toNat
    rw [toNat_after, toNat_after]
    exact (h.mul_right _).add_left _

/-- Every state is reached, and once in any `2 ^ 32` steps. -/
theorem reaches (s : UInt32) (m : Nat) :
    ∃! k, (m ≤ k ∧ k < m + 2 ^ 32) ∧ (g.after k).state = s := by
  have hs := s.toNat_lt
  have hg := g.state.toNat_lt
  have hreached {k : Nat} (hk : (g.state.toNat + k * 0x6D2B79F5) % 2 ^ 32 = s.toNat) :
      (g.after k).state = s := by
    rw [← UInt32.toNat_inj, toNat_after, hk]
  -- the way to the state, times the inverse of what one step adds
  obtain ⟨k₀, hk₀⟩ : ∃ k, k = (s.toNat + 2 ^ 32 - g.state.toNat) * 0xDC58AA5D := ⟨_, rfl⟩
  have hthere : (g.after (m + (k₀ + 2 ^ 32 - m % 2 ^ 32) % 2 ^ 32)).state = s :=
    hreached (by omega)
  refine ⟨_, ⟨⟨by omega, by omega⟩, hthere⟩, ?_⟩
  rintro k ⟨⟨hle, hlt⟩, hk⟩
  have hsame : g.after k = g.after (m + (k₀ + 2 ^ 32 - m % 2 ^ 32) % 2 ^ 32) :=
    ext_toNat (by rw [hk, hthere])
  have hcongr : k % 2 ^ 32 = (m + (k₀ + 2 ^ 32 - m % 2 ^ 32) % 2 ^ 32) % 2 ^ 32 :=
    (g.after_eq_iff _ _).1 hsame
  omega

/-! ## Words and draws -/

/-- The scrambled form of a state in unbounded arithmetic: the products and the sum are cut to 32
bits, and so is what comes out. -/
def scrambled (s : Nat) : Nat :=
  let t := (s ^^^ (s >>> 15)) * (1 ||| s) % 2 ^ 32
  let t := (t + (t ^^^ (t >>> 7)) * (61 ||| t) % 2 ^ 32) % 2 ^ 32 ^^^ t
  (t ^^^ (t >>> 14)) % 2 ^ 32

theorem scramble_toNat (s : UInt32) : (scramble s).toNat = scrambled s.toNat := by
  have hcut : (scramble s).toNat % 2 ^ 32 = (scramble s).toNat :=
    Nat.mod_eq_of_lt (scramble s).toNat_lt
  rw [← hcut, scramble, scrambled]
  simp [UInt32.toNat_xor, UInt32.toNat_or, UInt32.toNat_mul, UInt32.toNat_add,
    UInt32.toNat_shiftRight]

theorem fraction_inj {v w : UInt32} (h : fraction v = fraction w) : v = w := by
  rw [fraction_eq, fraction_eq] at h
  have hunits : v.toNat * unitsPerStep = w.toNat * unitsPerStep := (Binary64.finite.inj h).2
  exact UInt32.toNat_inj.1 (Nat.eq_of_mul_eq_mul_right unitsPerStep_pos hunits)

theorem source_after (k : Nat) : (Source.seeded g).after k = .seeded (g.after k) := by
  induction k with
  | zero => rfl
  | succ k ih =>
    rw [Source.after_succ, ih, after_succ]
    rfl

theorem draw_eq (k : Nat) :
    (Source.seeded g).draw k = .float (fraction (g.after (k + 1)).word) := by
  rw [Source.draw, source_after, after_succ]
  rfl

theorem draw_eq_iff {k m : Nat} : (Source.seeded g).draw k = (Source.seeded g).draw m ↔
    (g.after (k + 1)).word = (g.after (m + 1)).word := by
  rw [draw_eq, draw_eq]
  constructor
  · exact fun h => fraction_inj (Number.float.inj h)
  · intro h
    rw [h]

/-! ## The period -/

/-- The state half a period from zero. -/
def halfway : UInt32 := 0x80000000

theorem toNat_halfway : halfway.toNat = 2 ^ 31 := by decide

theorem scramble_halfway : scramble halfway ≠ scramble 0 := by decide

/-- The draws repeat after just the multiples of `2 ^ 32`. -/
theorem draws_periodic_iff (p : Nat) :
    (∀ k, (Source.seeded g).draw (k + p) = (Source.seeded g).draw k) ↔ 2 ^ 32 ∣ p := by
  constructor
  · intro hperiod
    by_contra hp
    have hmultiple (a k : Nat) :
        (Source.seeded g).draw (k + a * p) = (Source.seeded g).draw k := by
      induction a with
      | zero => rw [Nat.zero_mul, Nat.add_zero]
      | succ a ih => rw [Nat.succ_mul, ← Nat.add_assoc, hperiod, ih]
    -- a multiple of the period is an odd multiple of `2 ^ 31`
    have hne : p ≠ 0 := fun hzero => hp (hzero ▸ Nat.dvd_zero _)
    obtain ⟨e, q, ⟨r, hq⟩, hpq⟩ := Nat.exists_eq_two_pow_mul_odd hne
    have he : e < 32 := by
      by_contra hge
      exact hp (hpq ▸ (Nat.pow_dvd_pow 2 (by omega)).mul_right q)
    have hhalf : 2 ^ (31 - e) * p = 2 ^ 31 * q := by
      rw [hpq, ← Nat.mul_assoc, ← Nat.pow_add]
      congr 2
      omega
    -- which takes the state zero to the state `2 ^ 31`
    obtain ⟨k, ⟨⟨hk, -⟩, hzero⟩, -⟩ := g.reaches 0 1
    obtain ⟨k, rfl⟩ := Nat.exists_eq_add_of_le' hk
    have hstate : (g.after (k + 2 ^ (31 - e) * p + 1)).state = halfway := by
      apply UInt32.toNat_inj.1
      have hstart := congrArg UInt32.toNat hzero
      rw [toNat_after, UInt32.toNat_zero] at hstart
      have hodd : g.state.toNat + (k + 2 ^ 31 * (2 * r + 1) + 1) * 0x6D2B79F5 =
          g.state.toNat + (k + 1) * 0x6D2B79F5 + 2 ^ 31 +
            2 ^ 32 * (r * 0x6D2B79F5 + 0x3695BCFA) := by
        ring
      rw [toNat_after, toNat_halfway, hhalf, hq, hodd]
      omega
    have hwords := (g.draw_eq_iff).1 (hmultiple (2 ^ (31 - e)) k)
    rw [word, word, hstate, hzero] at hwords
    exact scramble_halfway hwords
  · intro hp k
    have hsame : g.after (k + p + 1) = g.after (k + 1) := by
      refine (g.after_eq_iff _ _).2 ?_
      rw [Nat.add_right_comm]
      exact (Nat.modEq_zero_iff_dvd.2 hp).add_left (k + 1)
    rw [draw_eq, hsame, ← draw_eq]

end Generator

/-- What a generator can be started from: texts, whole numbers, truth values in their place, and
finite numbers. -/
inductive Value.IsSeed : Value → Prop
  | text (s : String) : Value.IsSeed (.text s)
  | bool (b : Bool) : Value.IsSeed (.bool b)
  | whole (i : Int) : Value.IsSeed (.int i)
  | finite (s : Bool) (u : Nat) : Value.IsSeed (.float (.finite s u))

theorem Value.IsSeed.ofSeed? {seed : Value} (h : seed.IsSeed) :
    ∃ g, Generator.ofSeed? seed = .ok g := by
  cases h with
  | text s => exact ⟨_, rfl⟩
  | bool b => exact ⟨_, rfl⟩
  | whole i => exact ⟨_, rfl⟩
  | finite s u => exact ⟨_, rfl⟩

/-- Every seed starts a generator whose states are those of a counter by an odd number: two of them
are one just if a multiple of `2 ^ 32` steps lies between them, any `2 ^ 32` steps come to each
state once, and the draws repeat after a multiple of `2 ^ 32` and after nothing else. Every draw is
exactly a 32-bit word, the scrambled state, over `2 ^ 32`. -/
theorem seeded_full_period {seed : Value} (h : seed.IsSeed) :
    ∃ g, Generator.ofSeed? seed = .ok g ∧
      (∀ k, (Source.seeded g).after k = .seeded (g.after k) ∧
        (g.after k).state.toNat = (g.state.toNat + k * 0x6D2B79F5) % 2 ^ 32) ∧
      (∀ k m, g.after k = g.after m ↔ k ≡ m [MOD 2 ^ 32]) ∧
      (∀ s m, ∃! k, (m ≤ k ∧ k < m + 2 ^ 32) ∧ (g.after k).state = s) ∧
      (∀ p, (∀ k, (Source.seeded g).draw (k + p) = (Source.seeded g).draw k) ↔ 2 ^ 32 ∣ p) ∧
      ∀ k, ∃ w u, w = Generator.scrambled (g.after (k + 1)).state.toNat ∧ w < 2 ^ 32 ∧
        u * 2 ^ 32 = w * unitsPerOne ∧ (Source.seeded g).draw k = .float (.finite false u) := by
  obtain ⟨g, hg⟩ := h.ofSeed?
  refine ⟨g, hg, fun k => ⟨g.source_after k, g.toNat_after k⟩, g.after_eq_iff, g.reaches,
    g.draws_periodic_iff, fun k => ?_⟩
  refine ⟨(g.after (k + 1)).word.toNat, (g.after (k + 1)).word.toNat * unitsPerStep,
    Generator.scramble_toNat _, UInt32.toNat_lt _, ?_, ?_⟩
  · rw [unitsPerOne_eq, Nat.mul_assoc, Nat.mul_comm unitsPerStep]
  · rw [g.draw_eq, Generator.fraction_eq]

/-- The text `abc` starts a generator in the state of its hash, which comes back to zero once in the
first `2 ^ 32` steps. -/
theorem seeded_full_period_sample :
    (Value.text "abc").IsSeed ∧
      ∃ g : Generator, Generator.ofSeed? (.text "abc") = .ok g ∧ g.state = 96354 ∧
        (∃! k, (0 ≤ k ∧ k < 0 + 2 ^ 32) ∧ (g.after k).state = 0) ∧
        ¬ ∀ k, (Source.seeded g).draw (k + 2 ^ 31) = (Source.seeded g).draw k := by
  have hseed : (Value.text "abc").IsSeed := .text "abc"
  obtain ⟨g, hg, -, -, hreaches, hperiod, -⟩ := seeded_full_period hseed
  have hstart : Generator.ofSeed? (.text "abc") = .ok ⟨96354⟩ := by decide
  cases hg.symm.trans hstart
  refine ⟨hseed, _, hstart, rfl, hreaches 0 0, ?_⟩
  rw [hperiod]
  decide

end CardRules
