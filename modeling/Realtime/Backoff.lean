import Mathlib

/-! Exponential delays with a cap and with a random factor around one. -/

namespace Realtime.Backoff

variable {K : Type*} [Field K] [LinearOrder K] [IsStrictOrderedRing K]

def capped (maximum base : K) (n : Nat) : K := min maximum (base * 2 ^ n)

omit [IsStrictOrderedRing K] in
theorem capped_le (maximum base : K) (n : Nat) : capped maximum base n ≤ maximum := min_le_left _ _

theorem capped_nonneg {maximum base : K} (hm : 0 ≤ maximum) (hb : 0 ≤ base) (n : Nat) :
    0 ≤ capped maximum base n := by
  have hpow : 0 ≤ base * 2 ^ n := by positivity
  exact le_min hm hpow

variable {base ratio random : K}

theorem capped_mono (maximum : K) (hb : 0 ≤ base) {n m : Nat} (h : n ≤ m) :
    capped maximum base n ≤ capped maximum base m := by
  have hpow : (2 : K) ^ n ≤ 2 ^ m := pow_le_pow_right₀ one_le_two h
  exact min_le_min le_rfl (mul_le_mul_of_nonneg_left hpow hb)

/-- A factor between `1 - ratio` and `1 + ratio`. -/
def jitterFactor (ratio random : K) : K := 1 + (random * 2 - 1) * ratio

/-- Over all random numbers the product comes as near to `delay * (1 + ratio)` as one likes. -/
theorem mul_jitterFactor_lt_iff {delay bound : K} (h0 : 0 ≤ ratio) (hd : 0 ≤ delay)
    (hb : delay < bound) :
    (∀ random, 0 ≤ random → random < 1 → delay * jitterFactor ratio random < bound) ↔
      delay * (1 + ratio) ≤ bound := by
  have hsp : ∀ random, delay * jitterFactor ratio random =
      delay * (1 - ratio) + random * (2 * (delay * ratio)) := fun random => by
    unfold jitterFactor
    ring
  have hw : 0 ≤ delay * ratio := mul_nonneg hd h0
  constructor
  · intro h
    by_contra hgt
    have hpos : 0 < 2 * (delay * ratio) := by linarith
    -- the random number at which the product is the bound
    have hat := h ((bound - delay * (1 - ratio)) / (2 * (delay * ratio)))
      (div_nonneg (by linarith) hpos.le) ((div_lt_one hpos).mpr (by linarith))
    rw [hsp, div_mul_cancel₀ _ hpos.ne'] at hat
    linarith
  · intro h random _ hr
    rw [hsp]
    rcases hw.eq_or_lt with hze | hpos
    · rw [← hze]
      linarith
    · have := mul_lt_mul_of_pos_right hr (show 0 < 2 * (delay * ratio) by linarith)
      linarith

omit [LinearOrder K] [IsStrictOrderedRing K] in
@[simp] theorem jitterFactor_zero (random : K) : jitterFactor 0 random = 1 := by
  simp [jitterFactor]

end Realtime.Backoff
