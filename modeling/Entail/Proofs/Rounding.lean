/-
Entail/Proofs/Rounding.lean

Rounding to a binary format stays close, and ends where the format does.

A quotient is rounded on the grid of the multiples of 2^q, where q is the least exponent of the
format, or great enough for the quotient to have no more bits than the format keeps
(`Format.exists_rounded`).  So the error is half a step of the grid, which is small against the
quotient or against the least step of all (`Format.round_close`).  There is a result unless the
quotient passes the middle between the greatest number of the format and the number after it
(`Format.isSome_round`, `Format.round_eq_none`).
-/
import Entail.Decimal.Binary
import Mathlib.Algebra.Order.Field.Basic
import Mathlib.Algebra.Order.Field.Power
import Mathlib.Data.Rat.Cast.Order
import Mathlib.Tactic.FieldSimp
import Mathlib.Tactic.Linarith
import Mathlib.Tactic.Positivity
import Mathlib.Tactic.Push
import Mathlib.Tactic.Ring

namespace Entail.Decimal

/-! ### Values -/

/-- A power with an exponent of either sign, as a quotient. -/
theorem zpow_eq_div (b : ℚ) (q : ℤ) : b ^ q = b ^ q.toNat / b ^ (-q).toNat := by
  obtain ⟨n, rfl | rfl⟩ := q.eq_nat_or_neg <;> simp

/-- The number that a binary number is. -/
def Binary.value (x : Binary) : ℚ := x.significand * 2 ^ x.exponent

theorem Binary.value_nonneg (x : Binary) : 0 ≤ x.value :=
  mul_nonneg (Nat.cast_nonneg _) (by positivity)

theorem Binary.den_pos (x : Binary) : 0 < x.den := Nat.pow_pos Nat.two_pos

theorem Binary.num_div_den (x : Binary) : (x.num : ℚ) / x.den = x.value := by
  have hnum : (x.num : ℚ) = x.significand * 2 ^ x.exponent.toNat := by simp [num]
  have hden : (x.den : ℚ) = 2 ^ (-x.exponent).toNat := by simp [den]
  rw [hnum, hden, value, zpow_eq_div, mul_div_assoc]

/-! ### Rounding to a natural number -/

section

variable (num : ℕ) {den : ℕ} (hden : 0 < den)

include hden

/-- The nearest natural number is half a unit away at most. -/
theorem roundQuotient_close : |(roundQuotient num den : ℚ) - num / den| ≤ 1 / 2 := by
  have hsplit : den * (num / den) + num % den = num := Nat.div_add_mod num den
  have hlt : num % den < den := Nat.mod_lt _ hden
  have hnat : 2 * num ≤ (2 * roundQuotient num den + 1) * den ∧
      2 * roundQuotient num den * den ≤ 2 * num + den := by
    unfold roundQuotient
    generalize num / den = q at *
    generalize num % den = r at *
    subst hsplit
    simp only
    split
    · next h => rw [Nat.compare_eq_lt] at h; constructor <;> nlinarith
    · next h => rw [Nat.compare_eq_gt] at h; constructor <;> nlinarith
    · next h =>
      rw [Nat.compare_eq_eq] at h
      split <;> constructor <;> nlinarith
  have hpos : (0 : ℚ) < den := Nat.cast_pos.mpr hden
  have hlow : (2 * num : ℚ) ≤ (2 * roundQuotient num den + 1) * den := by exact_mod_cast hnat.1
  have hhigh : (2 * roundQuotient num den * den : ℚ) ≤ 2 * num + den := by exact_mod_cast hnat.2
  have hnum : (num : ℚ) = num / den * den := (div_mul_cancel₀ _ hpos.ne').symm
  generalize (num : ℚ) / den = v at *
  rw [hnum] at hlow hhigh
  have hbelow : 2 * v ≤ 2 * roundQuotient num den + 1 :=
    le_of_mul_le_mul_right (by linarith) hpos
  have habove : 2 * (roundQuotient num den : ℚ) ≤ 2 * v + 1 :=
    le_of_mul_le_mul_right (by linarith) hpos
  exact abs_le.mpr ⟨by linarith, by linarith⟩

/-- A power of two is below a quotient if it is after both are freed of their denominators. -/
theorem pow_le_iff (k : ℤ) :
    den * Nat.pow 2 k.toNat ≤ num * Nat.pow 2 (-k).toNat ↔ (2 : ℚ) ^ k ≤ num / den := by
  have hpos : (0 : ℚ) < den := Nat.cast_pos.mpr hden
  rw [zpow_eq_div, div_le_div_iff₀ (by positivity) hpos, mul_comm]
  exact_mod_cast Iff.rfl

theorem scaled_div_scaled (q : ℤ) :
    ((num * Nat.pow 2 (-q).toNat : ℕ) : ℚ) / ((den * Nat.pow 2 q.toNat : ℕ) : ℚ) =
      num / den / 2 ^ q := by
  have hpos : (0 : ℚ) < den := Nat.cast_pos.mpr hden
  rw [zpow_eq_div]
  push_cast [Nat.pow_eq]
  field_simp

/-- Rounding on the grid of the multiples of 2^`q` is half a step of it away at most. -/
theorem scaled_close (q : ℤ) :
    |(roundQuotient (num * Nat.pow 2 (-q).toNat) (den * Nat.pow 2 q.toNat) : ℚ) * 2 ^ q -
      num / den| ≤ 2 ^ q / 2 := by
  have hstep : (0 : ℚ) < 2 ^ q := by positivity
  have hdenq : 0 < den * Nat.pow 2 q.toNat := Nat.mul_pos hden (Nat.pow_pos Nat.two_pos)
  have hclose := roundQuotient_close (num * Nat.pow 2 (-q).toNat) hdenq
  rw [scaled_div_scaled num hden q] at hclose
  calc |(roundQuotient (num * Nat.pow 2 (-q).toNat) (den * Nat.pow 2 q.toNat) : ℚ) * 2 ^ q -
        num / den|
      = |(roundQuotient (num * Nat.pow 2 (-q).toNat) (den * Nat.pow 2 q.toNat) : ℚ) -
          num / den / 2 ^ q| * 2 ^ q := by
        rw [← abs_of_pos hstep, ← abs_mul, abs_of_pos hstep, sub_mul,
          div_mul_cancel₀ _ hstep.ne']
    _ ≤ 1 / 2 * 2 ^ q := mul_le_mul_of_nonneg_right hclose hstep.le
    _ = 2 ^ q / 2 := by ring

/-- The magnitude of a quotient is the power of two at or below it. -/
theorem magnitude_spec (hnum : 0 < num) :
    (2 : ℚ) ^ magnitude num den ≤ num / den ∧ (num / den : ℚ) < 2 ^ (magnitude num den + 1) := by
  have hpos : (0 : ℚ) < den := Nat.cast_pos.mpr hden
  have hnumlow : (2 : ℚ) ^ num.log2 ≤ num := by exact_mod_cast Nat.log2_self_le hnum.ne'
  have hnumhigh : (num : ℚ) < 2 ^ (num.log2 + 1) := by exact_mod_cast Nat.lt_log2_self
  have hdenlow : (2 : ℚ) ^ den.log2 ≤ den := by exact_mod_cast Nat.log2_self_le hden.ne'
  have hdenhigh : (den : ℚ) < 2 ^ (den.log2 + 1) := by exact_mod_cast Nat.lt_log2_self
  set k : ℤ := (num.log2 : ℤ) - den.log2 with hk
  have hstep : (2 : ℚ) ^ k = 2 ^ num.log2 / 2 ^ den.log2 := by
    rw [hk, zpow_sub₀ two_ne_zero, zpow_natCast, zpow_natCast]
  -- The logarithms leave two powers to choose from, and the comparison chooses.
  have hhigh : (num / den : ℚ) < 2 ^ (k + 1) := by
    rw [zpow_add_one₀ two_ne_zero, hstep, div_mul_eq_mul_div, ← pow_succ]
    exact div_lt_div₀ hnumhigh hdenlow (by positivity) (by positivity)
  have hlow : (2 : ℚ) ^ (k - 1) ≤ num / den := by
    rw [zpow_sub_one₀ two_ne_zero, hstep, ← div_eq_mul_inv, div_div, ← pow_succ]
    exact div_le_div₀ (by positivity) hnumlow hpos hdenhigh.le
  unfold magnitude
  simp only [← hk, pow_le_iff num hden]
  split
  · next h => exact ⟨h, hhigh⟩
  · next h =>
    rw [sub_add_cancel]
    exact ⟨hlow, not_le.mp h⟩

end

/-! ### Rounding to a format -/

namespace Format

/-- What rounding makes of a number before it asks whether the exponent is in reach: a multiple of
2^`q`, written with the exponent `q` or, if that would take one bit too many, with the next one. -/
structure Rounded (f : Format) (v : ℚ) (q : ℤ) (x : Binary) : Prop where
  least_le : f.least ≤ q
  lt : v < 2 ^ f.precision * 2 ^ q
  fine : q = f.least ∨ 2 ^ f.precision * 2 ^ q ≤ 2 * v
  close : |x.value - v| ≤ 2 ^ q / 2
  shape : x.exponent = q ∧ x.value ≤ (2 ^ f.precision - 1) * 2 ^ q ∨
    x.exponent = q + 1 ∧ x.value = 2 ^ f.precision * 2 ^ q

variable {f : Format} {num den : ℕ} {x : Binary}

/-- The exponent of the grid: the quotient has no more bits on it than the format keeps, and no
fewer unless it is the least exponent. -/
theorem grid_spec (f : Format) (hnum : 0 < num) (hden : 0 < den) {q : ℤ}
    (hq : q = max f.least (magnitude num den + 1 - f.precision)) :
    (num / den : ℚ) < 2 ^ f.precision * 2 ^ q ∧
      (q = f.least ∨ (2 : ℚ) ^ f.precision * 2 ^ q ≤ 2 * (num / den)) := by
  obtain ⟨hlow, hhigh⟩ := magnitude_spec num hden hnum
  have hpow (k : ℤ) : (2 : ℚ) ^ f.precision * 2 ^ k = 2 ^ (f.precision + k) := by
    rw [zpow_add₀ two_ne_zero, zpow_natCast]
  rw [hpow]
  refine ⟨hhigh.trans_le (zpow_le_zpow_right₀ one_le_two (by omega)), ?_⟩
  rcases max_choice f.least (magnitude num den + 1 - f.precision) with h | h
  · exact .inl (hq.trans h)
  · refine .inr ?_
    rw [hq, h, add_sub_cancel, zpow_add_one₀ two_ne_zero, mul_comm]
    exact mul_le_mul_of_nonneg_left hlow zero_le_two

/-- One bit too many: half the significand with the next exponent is the same number. -/
theorem value_halved (hp : 0 < f.precision) (q : ℤ) :
    Binary.value ⟨Nat.pow 2 f.precision / 2, q + 1⟩ = 2 ^ f.precision * 2 ^ q := by
  obtain ⟨p, hp⟩ := Nat.exists_eq_add_of_lt hp
  have hhalf : Nat.pow 2 f.precision / 2 = 2 ^ p := by
    rw [hp, zero_add]
    exact Nat.mul_div_cancel _ Nat.two_pos
  rw [Binary.value, hhalf, zpow_add_one₀ two_ne_zero, hp]
  push_cast
  ring

theorem exists_rounded (hp : 0 < f.precision) (hnum : 0 < num) (hden : 0 < den) :
    ∃ q x, f.Rounded (num / den) q x ∧
      f.round num den = if x.exponent ≤ f.greatest then some x else none := by
  set q : ℤ := max f.least (magnitude num den + 1 - f.precision) with hq
  set m := roundQuotient (num * Nat.pow 2 (-q).toNat) (den * Nat.pow 2 q.toNat) with hm
  obtain ⟨hlt, hfine⟩ := grid_spec f hnum hden hq
  have hclose : |(m : ℚ) * 2 ^ q - num / den| ≤ 2 ^ q / 2 := scaled_close num hden q
  have hround : f.round num den =
      let x : Binary := if m = Nat.pow 2 f.precision then ⟨m / 2, q + 1⟩ else ⟨m, q⟩
      if x.exponent ≤ f.greatest then some x else none := if_neg hnum.ne'
  by_cases hfull : m = Nat.pow 2 f.precision
  · have hvalue := value_halved hp q
    rw [← hfull] at hvalue
    have hmcast : (m : ℚ) = 2 ^ f.precision := by rw [hfull]; push_cast [Nat.pow_eq]; rfl
    refine ⟨q, ⟨m / 2, q + 1⟩, ⟨le_max_left _ _, hlt, hfine, ?_, .inr ⟨rfl, hvalue⟩⟩, ?_⟩
    · rw [hvalue, ← hmcast]
      exact hclose
    · rw [hround, if_pos hfull]
  · refine ⟨q, ⟨m, q⟩, ⟨le_max_left _ _, hlt, hfine, hclose, .inl ⟨rfl, ?_⟩⟩, ?_⟩
    · have hstep : (0 : ℚ) < 2 ^ q := by positivity
      have hmle : (m : ℚ) * 2 ^ q < (2 ^ f.precision + 1) * 2 ^ q := by
        have := (abs_le.mp hclose).2
        linarith
      have hmlt : m + 1 ≤ 2 ^ f.precision := by
        have : m < 2 ^ f.precision + 1 := by exact_mod_cast lt_of_mul_lt_mul_right hmle hstep.le
        exact lt_of_le_of_ne (Nat.lt_succ_iff.mp this) hfull
      refine mul_le_mul_of_nonneg_right ?_ hstep.le
      rw [le_sub_iff_add_le]
      exact_mod_cast hmlt
    · rw [hround, if_neg hfull]

/-- Rounding changes a number by no more than its bits allow, or by half the least step. -/
theorem round_close (hp : 0 < f.precision) (hnum : 0 < num) (hden : 0 < den)
    (h : f.round num den = some x) :
    |x.value - num / den| ≤ num / den / 2 ^ f.precision + 2 ^ f.least / 2 := by
  obtain ⟨q, y, hy, hround⟩ := exists_rounded hp hnum hden
  obtain rfl : y = x := by
    rw [hround] at h
    split at h
    · exact Option.some.inj h
    · cases h
  have hpos : (0 : ℚ) ≤ num / den := by positivity
  refine hy.close.trans ?_
  rcases hy.fine with rfl | hfine
  · exact le_add_of_nonneg_left (by positivity)
  · refine le_add_of_le_of_nonneg ?_ (by positivity)
    rw [div_le_div_iff₀ zero_lt_two (by positivity)]
    linarith

/-- The middle between the greatest number of a format and the number that would come next. -/
def top (f : Format) : ℚ := (2 ^ f.precision - 1 / 2) * 2 ^ f.greatest

theorem isSome_round (hp : 0 < f.precision) (hle : f.least ≤ f.greatest) (hden : 0 < den)
    (h : (num / den : ℚ) < f.top) : (f.round num den).isSome = true := by
  rcases Nat.eq_zero_or_pos num with rfl | hnum
  · rfl
  obtain ⟨q, x, hx, hround⟩ := exists_rounded hp hnum hden
  have hbits : (1 : ℚ) ≤ 2 ^ f.precision := one_le_pow₀ one_le_two
  have hq : q ≤ f.greatest := by
    rcases hx.fine with rfl | hfine
    · exact hle
    · have hlt : (2 : ℚ) ^ f.precision * 2 ^ q < 2 ^ f.precision * 2 ^ (f.greatest + 1) := by
        rw [zpow_add_one₀ two_ne_zero]
        have hstep : (0 : ℚ) < 2 ^ f.greatest := by positivity
        rw [top] at h
        linarith
      have hpow := lt_of_mul_lt_mul_left hlt (by positivity)
      exact Int.lt_add_one_iff.mp ((zpow_lt_zpow_iff_right₀ one_lt_two).mp hpow)
  have hexponent : x.exponent ≤ f.greatest := by
    rcases hx.shape with ⟨he, -⟩ | ⟨he, hvalue⟩
    · rwa [he]
    · rcases hq.lt_or_eq with hlt | rfl
      · rwa [he]
      · have hclose := (abs_le.mp hx.close).2
        rw [top] at h
        linarith
  rw [hround, if_pos hexponent]
  rfl

theorem round_eq_none (hp : 0 < f.precision) (hden : 0 < den) (h : f.top < (num / den : ℚ)) :
    f.round num den = none := by
  have hbits : (1 : ℚ) ≤ 2 ^ f.precision := one_le_pow₀ one_le_two
  have hnum : 0 < num := by
    refine Nat.pos_of_ne_zero fun hzero => ?_
    have htop : 0 ≤ f.top := mul_nonneg (by linarith) (by positivity)
    rw [hzero, Nat.cast_zero, zero_div] at h
    exact absurd h (not_lt.mpr htop)
  obtain ⟨q, x, hx, hround⟩ := exists_rounded hp hnum hden
  rw [hround, if_neg]
  intro hexponent
  -- Within reach no number is more than half a step beyond the greatest one.
  refine absurd h (not_lt.mpr ?_)
  rw [top]
  rcases hx.shape with ⟨he, hvalue⟩ | ⟨he, -⟩
  · have hstep : (2 : ℚ) ^ q ≤ 2 ^ f.greatest := zpow_le_zpow_right₀ one_le_two (he ▸ hexponent)
    have hclose := (abs_le.mp hx.close).1
    have hmono := mul_le_mul_of_nonneg_left hstep (by linarith : (0 : ℚ) ≤ 2 ^ f.precision - 1 / 2)
    linarith
  · have hstep : (2 : ℚ) ^ (q + 1) ≤ 2 ^ f.greatest :=
      zpow_le_zpow_right₀ one_le_two (he ▸ hexponent)
    rw [zpow_add_one₀ two_ne_zero] at hstep
    have hmono := mul_le_mul_of_nonneg_left hstep (by linarith : (0 : ℚ) ≤ 2 ^ f.precision / 2)
    have hlt := hx.lt
    have hwide : (0 : ℚ) ≤ (2 ^ f.precision / 2 - 1 / 2) * 2 ^ f.greatest :=
      mul_nonneg (by linarith) (by positivity)
    linarith

end Format

end Entail.Decimal
