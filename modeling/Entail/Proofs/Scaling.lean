/-
Entail/Proofs/Scaling.lean

Which decimals have a number of 64 bits.

A decimal is made from its digits, rounded, and a power of ten, rounded, whose product or quotient
is rounded again (`decimalOf`).  Each rounding changes a number by less than a 2^52th part, so a
decimal is too large for the format if it is by more than that, and is not if it is not by less
(`isSome_decimalOf`, `decimalOf_eq_none`).  Quotients are never too large: the digits are within 64
bits, and dividing by a power of ten keeps them there (`isSome_scale_of_neg`).
-/
import Entail.Json.Scan
import Entail.Proofs.Rounding

namespace Entail

open Decimal (Binary Format)

/-! ### The format of 64 bits -/

namespace Decimal

theorem top_double : Format.double.top = (2 ^ 53 - 1 / 2) * 2 ^ 971 := by
  show (2 ^ 53 - 1 / 2) * (2 : ℚ) ^ (971 : ℤ) = _
  rw [zpow_ofNat]

theorem two_pow_lt_top : (2 : ℚ) ^ 65 < Format.double.top := by
  have hpow : (2 : ℚ) ^ 65 ≤ 2 ^ 971 := pow_le_pow_right₀ one_le_two (by decide)
  rw [top_double]
  generalize (2 : ℚ) ^ 971 = b at *
  linarith

/-- The middle behind the greatest number lies between two decimals of four digits. -/
theorem lt_top_double : (1797 * 10 ^ 305 : ℚ) * (1 + 1 / 10 ^ 10) < Format.double.top := by
  have hcast (a b : ℕ) (h : 1797 * a * (10 ^ 10 + 1) * 2 < 18014398509481983 * b * 10 ^ 10) :
      (1797 * a : ℚ) * (1 + 1 / 10 ^ 10) < (2 ^ 53 - 1 / 2) * b := by
    have : (1797 * a * (10 ^ 10 + 1) * 2 : ℚ) < 18014398509481983 * b * 10 ^ 10 := by
      exact_mod_cast h
    linarith
  have h := hcast (10 ^ 305) (2 ^ 971) (by decide +kernel)
  rw [Nat.cast_pow, Nat.cast_pow, Nat.cast_ofNat, Nat.cast_ofNat] at h
  rw [top_double]
  exact h

theorem top_double_lt : Format.double.top < (1798 * 10 ^ 305 : ℚ) * (1 - 1 / 10 ^ 10) := by
  have hcast (a b : ℕ) (h : 18014398509481983 * b * 10 ^ 10 < 1798 * a * 9999999999 * 2) :
      ((2 ^ 53 - 1 / 2) * b : ℚ) < 1798 * a * (1 - 1 / 10 ^ 10) := by
    have : (18014398509481983 * b * 10 ^ 10 : ℚ) < 1798 * a * 9999999999 * 2 := by
      exact_mod_cast h
    linarith
  have h := hcast (10 ^ 305) (2 ^ 971) (by decide +kernel)
  rw [Nat.cast_pow, Nat.cast_pow, Nat.cast_ofNat, Nat.cast_ofNat] at h
  rw [top_double]
  exact h

theorem top_lt_pow : Format.double.top < 10 ^ (309 : ℤ) := by
  have hfour (a : ℚ) (ha : 0 < a) : 1798 * a * (1 - 1 / 10 ^ 10) ≤ 10 ^ 4 * a := by linarith
  calc Format.double.top < 1798 * 10 ^ 305 * (1 - 1 / 10 ^ 10) := top_double_lt
    _ ≤ 10 ^ 4 * 10 ^ 305 := hfour _ (by positivity)
    _ = 10 ^ (309 : ℤ) := by rw [← pow_add]; rfl

section

variable {num den : ℕ} {x y : Binary}

/-- A number that is not small is changed by less than a 2^52th part of it. -/
theorem round_double_close (hden : 0 < den) (hone : (1 : ℚ) ≤ num / den)
    (h : Format.double.round num den = some x) :
    |x.value - num / den| ≤ num / den / 2 ^ 52 := by
  have hnum : 0 < num := by
    refine Nat.pos_of_ne_zero fun hzero => ?_
    rw [hzero, Nat.cast_zero, zero_div] at hone
    exact absurd hone (not_le.mpr one_pos)
  have hleast : (2 : ℚ) ^ Format.double.least ≤ 2 ^ (-52 : ℤ) :=
    zpow_le_zpow_right₀ one_le_two (by decide)
  have hstep : (2 : ℚ) ^ (-52 : ℤ) = 1 / 2 ^ 52 := by rw [zpow_neg, zpow_ofNat, one_div]
  have hbits : Format.double.precision = 53 := rfl
  have hclose := Format.round_close (by decide) hnum hden h
  rw [hbits] at hclose
  rw [hstep] at hleast
  linarith

/-- Digits within 64 bits have a number, close to them. -/
theorem exists_round_natural {n : ℕ} (hpos : 0 < n) (hlt : (n : ℚ) < Format.double.top) :
    ∃ x, Format.double.round n 1 = some x ∧ |x.value - n| ≤ n / 2 ^ 52 := by
  have hn : (n / (1 : ℕ) : ℚ) = n := by rw [Nat.cast_one, div_one]
  have hone : (1 : ℚ) ≤ n / (1 : ℕ) := hn.symm ▸ Nat.one_le_cast.mpr hpos
  obtain ⟨x, hx⟩ := Option.isSome_iff_exists.mp
    (Format.isSome_round (by decide) (by decide) one_pos (hn.trans_lt hlt))
  have hclose := round_double_close one_pos hone hx
  rw [hn] at hclose
  exact ⟨x, hx, hclose⟩

/-- Powers of ten have a number up to 10^308. -/
theorem exists_ofDecimal_one {e : ℤ} (hlow : 0 ≤ e) (hhigh : e ≤ 308) :
    ∃ x, Format.double.ofDecimal 1 e = some x ∧ |x.value - 10 ^ e| ≤ 10 ^ e / 2 ^ 52 := by
  obtain ⟨n, rfl⟩ := Int.eq_ofNat_of_zero_le hlow
  have hpow : ((10 ^ n : ℕ) : ℚ) = 10 ^ (n : ℤ) := by
    rw [zpow_natCast, Nat.cast_pow, Nat.cast_ofNat]
  have hlt : ((10 ^ n : ℕ) : ℚ) < Format.double.top := by
    have hthousand (a : ℚ) (ha : 0 < a) : 10 ^ 3 * a ≤ 1797 * a * (1 + 1 / 10 ^ 10) := by linarith
    calc ((10 ^ n : ℕ) : ℚ) ≤ 10 ^ (308 : ℤ) :=
          hpow ▸ zpow_le_zpow_right₀ (by norm_num) hhigh
      _ = 10 ^ 3 * 10 ^ 305 := by rw [← pow_add]; rfl
      _ ≤ 1797 * 10 ^ 305 * (1 + 1 / 10 ^ 10) := hthousand _ (by positivity)
      _ < Format.double.top := lt_top_double
  obtain ⟨x, hx, hclose⟩ := exists_round_natural (Nat.pow_pos (by decide)) hlt
  refine ⟨x, ?_, hpow ▸ hclose⟩
  have hden : (-(n : ℤ)).toNat = 0 := Int.toNat_eq_zero.mpr (by omega)
  rw [← hx, Format.ofDecimal, Nat.one_mul, hden, Int.toNat_natCast]
  rfl

theorem mul_quotient : ((x.num * y.num : ℕ) : ℚ) / (x.den * y.den : ℕ) = x.value * y.value := by
  rw [← x.num_div_den, ← y.num_div_den, Nat.cast_mul, Nat.cast_mul, div_mul_div_comm]

theorem div_quotient : ((x.num * y.den : ℕ) : ℚ) / (x.den * y.num : ℕ) = x.value / y.value := by
  rw [← x.num_div_den, ← y.num_div_den, Nat.cast_mul, Nat.cast_mul, div_div_div_eq]

theorem isSome_mul (h : x.value * y.value < Format.double.top) :
    (Format.double.mul x y).isSome = true :=
  Format.isSome_round (by decide) (by decide) (Nat.mul_pos x.den_pos y.den_pos)
    (mul_quotient.trans_lt h)

theorem mul_eq_none (h : Format.double.top < x.value * y.value) :
    Format.double.mul x y = none :=
  Format.round_eq_none (by decide) (Nat.mul_pos x.den_pos y.den_pos) (h.trans_eq mul_quotient.symm)

theorem num_pos (h : 0 < y.value) : 0 < y.num := by
  refine Nat.pos_of_ne_zero fun hzero => ?_
  rw [← y.num_div_den, hzero, Nat.cast_zero, zero_div] at h
  exact lt_irrefl _ h

theorem isSome_div (hy : 0 < y.value) (h : x.value / y.value < Format.double.top) :
    (Format.double.div x y).isSome = true :=
  Format.isSome_round (by decide) (by decide) (Nat.mul_pos x.den_pos (num_pos hy))
    (div_quotient.trans_lt h)

theorem value_div_le {z : Binary} (hy : 0 < y.value) (h : Format.double.div x y = some z) :
    z.value ≤ 2 * (x.value / y.value) + 1 := by
  have hden : 0 < x.den * y.num := Nat.mul_pos x.den_pos (num_pos hy)
  rcases Nat.eq_zero_or_pos (x.num * y.den) with hnum | hnum
  · obtain rfl : ⟨0, Format.double.least⟩ = z := by
      rw [Format.div, Format.round, if_pos hnum] at h
      exact Option.some.inj h
    have hquotient : 0 ≤ x.value / y.value := by
      rw [← div_quotient]
      positivity
    rw [Binary.value, Nat.cast_zero, zero_mul]
    linarith
  · have hleast : (2 : ℚ) ^ Format.double.least ≤ 1 :=
      zpow_le_one_of_nonpos₀ one_le_two (by decide)
    have hbits : Format.double.precision = 53 := rfl
    have hclose := (abs_le.mp (Format.round_close (by decide) hnum hden h)).2
    have hquotient : (0 : ℚ) ≤ (x.num * y.den : ℕ) / (x.den * y.num : ℕ) := by positivity
    rw [hbits] at hclose
    rw [← div_quotient]
    linarith

end

end Decimal

/-! ### Scaling by a power of ten -/

namespace Json

variable {x : Binary} {e : ℤ}

/-- A power of ten that is no unit divides by four at least, even rounded. -/
theorem four_le_of_close {v : ℚ} (hv : 10 ≤ v) (h : |x.value - v| ≤ v / 2 ^ 52) : 4 ≤ x.value := by
  have := (abs_le.mp h).1
  linarith

theorem quotient_le {p : Binary} (hx : x.value ≤ 2 ^ 65) (hp : 4 ≤ p.value) :
    x.value / p.value ≤ 2 ^ 63 := by
  refine (div_le_div₀ (by positivity) hx four_pos hp).trans ?_
  norm_num

/-- Downwards there is always a number, although zero may be the nearest. -/
theorem isSome_scale_of_neg (hx : x.value ≤ 2 ^ 65) (he : e < 0) : (scale x e).isSome = true := by
  induction hn : (-e).toNat using Nat.strong_induction_on generalizing x e with
  | _ n ih =>
    have htop : (2 : ℚ) ^ 63 < Decimal.Format.double.top :=
      lt_trans (by norm_num) Decimal.two_pow_lt_top
    have hten {k : ℤ} (hk : 1 ≤ k) : (10 : ℚ) ≤ 10 ^ k :=
      (zpow_one _).ge.trans (zpow_le_zpow_right₀ (by norm_num) hk)
    rw [scale]
    split_ifs
    · rfl
    · omega
    · omega
    · next hstep =>
      obtain ⟨p, hp, hclose⟩ := Decimal.exists_ofDecimal_one (e := -e) (by omega) (by omega)
      have hfour := four_le_of_close (hten (by omega)) hclose
      rw [hp]
      exact Decimal.isSome_div (by linarith) ((quotient_le hx hfour).trans_lt htop)
    · next hstep =>
      -- One step of 10^308, and the rest of the way from there.
      obtain ⟨p, hp, hclose⟩ := Decimal.exists_ofDecimal_one (e := 308) (by decide) (by decide)
      have hfour := four_le_of_close (hten (by decide)) hclose
      have hquotient := quotient_le hx hfour
      obtain ⟨y, hy⟩ := Option.isSome_iff_exists.mp
        (Decimal.isSome_div (x := x) (by linarith : 0 < p.value) (hquotient.trans_lt htop))
      have hsmall : y.value ≤ 2 ^ 65 := by
        have := Decimal.value_div_le (by linarith) hy
        linarith
      rw [hp]
      show ((Decimal.Format.double.div x p).bind fun y => scale y (e + 308)).isSome = true
      rw [hy]
      exact ih (-(e + 308)).toNat (by omega) hsmall (by omega) rfl

theorem isSome_decimalOf_eq (negative : Bool) {digits : ℕ}
    (hx : Decimal.Format.double.round digits 1 = some x) :
    (decimalOf negative digits e).isSome = (scale x e).isSome := by
  rw [decimalOf, hx]
  show ((scale x e).bind fun y => some (Decimal.shortest .double negative y)).isSome = _
  cases scale x e <;> rfl

/-- Upwards there is one product with a power of ten. -/
theorem exists_scale_eq_mul (hx : x.significand ≠ 0) (hlow : 0 ≤ e) (hhigh : e ≤ 308) :
    ∃ p, scale x e = Decimal.Format.double.mul x p ∧
      10 ^ e * (1 - 1 / 2 ^ 52 : ℚ) ≤ p.value ∧ p.value ≤ 10 ^ e * (1 + 1 / 2 ^ 52 : ℚ) := by
  obtain ⟨p, hp, hclose⟩ := Decimal.exists_ofDecimal_one hlow hhigh
  obtain ⟨hbelow, habove⟩ := abs_le.mp hclose
  refine ⟨p, ?_, by linarith, by linarith⟩
  rw [scale, if_neg hx, if_neg hhigh.not_gt, if_pos hlow, hp]
  rfl

theorem lt_of_le_wordLimit {digits : ℕ} (h : digits ≤ wordLimit) : (digits : ℚ) < 2 ^ 64 := by
  have : digits < 2 ^ 64 := lt_of_le_of_lt h (by decide)
  exact_mod_cast this

/-- The number of digits within 64 bits. -/
theorem exists_round_digits {digits : ℕ} (hpos : 0 < digits) (hdigits : digits ≤ wordLimit) :
    ∃ x, Decimal.Format.double.round digits 1 = some x ∧ x.significand ≠ 0 ∧
      digits * (1 - 1 / 2 ^ 52 : ℚ) ≤ x.value ∧ x.value ≤ digits * (1 + 1 / 2 ^ 52 : ℚ) ∧
      x.value ≤ 2 ^ 65 := by
  have hlt := lt_of_le_wordLimit hdigits
  obtain ⟨x, hx, hclose⟩ :=
    Decimal.exists_round_natural hpos (hlt.trans (lt_trans (by norm_num) Decimal.two_pow_lt_top))
  have hone : (1 : ℚ) ≤ digits := Nat.one_le_cast.mpr hpos
  obtain ⟨hlow, hhigh⟩ := abs_le.mp hclose
  refine ⟨x, hx, fun hzero => ?_, by linarith, by linarith, by linarith⟩
  rw [Binary.value, hzero, Nat.cast_zero, zero_mul] at hlow
  linarith

section

variable {digits : ℕ}

theorem le_of_lt_top (hpos : 0 < digits) (h : (digits * 10 ^ e : ℚ) < Decimal.Format.double.top) :
    e ≤ 308 := by
  by_contra hlarge
  have hone : (1 : ℚ) ≤ digits := Nat.one_le_cast.mpr hpos
  have hpow : (10 : ℚ) ^ (309 : ℤ) ≤ 10 ^ e := zpow_le_zpow_right₀ (by norm_num) (by omega)
  have hdigit : (10 : ℚ) ^ e ≤ digits * 10 ^ e := le_mul_of_one_le_left (by positivity) hone
  exact absurd Decimal.top_lt_pow ((hpow.trans hdigit).trans_lt h).not_gt

theorem nonneg_of_top_lt (hdigits : digits ≤ wordLimit)
    (h : Decimal.Format.double.top < (digits * 10 ^ e : ℚ)) : 0 ≤ e := by
  by_contra hneg
  have hlt := lt_of_le_wordLimit hdigits
  have htop := Decimal.two_pow_lt_top
  have hpow : (10 : ℚ) ^ e ≤ 1 := zpow_le_one_of_nonpos₀ (by norm_num) (by omega)
  have hdigit : (digits * 10 ^ e : ℚ) ≤ digits := mul_le_of_le_one_right (Nat.cast_nonneg _) hpow
  linarith

variable (negative : Bool) (hdigits : digits ≤ wordLimit)

include hdigits

/-- Digits within 64 bits and a power of ten have a number if they stay below the end of the format
even with the errors of two roundings. -/
theorem isSome_decimalOf
    (h : (digits * 10 ^ e : ℚ) * (1 + 1 / 2 ^ 52) ^ 2 < Decimal.Format.double.top) :
    (decimalOf negative digits e).isSome = true := by
  rcases Nat.eq_zero_or_pos digits with rfl | hpos
  · rw [isSome_decimalOf_eq negative rfl, scale, if_pos rfl]
    rfl
  obtain ⟨x, hx, hnonzero, -, hhigh, hsmall⟩ := exists_round_digits hpos hdigits
  rw [isSome_decimalOf_eq negative hx]
  rcases lt_or_ge e 0 with hneg | hnonneg
  · exact isSome_scale_of_neg hsmall hneg
  have herror : (digits * 10 ^ e : ℚ) ≤ digits * 10 ^ e * (1 + 1 / 2 ^ 52) ^ 2 :=
    le_mul_of_one_le_right (by positivity) (by norm_num)
  have he : e ≤ 308 := le_of_lt_top hpos (herror.trans_lt h)
  obtain ⟨p, hscale, -, hpower⟩ := exists_scale_eq_mul hnonzero hnonneg he
  rw [hscale]
  refine Decimal.isSome_mul (lt_of_le_of_lt ?_ h)
  calc x.value * p.value
      ≤ digits * (1 + 1 / 2 ^ 52) * (10 ^ e * (1 + 1 / 2 ^ 52)) :=
        mul_le_mul hhigh hpower p.value_nonneg (by positivity)
    _ = digits * 10 ^ e * (1 + 1 / 2 ^ 52) ^ 2 := by ring

/-- They have none if they are beyond the end even so. -/
theorem decimalOf_eq_none
    (h : Decimal.Format.double.top < (digits * 10 ^ e : ℚ) * (1 - 1 / 2 ^ 52) ^ 2) :
    decimalOf negative digits e = none := by
  have hpos : 0 < digits := by
    refine Nat.pos_of_ne_zero fun hzero => ?_
    have htop := Decimal.two_pow_lt_top.trans h
    rw [hzero, Nat.cast_zero, zero_mul, zero_mul] at htop
    exact absurd htop (not_lt.mpr (by positivity))
  have herror : (digits * 10 ^ e : ℚ) * (1 - 1 / 2 ^ 52) ^ 2 ≤ digits * 10 ^ e :=
    mul_le_of_le_one_right (by positivity) (by norm_num)
  have hnonneg : 0 ≤ e := nonneg_of_top_lt hdigits (h.trans_le herror)
  obtain ⟨x, hx, hnonzero, hlow, -, -⟩ := exists_round_digits hpos hdigits
  have hscale : scale x e = none := by
    rcases lt_or_ge 308 e with hlarge | he
    · rw [scale, if_neg hnonzero, if_pos hlarge]
    obtain ⟨p, hscale, hpower, -⟩ := exists_scale_eq_mul hnonzero hnonneg he
    rw [hscale]
    refine Decimal.mul_eq_none (h.trans_le ?_)
    calc digits * 10 ^ e * (1 - 1 / 2 ^ 52) ^ 2
        = digits * (1 - 1 / 2 ^ 52) * (10 ^ e * (1 - 1 / 2 ^ 52) : ℚ) := by ring
      _ ≤ x.value * p.value :=
        mul_le_mul hlow hpower (mul_nonneg (by positivity) (by norm_num)) x.value_nonneg
  have hnone := isSome_decimalOf_eq (e := e) negative hx
  rw [hscale] at hnone
  exact Option.isNone_iff_eq_none.mp (Option.isSome_eq_false_iff.mp hnone)

end

end Json

end Entail
