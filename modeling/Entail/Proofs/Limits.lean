/-
Entail/Proofs/Limits.lean

Which numbers a text may hold.

What a number text writes is its digits times a power of ten, whatever it is read as (`written`).
The scanner keeps as many of the digits as fit into 64 bits and drops the others (`kept`), which
changes the number by less than a 10^18th part (`kept_close`).  What is left is rounded, and whether
there is a number for it decides whether the text has one (`isSome_numberOf?`).

Main results: a text that writes 1797 · 10^305 or less is within the limits and may stand in a
document (`isSome_numberOf?_of_written_le`, `exists_writes_of_written_le`), and one that writes
1798 · 10^305 or more is beyond them (`numberOf?_eq_none_of_le_written`).  In between, the roundings
decide.
-/
import Entail.Proofs.Numerals
import Entail.Proofs.Scaling

namespace Entail.Json

/-! ### What a number text writes -/

/-- The number that an exponent writes, from its mark on. -/
def exponentValue : List Char → ℤ
  | _ :: '-' :: ds => -Nat.ofDigitChars 10 ds 0
  | _ :: '+' :: ds => Nat.ofDigitChars 10 ds 0
  | _ :: ds => Nat.ofDigitChars 10 ds 0
  | [] => 0

/-- The number that the parts of a text write: the digits in front of the point and behind it, and
the power of ten for the places behind the point and the exponent. -/
def written (whole fraction exponent : List Char) : ℚ :=
  Nat.ofDigitChars 10 (whole ++ fraction.tail) 0 *
    10 ^ (exponentValue exponent - fraction.tail.length)

/-! ### Digits -/

section

variable {ds : List Char}

theorem digit_le_nine {d : Char} (h : d.isDigit = true) : d.toNat - '0'.toNat ≤ 9 := by
  simp only [Char.isDigit, Bool.and_eq_true, decide_eq_true_eq, ge_iff_le, UInt32.le_iff_toNat_le,
    Char.reduceVal, UInt32.reduceToNat, Char.toNat_val] at h
  simp only [Char.reduceToNat]
  omega

theorem ofDigitChars_lt (hds : ∀ d ∈ ds, d.isDigit = true) :
    Nat.ofDigitChars 10 ds 0 < 10 ^ ds.length := by
  induction ds with
  | nil => exact one_pos
  | cons d ds ih =>
    obtain ⟨hd, hds⟩ := List.forall_mem_cons.mp hds
    have hdigit := digit_le_nine hd
    have hrest := ih hds
    rw [Nat.ofDigitChars_cons, Nat.ofDigitChars_eq_ofDigitChars_zero, List.length_cons, pow_succ]
    nlinarith

theorem le_ofDigitChars (n : ℕ) (ds : List Char) : n ≤ Nat.ofDigitChars 10 ds n := by
  rw [Nat.ofDigitChars_eq_ofDigitChars_zero]
  exact le_add_right (Nat.le_mul_of_pos_left n (Nat.pow_pos (by decide)))

/-- The digits that fit are taken, and if some are left then the number has 18 digits or more. -/
theorem absorb_spec (hds : ∀ d ∈ ds, d.isDigit = true) {n : ℕ} (hn : n ≤ wordLimit) :
    ∃ taken left, ds = taken ++ left ∧ absorb n ds = (Nat.ofDigitChars 10 taken n, left) ∧
      Nat.ofDigitChars 10 taken n ≤ wordLimit ∧
      (left ≠ [] → 10 ^ 18 ≤ Nat.ofDigitChars 10 taken n) := by
  induction ds generalizing n with
  | nil => exact ⟨[], [], rfl, rfl, hn, fun h => absurd rfl h⟩
  | cons d ds ih =>
    obtain ⟨hd, hds⟩ := List.forall_mem_cons.mp hds
    by_cases hfits : n * 10 + (d.toNat - '0'.toNat) ≤ wordLimit
    · obtain ⟨taken, left, rfl, habsorb, hle, hfull⟩ := ih hds hfits
      refine ⟨d :: taken, left, rfl, ?_, ?_, ?_⟩
      · rw [absorb, if_pos hfits, habsorb, Nat.ofDigitChars_cons, mul_comm]
      · rwa [Nat.ofDigitChars_cons, mul_comm]
      · rwa [Nat.ofDigitChars_cons, mul_comm]
    · refine ⟨[], d :: ds, rfl, ?_, hn, fun _ => ?_⟩
      · rw [absorb, if_neg hfits]
        rfl
      · have hdigit := digit_le_nine hd
        have hlimit : wordLimit = 2 ^ 64 - 1 := rfl
        rw [Nat.ofDigitChars_nil]
        omega

end

/-! ### The digits that are kept -/

/-- The digits of a number that are kept, and the power of ten they have to be taken times. -/
def kept (whole fraction : List Char) : ℕ × ℤ :=
  let (n, left) := absorb 0 whole
  let (m, left') := absorb n fraction
  (m, (left.length : ℤ) - (fraction.length - left'.length))

section

variable {whole fraction : List Char}

theorem kept_le (hwhole : ∀ d ∈ whole, d.isDigit = true)
    (hfraction : ∀ d ∈ fraction, d.isDigit = true) : (kept whole fraction).1 ≤ wordLimit := by
  obtain ⟨_, _, -, habsorb, hle, -⟩ := absorb_spec hwhole (Nat.zero_le _)
  obtain ⟨_, _, -, habsorb', hle', -⟩ := absorb_spec hfraction hle
  simp only [kept, habsorb, habsorb']
  exact hle'

/-- What is dropped, with the places `A` in front of the point and `L` behind it, is no more than a
step of the last digit that is kept in front of the point. -/
theorem dropped_le_step {A T L b c d : ℚ} (hA : 1 ≤ A) (hT : 1 ≤ T) (hL : 0 < L) (hb0 : 0 ≤ b)
    (hc0 : 0 ≤ c) (hd0 : 0 ≤ d) (hb : b + 1 ≤ A) (hc : c + 1 ≤ T) (hd : d + 1 ≤ L) :
    |T * L * b + d - L * c * (A - 1)| ≤ T * (A * L) := by
  have hfilled : 0 ≤ L * c * (A - 1) := mul_nonneg (mul_nonneg hL.le hc0) (sub_nonneg.mpr hA)
  have hleft : 0 ≤ T * L * b := by positivity
  refine abs_le.mpr ⟨?_, ?_⟩
  · have hle : L * c * (A - 1) ≤ L * T * A :=
      mul_le_mul (mul_le_mul_of_nonneg_left (by linarith) hL.le) (by linarith)
        (sub_nonneg.mpr hA) (by positivity)
    linarith
  · have hle : T * L * b ≤ T * L * (A - 1) :=
      mul_le_mul_of_nonneg_left (by linarith) (by positivity)
    have hlast : L ≤ T * L := le_mul_of_one_le_left hL.le hT
    linarith

/-- Digits `a` and `b` in front of the point and `c` and `d` behind it, of which `b` and `d` are
dropped, with their places filled by zeros. -/
theorem dropped_close {a b c d k t l : ℕ} (hb : b < 10 ^ k) (hc : c < 10 ^ t) (hd : d < 10 ^ l)
    (hwhole : k ≠ 0 → 10 ^ 18 ≤ a) (hfraction : l ≠ 0 → 10 ^ 18 ≤ 10 ^ t * a + c) :
    |(10 ^ (t + l) * (10 ^ k * a + b) + (10 ^ l * c + d) : ℚ) -
        (10 ^ t * a + c) * 10 ^ (k + l)| ≤ (10 ^ t * a + c) * 10 ^ (k + l) / 10 ^ 18 := by
  have hb' : (b : ℚ) + 1 ≤ 10 ^ k := by exact_mod_cast hb
  have hc' : (c : ℚ) + 1 ≤ 10 ^ t := by exact_mod_cast hc
  have hd' : (d : ℚ) + 1 ≤ 10 ^ l := by exact_mod_cast hd
  have hdiff : (10 ^ (t + l) * (10 ^ k * a + b) + (10 ^ l * c + d) : ℚ) -
      (10 ^ t * a + c) * 10 ^ (k + l) = 10 ^ t * 10 ^ l * b + d - 10 ^ l * c * (10 ^ k - 1) := by
    ring
  rw [hdiff, pow_add]
  rcases Nat.eq_zero_or_pos k with rfl | hk
  · -- All digits in front of the point are kept.
    obtain rfl : b = 0 := by omega
    have hsimple : (10 ^ t * 10 ^ l * (0 : ℕ) + d - 10 ^ l * c * (10 ^ 0 - 1) : ℚ) = d := by
      push_cast
      ring
    rw [hsimple, abs_of_nonneg (Nat.cast_nonneg _), pow_zero, one_mul]
    rcases Nat.eq_zero_or_pos l with rfl | hl
    · obtain rfl : d = 0 := by omega
      positivity
    · have hfull : (10 ^ 18 : ℚ) ≤ 10 ^ t * a + c := by exact_mod_cast hfraction hl.ne'
      have := mul_le_mul_of_nonneg_right hfull (by positivity : (0 : ℚ) ≤ 10 ^ l)
      rw [le_div_iff₀ (by positivity)]
      linarith
  · -- Some are dropped there, so those that are kept are worth 10^18 steps.
    have hstep := dropped_le_step (one_le_pow₀ (by norm_num)) (one_le_pow₀ (by norm_num))
      (by positivity) (Nat.cast_nonneg b) (Nat.cast_nonneg c) (Nat.cast_nonneg d) hb' hc' hd'
    have hfull : (10 ^ 18 : ℚ) ≤ a := by exact_mod_cast hwhole hk.ne'
    have hkept : 10 ^ 18 * 10 ^ t ≤ (10 ^ t * a + c : ℚ) := by
      have := mul_le_mul_of_nonneg_left hfull (by positivity : (0 : ℚ) ≤ 10 ^ t)
      have : (0 : ℚ) ≤ c := Nat.cast_nonneg c
      linarith
    have hscaled := mul_le_mul_of_nonneg_right hkept (by positivity : (0 : ℚ) ≤ 10 ^ k * 10 ^ l)
    refine hstep.trans ?_
    rw [le_div_iff₀ (by positivity)]
    linarith

/-- Without the digits that are dropped a number is smaller or greater by less than a 10^18th part.
It may be greater, since a place behind the point may be filled from a digit that is kept after
others were dropped. -/
theorem kept_close (hwhole : ∀ d ∈ whole, d.isDigit = true)
    (hfraction : ∀ d ∈ fraction, d.isDigit = true) :
    let kept := (kept whole fraction).1 * (10 : ℚ) ^ (kept whole fraction).2
    |Nat.ofDigitChars 10 (whole ++ fraction) 0 * (10 : ℚ) ^ (-fraction.length : ℤ) - kept| ≤
      kept / 10 ^ 18 := by
  obtain ⟨taken, left, rfl, habsorb, hle, hfull⟩ := absorb_spec hwhole (Nat.zero_le _)
  obtain ⟨taken', left', rfl, habsorb', -, hfull'⟩ := absorb_spec hfraction hle
  have hleft := ofDigitChars_lt fun d hd => hwhole d (List.mem_append_right _ hd)
  have htaken' := ofDigitChars_lt fun d hd => hfraction d (List.mem_append_left _ hd)
  have hleft' := ofDigitChars_lt fun d hd => hfraction d (List.mem_append_right _ hd)
  set a := Nat.ofDigitChars 10 taken 0
  have hmore : Nat.ofDigitChars 10 taken' a =
      10 ^ taken'.length * a + Nat.ofDigitChars 10 taken' 0 := Nat.ofDigitChars_eq_ofDigitChars_zero
  rw [hmore] at hfull'
  have hclose := dropped_close hleft htaken' hleft'
    (fun h => hfull (List.length_pos_iff.mp (Nat.pos_of_ne_zero h)))
    (fun h => hfull' (List.length_pos_iff.mp (Nat.pos_of_ne_zero h)))
  have hall : Nat.ofDigitChars 10 (taken ++ left ++ (taken' ++ left')) 0 =
      10 ^ (taken'.length + left'.length) * (10 ^ left.length * a + Nat.ofDigitChars 10 left 0) +
        (10 ^ left'.length * Nat.ofDigitChars 10 taken' 0 + Nat.ofDigitChars 10 left' 0) := by
    rw [Nat.ofDigitChars_append, Nat.ofDigitChars_append, Nat.ofDigitChars_append,
      Nat.ofDigitChars_eq_ofDigitChars_zero (l := left),
      Nat.ofDigitChars_eq_ofDigitChars_zero (l := left'),
      Nat.ofDigitChars_eq_ofDigitChars_zero (l := taken')]
    ring
  -- Both sides times the power of ten that makes the last place a whole one.
  have hplaces : (10 : ℚ) ^ (-(taken' ++ left').length : ℤ) =
      1 / 10 ^ (taken'.length + left'.length) := by
    rw [List.length_append, zpow_neg, zpow_natCast, one_div]
  have hkept : (10 : ℚ) ^ ((left.length : ℤ) - ((taken' ++ left').length - left'.length)) =
      10 ^ (left.length + left'.length) / 10 ^ (taken'.length + left'.length) := by
    rw [List.length_append, ← zpow_natCast, ← zpow_natCast, ← zpow_sub₀ (by norm_num)]
    congr 1
    push_cast
    ring
  have hpos : (0 : ℚ) < 10 ^ (taken'.length + left'.length) := by positivity
  simp only [kept, habsorb, habsorb', hmore, hall, hplaces, hkept]
  push_cast
  rw [mul_one_div, ← mul_div_assoc, ← sub_div, abs_div, abs_of_pos hpos, div_right_comm]
  exact div_le_div_of_nonneg_right hclose hpos.le

end

/-! ### What decides whether a number is read -/

/-- The digits and the power of ten have a number once the exponent is added up, or the exponent is
too great for that and leaves nothing but zero. -/
def Readable (negative : Bool) (digits : ℕ) (start exponent : ℤ) : Prop :=
  if exponent.natAbs ≤ exponentLimit then
    (decimalOf negative digits (start + exponent)).isSome = true
  else digits = 0 ∨ exponent < 0

section

variable {ds : List Char}

theorem isOk_map {ε α β : Type} {f : α → β} {r : Except ε α} :
    (r.map f).isOk = true ↔ r.isOk = true := by
  cases r <;> exact Iff.rfl

theorem exponentOf_spec (ds : List Char) {n : ℕ} (hn : n ≤ exponentLimit) :
    (Nat.ofDigitChars 10 ds n ≤ exponentLimit ∧
      exponentOf n ds = .inl (Nat.ofDigitChars 10 ds n)) ∨
    (exponentLimit < Nat.ofDigitChars 10 ds n ∧ ∃ left, exponentOf n ds = .inr left) := by
  induction ds generalizing n with
  | nil => exact .inl ⟨hn, rfl⟩
  | cons d ds ih =>
    rw [Nat.ofDigitChars_cons, mul_comm, exponentOf]
    split
    · next h => exact ih h
    · next h => exact .inr ⟨lt_of_lt_of_le (not_le.mp h) (le_ofDigitChars _ ds), ds, rfl⟩

theorem leadingDigits_eq (hds : ∀ d ∈ ds, d.isDigit = true) : leadingDigits ds = ds := by
  have := leadingDigits_append hds Unbroken.nil.undigited
  rwa [List.append_nil] at this

variable (negative : Bool) (digits : ℕ) (start : ℤ)

theorem isOk_exponentDigits (below : Bool) (hds : Digits ds) :
    (exponentDigits negative digits start below ds).isOk = true ↔
      Readable negative digits start
        (if below then -Nat.ofDigitChars 10 ds 0 else Nat.ofDigitChars 10 ds 0) := by
  have hlead := leadingDigits_eq hds.2
  obtain ⟨c, r, rfl, hc⟩ := hds.exists_cons
  set v := Nat.ofDigitChars 10 (c :: r) 0
  have habs : (if below then -(v : ℤ) else v).natAbs = v := by split <;> simp
  rcases exponentOf_spec (c :: r) (Nat.zero_le _) with ⟨hle, hexponent⟩ | ⟨hlt, left, hexponent⟩
  · have hsum : (if below then start - v else start + v) =
        start + if below then -(v : ℤ) else v := by split <;> omega
    rw [Readable, habs, if_pos hle, ← hsum]
    simp only [exponentDigits, hc, hlead, hexponent]
    cases decimalOf negative digits (if below then start - v else start + v) with
    | none => exact Iff.rfl
    | some d => exact Iff.rfl
  · have hv : 0 < v := lt_of_le_of_lt (Nat.zero_le _) hlt
    rw [Readable, habs, if_neg (not_le.mpr hlt)]
    simp only [exponentDigits, hc, hlead, hexponent]
    cases below with
    | true => simp [Except.isOk, Except.toBool, hv]
    | false =>
      by_cases hzero : digits = 0
      · simp [Except.isOk, Except.toBool, hzero]
      · simp [Except.isOk, Except.toBool, hzero]

theorem isOk_exponentPart {sign : List Char} (hs : Sign sign) (hds : Digits ds) (mark : Char) :
    (exponentPart negative digits start (sign ++ ds)).isOk = true ↔
      Readable negative digits start (exponentValue (mark :: (sign ++ ds))) := by
  cases hs with
  | plus => exact isOk_map.trans (isOk_exponentDigits negative digits start false hds)
  | minus => exact isOk_map.trans (isOk_exponentDigits negative digits start true hds)
  | none =>
    have hdigits := isOk_exponentDigits negative digits start false hds
    obtain ⟨c, r, rfl, hc⟩ := hds.exists_cons
    rw [List.nil_append, exponentPart, exponentValue]
    · exact hdigits
    all_goals
      rintro _ ⟨⟩
      exact absurd hc (by decide)

theorem isOk_afterFraction {exponent : List Char} (he : Exponent exponent) :
    (afterFraction negative digits start exponent).isOk = true ↔
      Readable negative digits start (exponentValue exponent) := by
  cases he with
  | none =>
    have hlimit : Int.natAbs 0 ≤ exponentLimit := Nat.zero_le _
    rw [exponentValue, Readable, if_pos hlimit, add_zero, afterFraction]
    · cases decimalOf negative digits start with
      | none => exact Iff.rfl
      | some d => exact Iff.rfl
    all_goals exact fun r hr => List.cons_ne_nil _ r hr.symm
  | mark hc hs hds =>
    rcases hc with rfl | rfl
    · exact isOk_map.trans (isOk_exponentPart negative digits start hs hds 'e')
    · exact isOk_map.trans (isOk_exponentPart negative digits start hs hds 'E')

theorem isOk_fractionPart (dropped : ℕ) {exponent : List Char} (hds : Digits ds)
    (he : Exponent exponent) :
    (fractionPart negative digits dropped (ds ++ exponent)).isOk = true ↔
      Readable negative (absorb digits ds).1 (dropped - (ds.length - (absorb digits ds).2.length))
        (exponentValue exponent) := by
  have hhead : Undigited exponent := by
    have := he.undigited Unbroken.nil
    rwa [List.append_nil] at this
  have hlead := leadingDigits_append hds.2 hhead
  have hafter := afterDigits_append hds.2 hhead
  obtain ⟨c, r, rfl, hc⟩ := hds.exists_cons
  rw [List.cons_append] at hlead hafter ⊢
  simp only [fractionPart, hc, hlead, Bool.not_true, Bool.false_eq_true, if_false]
  rw [isOk_map, hafter]
  exact isOk_afterFraction negative _ _ he

/-- Digits within 64 bits have a number themselves. -/
theorem isSome_decimalOf_zero (hdigits : digits ≤ wordLimit) :
    (decimalOf negative digits 0).isSome = true := by
  have hlt := lt_of_le_wordLimit hdigits
  have htop := Decimal.two_pow_lt_top
  refine isSome_decimalOf negative hdigits ?_
  rw [zpow_zero, mul_one]
  linarith

theorem isOk_afterWhole (dropped : ℕ) {fraction exponent : List Char} (hf : Fraction fraction)
    (he : Exponent exponent) (hdigits : digits ≤ wordLimit) :
    (afterWhole negative digits dropped (fraction ++ exponent)).isOk = true ↔
      Readable negative (absorb digits fraction.tail).1
        (dropped - (fraction.tail.length - (absorb digits fraction.tail).2.length))
        (exponentValue exponent) := by
  cases hf with
  | point hds =>
    exact isOk_map.trans (isOk_fractionPart negative digits dropped hds he)
  | none =>
    have hafter := isOk_afterFraction negative digits dropped he
    have hstart : (dropped : ℤ) - (([] : List Char).length - ([] : List Char).length) = dropped :=
      sub_zero _
    rw [List.tail_nil, absorb, hstart, List.nil_append]
    cases he with
    | mark hc hs hds =>
      rcases hc with rfl | rfl
      · exact hafter
      · exact hafter
    | none =>
      -- An integer that fits is read as it is, but could be read as a decimal as well.
      have hinteger : Readable negative digits (0 : ℕ) (exponentValue []) :=
        isSome_decimalOf_zero negative digits hdigits
      rw [afterWhole_of_unbroken negative digits dropped Unbroken.nil]
      split_ifs with hdropped hplain hrange
      · exact hafter
      all_goals
        obtain rfl : dropped = 0 := Nat.eq_zero_of_not_pos hdropped
      · exact iff_of_true rfl hinteger
      · exact iff_of_true rfl hinteger
      · exact hafter

end

section

variable {whole fraction exponent : List Char}

/-- A number without its sign is read if what is kept of it has a number with its exponent. -/
theorem isOk_unsignedNumber (negative : Bool) {c : Char} {t : List Char} (hw : Whole whole)
    (hf : Fraction fraction) (he : Exponent exponent)
    (ht : c :: t = whole ++ (fraction ++ exponent)) :
    (unsignedNumber negative c t).isOk = true ↔
      Readable negative (kept whole fraction.tail).1 (kept whole fraction.tail).2
        (exponentValue exponent) := by
  have hhead : Undigited (fraction ++ exponent) := by
    have := hf.undigited he Unbroken.nil
    rwa [List.append_nil] at this
  cases hw with
  | zero =>
    obtain ⟨rfl, rfl⟩ : c = '0' ∧ t = fraction ++ exponent := List.cons.inj ht
    have hwhole := isOk_afterWhole negative 0 0 hf he (Nat.zero_le _)
    refine isOk_map.trans (Iff.trans ?_ hwhole)
    rw [if_pos rfl]
    cases hs : fraction ++ exponent with
    | nil => exact Iff.rfl
    | cons d r => simp only [zeroPart, hhead d r hs, Bool.false_eq_true, if_false]
  | @digits d ds hc hne hds =>
    obtain ⟨rfl, rfl⟩ : c = d ∧ t = ds ++ (fraction ++ exponent) := List.cons.inj ht
    obtain ⟨taken, left, -, habsorb, hle, -⟩ :=
      absorb_spec (List.forall_mem_cons.mpr ⟨hc, hds⟩) (Nat.zero_le _)
    have hwhole := isOk_afterWhole negative _ left.length hf he hle
    simp only [unsignedNumber, hc, hne, Bool.not_true, Bool.false_eq_true, if_false, wholePart,
      leadingDigits_append hds hhead, kept, habsorb]
    refine isOk_map.trans (isOk_map.trans ?_)
    rw [afterDigits_append hds hhead]
    exact hwhole

theorem Whole.isDigit (hw : Whole whole) : ∀ d ∈ whole, d.isDigit = true := by
  cases hw with
  | zero => exact List.forall_mem_singleton.mpr rfl
  | digits hc _ hds => exact List.forall_mem_cons.mpr ⟨hc, hds⟩

theorem Fraction.isDigit_tail (hf : Fraction fraction) : ∀ d ∈ fraction.tail, d.isDigit = true := by
  cases hf with
  | none => exact fun _ h => nomatch h
  | point hds => exact hds.2

/-- What is kept of a text is close to what it writes. -/
theorem written_close (hw : Whole whole) (hf : Fraction fraction) (exponent : List Char) :
    |written whole fraction exponent - (kept whole fraction.tail).1 *
        (10 : ℚ) ^ ((kept whole fraction.tail).2 + exponentValue exponent)| ≤
      (kept whole fraction.tail).1 *
        (10 : ℚ) ^ ((kept whole fraction.tail).2 + exponentValue exponent) / 10 ^ 18 := by
  have hpow : (0 : ℚ) < 10 ^ exponentValue exponent := by positivity
  have hclose := mul_le_mul_of_nonneg_right (kept_close hw.isDigit hf.isDigit_tail) hpow.le
  rw [← abs_of_pos hpow, ← abs_mul, abs_of_pos hpow, sub_mul, div_mul_eq_mul_div] at hclose
  have hplaces : (10 : ℚ) ^ (exponentValue exponent - fraction.tail.length) =
      10 ^ (-fraction.tail.length : ℤ) * 10 ^ exponentValue exponent := by
    rw [← zpow_add₀ (by norm_num), neg_add_eq_sub]
  rw [written, hplaces, zpow_add₀ (by norm_num), ← mul_assoc, ← mul_assoc]
  exact hclose

end

/-! ### The limits -/

section

variable {sign whole fraction exponent : List Char} (hs : sign = [] ∨ sign = ['-'])
  (hw : Whole whole) (hf : Fraction fraction) (he : Exponent exponent)

include hs hw hf he

/-- What decides is what is kept of a text, whatever its sign is. -/
theorem isSome_numberOf? :
    ∃ negative, (numberOf? (sign ++ (whole ++ (fraction ++ exponent)))).isSome = true ↔
      Readable negative (kept whole fraction.tail).1 (kept whole fraction.tail).2
        (exponentValue exponent) := by
  obtain ⟨c, t, hct, hc⟩ : ∃ c t, whole ++ (fraction ++ exponent) = c :: t ∧ c.isDigit = true := by
    cases hw with
    | zero => exact ⟨_, _, rfl, rfl⟩
    | digits hc => exact ⟨_, _, rfl, hc⟩
  have hread (negative : Bool) := isOk_unsignedNumber negative hw hf he hct.symm
  rw [hct]
  rcases hs with rfl | rfl
  · refine ⟨false, Iff.trans ?_ (hread false)⟩
    rw [List.nil_append, numberOf?_of_isDigit hc]
    cases unsignedNumber false c t with
    | error _ => exact Iff.rfl
    | ok _ => exact Iff.rfl
  · refine ⟨true, Iff.trans ?_ (hread true)⟩
    show (((unsignedNumber true c t).map fun p => (p.map Number.toJson).behind '-').toOption.map
      (·.value)).isSome = true ↔ _
    cases unsignedNumber true c t with
    | error _ => exact Iff.rfl
    | ok _ => exact Iff.rfl

/-- A number of 1797 · 10^305 or less has a value, however it is spelled: with any digits, with a
fraction or an exponent, and with a sign or without.  The exponent itself has to be within its
limit, since no digits make up for one that is not added up. -/
theorem isSome_numberOf?_of_written_le
    (hlimit : exponentValue exponent ≤ exponentLimit)
    (h : written whole fraction exponent ≤ 1797 * 10 ^ 305) :
    (numberOf? (sign ++ (whole ++ (fraction ++ exponent)))).isSome = true := by
  obtain ⟨negative, hread⟩ := isSome_numberOf? hs hw hf he
  rw [hread, Readable]
  split_ifs with hsmall
  · have hclose := (abs_le.mp (written_close hw hf exponent)).1
    have hbound : (0 : ℚ) < 1797 * 10 ^ 305 := by positivity
    have htop := Decimal.lt_top_double
    refine isSome_decimalOf negative (kept_le hw.isDigit hf.isDigit_tail) ?_
    generalize (1797 * 10 ^ 305 : ℚ) = bound at *
    linarith
  · omega

/-- So a document may hold it wherever a value may stand. -/
theorem exists_writes_of_written_le
    (hlimit : exponentValue exponent ≤ exponentLimit)
    (h : written whole fraction exponent ≤ 1797 * 10 ^ 305) (depth : ℕ) :
    ∃ j, Writes depth j (sign ++ (whole ++ (fraction ++ exponent))) := by
  obtain ⟨j, hj⟩ := Option.isSome_iff_exists.mp
    (isSome_numberOf?_of_written_le hs hw hf he hlimit h)
  have hmagnitude : Magnitude (whole ++ (fraction ++ exponent)) := .parts hw hf he
  refine ⟨j, .number ?_ hj⟩
  rcases hs with rfl | rfl
  · exact .plain hmagnitude
  · exact .negative hmagnitude

/-- A number of 1798 · 10^305 or more has no value, unless its exponent is so far below zero that it
is taken for zero. -/
theorem numberOf?_eq_none_of_le_written
    (hlimit : -exponentLimit ≤ exponentValue exponent)
    (h : 1798 * 10 ^ 305 ≤ written whole fraction exponent) :
    numberOf? (sign ++ (whole ++ (fraction ++ exponent))) = none := by
  obtain ⟨negative, hread⟩ := isSome_numberOf? hs hw hf he
  have hclose := (abs_le.mp (written_close hw hf exponent)).2
  have hbound : (0 : ℚ) < 1798 * 10 ^ 305 := by positivity
  have htop := Decimal.top_double_lt
  rw [← Option.not_isSome_iff_eq_none, hread, Readable]
  generalize (1798 * 10 ^ 305 : ℚ) = bound at *
  split_ifs with hsmall
  · rw [decimalOf_eq_none negative (kept_le hw.isDigit hf.isDigit_tail) ?_]
    · nofun
    · linarith
  · rintro (hzero | hneg)
    · rw [hzero, Nat.cast_zero, zero_mul] at hclose
      linarith
    · omega

end

end Entail.Json
