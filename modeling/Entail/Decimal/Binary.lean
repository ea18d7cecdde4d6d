/-
Entail/Decimal/Binary.lean

Numbers of the form m · 2^q with a bounded number of bits, and rounding to them.

A `Format` says how many bits the significand may have and how far the exponent reaches.
`Format.round` rounds a quotient of naturals to the nearest number of the format, a tie going to
the even significand.  Products and quotients of such numbers are the exact results rounded once.
Signs are kept apart from the numbers, so nothing here is negative.
-/

namespace Entail.Decimal

/-- A binary number format. -/
structure Format where
  /-- The number of bits of a significand. -/
  precision : Nat
  /-- The least exponent. -/
  least : Int
  /-- The greatest exponent. -/
  greatest : Int

/-- The format of 64 bits. -/
def Format.double : Format := ⟨53, -1074, 971⟩

/-- The format of 32 bits. -/
def Format.single : Format := ⟨24, -149, 104⟩

/-- The number `significand` · 2^`exponent`. -/
structure Binary where
  significand : Nat
  exponent : Int
  deriving DecidableEq, Repr

namespace Binary

/-- The number as a quotient: its numerator. -/
def num (x : Binary) : Nat := x.significand * Nat.pow 2 x.exponent.toNat

/-- The number as a quotient: its denominator. -/
def den (x : Binary) : Nat := Nat.pow 2 (-x.exponent).toNat

end Binary

/-- A quotient rounded to the nearest natural number, a tie going to the even one. -/
def roundQuotient (num den : Nat) : Nat :=
  let q := num / den
  match compare (2 * (num % den)) den with
  | .lt => q
  | .gt => q + 1
  | .eq => if q % 2 = 0 then q else q + 1

/-- The exponent k with 2^k ≤ `num` / `den` < 2^(k+1), for a positive quotient. -/
def magnitude (num den : Nat) : Int :=
  let k : Int := (num.log2 : Int) - den.log2
  if den * Nat.pow 2 k.toNat ≤ num * Nat.pow 2 (-k).toNat then k else k - 1

namespace Format

/-- The number of a format nearest to a quotient, or nothing if that is too large for it. -/
def round (f : Format) (num den : Nat) : Option Binary :=
  if num = 0 then some ⟨0, f.least⟩
  else
    let q := max f.least (magnitude num den + 1 - f.precision)
    let m := roundQuotient (num * Nat.pow 2 (-q).toNat) (den * Nat.pow 2 q.toNat)
    -- Rounding up may need one bit more than there is.
    let x : Binary := if m = Nat.pow 2 f.precision then ⟨m / 2, q + 1⟩ else ⟨m, q⟩
    if x.exponent ≤ f.greatest then some x else none

/-- The product of two numbers, rounded once. -/
def mul (f : Format) (x y : Binary) : Option Binary :=
  f.round (x.num * y.num) (x.den * y.den)

/-- The quotient of two numbers, rounded once. -/
def div (f : Format) (x y : Binary) : Option Binary :=
  f.round (x.num * y.den) (x.den * y.num)

/-- The number nearest to `digits` · 10^`exponent`. -/
def ofDecimal (f : Format) (digits : Nat) (exponent : Int) : Option Binary :=
  f.round (digits * Nat.pow 10 exponent.toNat) (Nat.pow 10 (-exponent).toNat)

end Format

end Entail.Decimal
