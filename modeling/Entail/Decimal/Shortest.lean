/-
Entail/Decimal/Shortest.lean

The shortest decimal that reads back as a given binary number.

The decimals that round to a binary number form an interval around it, which holds its ends
exactly when the significand is even.  `shortest` looks for the coarsest grid 10^e that has a
point in the interval and takes the nearest such point, a tie going to the even digit.  Of all
decimals that read back, none has fewer digits.
-/
import Entail.Decimal.Binary

namespace Entail

/-- The number (-1)^`negative` · `digits` · 10^`exponent`. -/
structure Decimal where
  negative : Bool
  digits : Nat
  exponent : Int
  deriving DecidableEq, Repr

namespace Decimal

/-- Compare `a` · 10^`i` with `n` · 2^`j`. -/
def compareScaled (a : Nat) (i : Int) (n : Nat) (j : Int) : Ordering :=
  compare (a * Nat.pow 10 i.toNat * Nat.pow 2 (-j).toNat)
    (n * Nat.pow 2 j.toNat * Nat.pow 10 (-i).toNat)

/-- Whether the decimal `a` · 10^`i` rounds to a number of a format.  Below a power of two the gap
to the next number is half as wide as above it. -/
def Format.readsBack (f : Format) (x : Binary) (a : Nat) (i : Int) : Bool :=
  -- In quarters of the last bit all ends of the interval are whole.
  let m := 4 * x.significand
  let narrow := x.significand = Nat.pow 2 (f.precision - 1) ∧ f.least < x.exponent
  let low := compareScaled a i (if narrow then m - 1 else m - 2) (x.exponent - 2)
  let high := compareScaled a i (m + 2) (x.exponent - 2)
  let closed := x.significand % 2 == 0
  (low == .gt || closed && low == .eq) && (high == .lt || closed && high == .eq)

/-- The point of the grid 10^`e` that reads back as a number and is nearest to it. -/
def Format.onGrid? (f : Format) (x : Binary) (e : Int) : Option Nat :=
  let below := x.num * Nat.pow 10 (-e).toNat / (x.den * Nat.pow 10 e.toNat)
  match f.readsBack x below e, f.readsBack x (below + 1) e with
  | false, false => none
  | true, false => some below
  | false, true => some (below + 1)
  | true, true =>
    match compareScaled (2 * below + 1) e (2 * x.significand) x.exponent with
    | .gt => some below
    | .lt => some (below + 1)
    | .eq => some (if below % 2 = 0 then below else below + 1)

/-- The first grid from 10^`e` downwards that has a point which reads back. -/
def Format.search (f : Format) (x : Binary) (e : Int) : Nat → Option (Nat × Int)
  | 0 => none
  | tries + 1 =>
    match f.onGrid? x e with
    | some digits => some (digits, e)
    | none => f.search x (e - 1) tries

/-- The number with all its decimal digits. -/
def Binary.exact (x : Binary) : Nat × Int :=
  if 0 ≤ x.exponent then (x.num, 0)
  else (x.significand * Nat.pow 5 (-x.exponent).toNat, x.exponent)

/-- The shortest decimal that reads back as a number of a format.  The search starts at a power of
ten above the number and covers every grid that a number of 64 bits can need. -/
def shortest (f : Format) (negative : Bool) (x : Binary) : Decimal :=
  if x.significand = 0 then ⟨negative, 0, 0⟩
  else
    let top := (magnitude x.num x.den + 1) * 1234 / 4096 + 2
    let (digits, exponent) := (f.search x top 24).getD x.exact
    ⟨negative, digits, exponent⟩

/-- The shortest decimal for a number rounded to 32 bits, or nothing if that is too large. -/
def narrow (negative : Bool) (x : Binary) : Option Decimal :=
  (Format.single.round x.num x.den).map (shortest .single negative)

/-! ### Written form -/

/-- The digits of a natural number in a base of at most 16. -/
def digitsIn (base n : Nat) : List Char := Nat.toDigits base n

/-- The written form of a decimal.  The point is set among or beside the digits as long as the
leading digit stands for 10^-5 at least and less than 10^16; otherwise the exponent is written,
with its sign.  A whole number gets one zero after the point. -/
def text (d : Decimal) : String :=
  let digits := digitsIn 10 d.digits
  let lead := (digits.length : Int) - 1 + d.exponent
  let body : List Char :=
    if -5 ≤ lead && lead < 16 then
      if 0 ≤ d.exponent then
        (if d.digits = 0 then digits else digits ++ List.replicate d.exponent.toNat '0') ++
          ['.', '0']
      else if 0 ≤ lead then
        let whole := (lead + 1).toNat
        digits.take whole ++ '.' :: digits.drop whole
      else '0' :: '.' :: List.replicate (-lead - 1).toNat '0' ++ digits
    else
      let mark := (if 0 ≤ lead then ['e', '+'] else ['e', '-']) ++ digitsIn 10 lead.natAbs
      match digits with
      | [one] => one :: mark
      | one :: more => one :: '.' :: more ++ mark
      | [] => mark
  String.ofList (if d.negative then '-' :: body else body)

end Decimal

end Entail
