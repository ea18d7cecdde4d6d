/-
Entail/Url/Punycode.lean

Labels of domain names in ASCII.

The ASCII characters of a label come first, then a hyphen if there are any.  The others follow in
ascending order, each as a number: how many places there are, counted through all positions and all
characters above ASCII, between it and the one before.  Numbers are written in base 36, lowest
digit first, and a digit below the threshold of its place is the last one.  The thresholds adapt to
the numbers seen, so that numbers of the same size take few digits.
-/
import Entail.Text.Hex

namespace Entail.Url.Punycode

/-! ### Numbers -/

/-- The digit of a value below 36: a letter, or from 26 on a decimal digit. -/
def digit (n : Nat) : Char := Char.ofNat (if n < 26 then 'a'.toNat + n else '0'.toNat + (n - 26))

/-- The value of a digit. -/
def value? (c : Char) : Option Nat :=
  if c.isAlpha then some (c.toLower.toNat - 'a'.toNat)
  else if c.isDigit then some (c.toNat - '0'.toNat + 26)
  else none

/-- The threshold at a place, which counts up in steps of 36. -/
def threshold (bias place : Nat) : Nat := max 1 (min 26 (place - bias))

theorem one_le_threshold (bias place : Nat) : 1 ≤ threshold bias place := Nat.le_max_left ..

/-- Divide by 35 while the number is large, counting up in steps of 36. -/
def scale (bias n : Nat) : Nat :=
  if 455 < n then scale (bias + 36) (n / 35) else bias + 36 * n / (n + 38)
termination_by n

/-- The bias for the number after a number, with the count of characters written with it. -/
def adapt (isFirst : Bool) (n count : Nat) : Nat :=
  let n := if isFirst then n / 700 else n / 2
  scale 0 (n + n / count)

/-! ### Writing -/

/-- The digits of a number from a place on. -/
def digits (bias place n : Nat) : List Char :=
  let t := threshold bias place
  if n < t then [digit n]
  else digit (t + (n - t) % (36 - t)) :: digits bias (place + 36) ((n - t) / (36 - t))
termination_by n
decreasing_by
  have := one_le_threshold bias place
  exact Nat.lt_of_le_of_lt (Nat.div_le_self ..) (by omega)

/-- How far writing has come: the distance from the character written last, the bias, how many
characters are written, and whether the next one is the first above ASCII. -/
structure Progress where
  distance : Nat
  bias : Nat
  count : Nat
  isFirst : Bool

/-- Write every occurrence of a character in a label.  A place of a smaller character is passed. -/
def occurrences (code : Nat) (p : Progress) : List Char → List Char × Progress
  | [] => ([], p)
  | c :: s =>
    if c.toNat < code then occurrences code { p with distance := p.distance + 1 } s
    else if c.toNat = code then
      let next : Progress :=
        ⟨0, adapt p.isFirst p.distance (p.count + 1), p.count + 1, false⟩
      let (written, last) := occurrences code next s
      (digits p.bias 36 p.distance ++ written, last)
    else occurrences code p s

/-- Write the characters of a label whose code points are listed in ascending order.  The code
points from `start` on that come before the next one are passed in every place. -/
def characters (label : List Char) (start : Nat) (p : Progress) : List Nat → List Char
  | [] => []
  | code :: codes =>
    let (written, last) :=
      occurrences code { p with distance := p.distance + (code - start) * (p.count + 1) } label
    written ++ characters label (code + 1) { last with distance := last.distance + 1 } codes

/-- A label in ASCII. -/
def encode (label : List Char) : List Char :=
  let basic := label.filter (·.toNat < 0x80)
  let codes := ((label.map Char.toNat).filter (0x80 ≤ ·)).mergeSort.eraseReps
  basic ++ (if basic = [] then [] else ['-']) ++
    characters label 0x80 ⟨0, 72, basic.length, true⟩ codes

/-! ### Reading -/

/-- The number that digits write from a place on, and what comes after them. -/
def number? (bias place weight : Nat) : List Char → Option (Nat × List Char)
  | [] => none
  | c :: s => do
    let d ← value? c
    let t := threshold bias place
    if d < t then some (d * weight, s)
    else
      let (n, rest) ← number? bias (place + 36) (weight * (36 - t)) s
      some (d * weight + n, rest)

theorem length_of_number? {bias place weight : Nat} {s : List Char} {r : Nat × List Char}
    (h : number? bias place weight s = some r) : r.2.length < s.length := by
  induction s generalizing place weight r with
  | nil => simp [number?] at h
  | cons c s ih =>
    simp only [number?, Option.bind_eq_bind, Option.bind_eq_some_iff] at h
    obtain ⟨d, -, h⟩ := h
    split at h
    · simp only [Option.some.injEq] at h
      simp [← h]
    · obtain ⟨⟨n, rest⟩, hn, h⟩ := Option.bind_eq_some_iff.1 h
      simp only [Option.some.injEq] at h
      have := ih hn
      simp only [← h, List.length_cons] at *
      omega

/-- Read characters and put each in its position.  The next one is searched for from a position and
a code point on; the position is 0 for the first one only. -/
def insertions (bias position code : Nat) (label s : List Char) : Option (List Char) :=
  match h : number? bias 36 1 s with
  | none => if s = [] then some label else none
  | some (n, rest) =>
    have : rest.length < s.length := length_of_number? h
    let count := label.length + 1
    -- Each time all positions are passed, the search goes on with the next code point.
    let found := code + (position + n) / count
    let place := (position + n) % count
    if found.isValidChar then
      insertions (adapt (position == 0) n count) (place + 1) found
        (label.insertIdx place (Char.ofNat found)) rest
    else none
termination_by s.length

/-- The label that ASCII characters write.  The last hyphen, unless it is at the front, ends the
characters that stand for themselves. -/
def decode? (s : List Char) : Option (List Char) :=
  let tail := (s.reverse.takeWhile (· != '-')).reverse
  let basic := s.take (s.length - tail.length - 1)
  if basic = [] then insertions 72 0 0x80 [] s else insertions 72 0 0x80 basic tail

end Entail.Url.Punycode
