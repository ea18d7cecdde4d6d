/-
Entail/Url/Address.lean

IPv4 and IPv6 addresses.

An IPv4 address has one to four numbers, decimal, octal or hexadecimal; the last one fills all the
bytes that are left.  An IPv6 address has eight pieces of 16 bits, of which a run of zeros may be
left out once and the last two may be written as an IPv4 address.
-/
import Entail.Decimal.Shortest
import Entail.Text.Hex
import Entail.Text.Parts

namespace Entail.Url

open Text (parts)

/-! ### IPv4 -/

/-- One number of an IPv4 address.  A leading zero makes it octal, `0x` hexadecimal. -/
def ipv4Number? : List Char → Option Nat
  | [] => none
  | '0' :: 'x' :: s => Text.number? 16 s
  | '0' :: 'X' :: s => Text.number? 16 s
  | '0' :: c :: s => Text.number? 8 (c :: s)
  | s => Text.number? 10 s

/-- The parts of a name between its points, without the empty part after a final one. -/
def labels (s : List Char) : List (List Char) :=
  let ps := parts (· == '.') s
  if ps.getLast? = some [] then ps.dropLast else ps

/-- The last part of a name is a number, so that the name can only be an IPv4 address. -/
def endsInNumber (s : List Char) : Bool :=
  match (labels s).getLast? with
  | none => false
  | some l => (l ≠ [] && l.all Char.isDigit) || (ipv4Number? l).isSome

/-- The address that numbers write: the last one fills the bytes that the others leave. -/
def ipv4OfNumbers? (numbers : List Nat) : Option Nat := do
  let last ← numbers.getLast?
  let front := numbers.dropLast
  if 3 < front.length then none
  else if Nat.pow 256 (4 - front.length) ≤ last then none
  else if front.any (255 < ·) then none
  else some (front.foldl (fun n b => n * 256 + b) 0 * Nat.pow 256 (4 - front.length) + last)

/-- The IPv4 address that a name writes. -/
def ipv4? (s : List Char) : Option Nat := do
  ipv4OfNumbers? (← (labels s).mapM ipv4Number?)

/-- The four bytes of an IPv4 address, with points between them. -/
def ipv4Text (address : Nat) : List Char :=
  List.intercalate ['.']
    ([3, 2, 1, 0].map fun i => Decimal.digitsIn 10 (address / Nat.pow 256 i % 256))

/-! ### IPv6 -/

/-- One byte of an IPv4 address at the end of an IPv6 address: decimal, without leading zeros. -/
def byte? (s : List Char) : Option Nat :=
  if s = [] ∨ (1 < s.length ∧ s.head? = some '0') then none
  else (Text.number? 10 s).filter (· ≤ 255)

/-- One piece of an IPv6 address: up to four hexadecimal digits. -/
def piece? (s : List Char) : Option Nat :=
  if s = [] ∨ 4 < s.length then none else Text.number? 16 s

/-- The two pieces that an IPv4 address writes. -/
def ipv4Pieces? (s : List Char) : Option (Nat × Nat) := do
  match ← (parts (· == '.') s).mapM byte? with
  | [a, b, c, d] => some (a * 256 + b, c * 256 + d)
  | _ => none

/-- Read the groups between colons.  The pieces read so far are given in reverse, with the number
of them before the zeros that are left out.  The place of the zeros shows as an empty group, and
an empty group at the very end is allowed only right after it. -/
def ipv6Pieces? (read : List Nat) (gap : Option Nat) :
    List (List Char) → Option (List Nat × Option Nat)
  | [] => some (read, gap)
  | [[]] => some (read, gap)
  | [] :: groups =>
    if read.length = 8 ∨ gap.isSome then none
    else ipv6Pieces? (0 :: read) (some (read.length + 1)) groups
  | group :: groups =>
    if read.length = 8 then none
    else if group.contains '.' then
      match ipv4Pieces? group with
      | some (m, n) => if groups = [] ∧ read.length ≤ 6 then some (n :: m :: read, gap) else none
      | none => none
    else
      match piece? group with
      -- A single colon at the end is none of the places where an empty group may stand.
      | some n => if groups = [[]] then none else ipv6Pieces? (n :: read) gap groups
      | none => none

/-- The eight pieces of an IPv6 address. -/
def ipv6? (s : List Char) : Option (List Nat) := do
  let (read, gap) ←
    match parts (· == ':') s with
    | [] :: [] :: g :: gs => ipv6Pieces? [0] (some 1) (g :: gs)
    | [] :: _ => none
    | groups => ipv6Pieces? [] none groups
  let pieces := read.reverse
  match gap with
  | some n => some (pieces.take n ++ List.replicate (8 - pieces.length) 0 ++ pieces.drop n)
  | none => if pieces.length = 8 then some pieces else none

/-- How many zeros are at the front. -/
def zeros (pieces : List Nat) : Nat := (pieces.takeWhile (· == 0)).length

/-- Where the first of the longest runs of zeros starts, and how long it is. -/
def longestZeros (pieces : List Nat) : Nat × Nat :=
  (List.range pieces.length).foldl
    (fun best i =>
      let n := zeros (pieces.drop i)
      if best.2 < n then (i, n) else best)
    (0, 0)

/-- The pieces with colons between them, the longest run of more than one zero left out. -/
def ipv6Text (pieces : List Nat) : List Char :=
  let written (ps : List Nat) := List.intercalate [':'] (ps.map (Decimal.digitsIn 16))
  let (start, length) := longestZeros pieces
  if length < 2 then written pieces
  else written (pieces.take start) ++ [':', ':'] ++ written (pieces.drop (start + length))

end Entail.Url
