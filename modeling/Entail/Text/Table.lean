/-
Entail/Text/Table.lean

Tables of characters, and the text they are written in.

A table is a text of words.  A word names code points in hexadecimal: one, all from `A` to `B` as
`A-B`, or every second one from `A` to `B` as `A~B`.  Their image follows after `>`, with commas
between its code points.  A word that names one code point may go on with the images of those next
to it, each after a semicolon.
-/
import Entail.Text.Hex
import Entail.Text.Parts

namespace Entail.Text

/-- A row of a table: code points from `low` to `high`, each `step` from the one before, and their
image. -/
structure Row where
  low : Nat
  high : Nat
  step : Nat
  image : List Char
  deriving DecidableEq, Repr

/-- A table of characters. -/
abbrev Table := List Row

namespace Row

/-- The character is in the row. -/
def holds (r : Row) (c : Char) : Bool :=
  r.low ≤ c.toNat && c.toNat ≤ r.high && (c.toNat - r.low) % r.step == 0

/-- The image of a character in the row.  Where a range has one character as its image, that is the
image of the first, and the others follow at the same distance. -/
def imageOf (r : Row) (c : Char) : List Char :=
  match r.image with
  | [d] => [Char.ofNat (d.toNat + (c.toNat - r.low))]
  | image => image

/-- The character that hexadecimal digits name. -/
def codePoint (digits : List Char) : Nat := (number? 16 digits).getD 0

/-- The rows that a word writes. -/
def ofWord (word : List Char) : List Row :=
  let key := word.takeWhile (· != '>')
  let images := (parts (· == ';') ((word.dropWhile (· != '>')).drop 1)).map fun image =>
    (parts (· == ',') image).filter (· ≠ []) |>.map fun digits => Char.ofNat (codePoint digits)
  match (parts (fun c => c == '-' || c == '~') key).map codePoint with
  | [low] => images.mapIdx fun i image => ⟨low + i, low + i, 1, image⟩
  | [low, high] => images.map fun image => ⟨low, high, if key.contains '~' then 2 else 1, image⟩
  | _ => []

end Row

namespace Table

/-- The table that a text writes. -/
def ofText (text : String) : Table :=
  (parts (fun c => c == ' ' || c == '\n') text.toList).filter (· ≠ []) |>.flatMap Row.ofWord

/-- The row that holds a character. -/
def find? (t : Table) (c : Char) : Option Row := List.find? (·.holds c) t

/-- The table holds a character. -/
def contains (t : Table) (c : Char) : Bool := t.any (·.holds c)

end Table

end Entail.Text
