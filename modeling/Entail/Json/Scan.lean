/-
Entail/Json/Scan.lean

The smallest parts of a JSON text: blanks, words, strings and numbers.

A scanner takes the characters that are left and returns what it read with the rest, or a fault.
-/
import Entail.Json.Basic
import Entail.Json.Fault
import Entail.Text.Hex
import Entail.Text.Parsed

namespace Entail.Json

/-! ### Blanks -/

/-- The four characters that may stand between the parts of a text. -/
def isSpace (c : Char) : Bool := c == ' ' || c == '\n' || c == '\t' || c == '\r'

/-- The characters from the first one on that is no blank. -/
def skipSpace (s : List Char) : List Char := s.dropWhile isSpace

theorem length_skipSpace_le (s : List Char) : (skipSpace s).length ≤ s.length :=
  (List.dropWhile_sublist isSpace).length_le

/-- What follows the blanks at the front is shorter than the whole. -/
theorem length_lt_of_skipSpace {s r : List Char} {c : Char} (h : skipSpace s = c :: r) :
    r.length < s.length := by
  have := length_skipSpace_le s
  simp only [h, List.length_cons] at this
  omega

/-! ### Words -/

/-- The rest after the remaining letters of a word. -/
def word : List Char → (s : List Char) → Except Fault (Rest s)
  | [], s => .ok (.all s)
  | _ :: _, [] => .error (.here .endInValue [])
  | w :: ws, c :: s =>
    if c = w then (word ws s).map (.behind c) else .error (.beyond .expectedIdent (c :: s))

/-! ### Strings -/

/-- The number that four hexadecimal digits write. -/
def hexFour? (a b c d : Char) : Option Nat := do
  let a ← Text.hexDigit? a
  let b ← Text.hexDigit? b
  let c ← Text.hexDigit? c
  let d ← Text.hexDigit? d
  return ((a * 16 + b) * 16 + c) * 16 + d

/-- Four bytes are taken as the digits of an escape before they are looked at. -/
def hexFault (s : List Char) : Fault :=
  if bytes s < 4 then .here .endInString [] else ⟨.invalidEscape, some (bytes s - 4)⟩

/-- The number after `\u`. -/
def hexEscape (s : List Char) : Except Fault (Parsed Nat s) :=
  match s with
  | a :: b :: c :: d :: r =>
    match hexFour? a b c d with
    | some n => .ok ⟨n, r, by simp only [List.length_cons]; omega⟩
    | none => .error (hexFault (a :: b :: c :: d :: r))
  | s => .error (hexFault s)

/-- The character that a letter after a backslash stands for. -/
def escapeLetter? : Char → Option Char
  | '"' => some '"'
  | '\\' => some '\\'
  | '/' => some '/'
  | 'b' => some '\x08'
  | 'f' => some '\x0c'
  | 'n' => some '\n'
  | 'r' => some '\r'
  | 't' => some '\t'
  | _ => none

/-- The one character that a fixed place of an escape must hold. -/
def expectInEscape (c : Char) (s : List Char) : Except Fault (Tail s) :=
  match s with
  | [] => .error (.here .endInString [])
  | d :: r =>
    if d = c then .ok (.first d r) else .error (.beyond .unfinishedSurrogate (d :: r))

/-- The character of a `\u` escape, from after the `u` on.  A character outside the first plane is
written as a pair of escapes. -/
def unicodeEscape (s : List Char) : Except Fault (Parsed Char s) := do
  let first ← hexEscape s
  if 0xDC00 ≤ first.value ∧ first.value ≤ 0xDFFF then
    .error (.here .loneSurrogate first.rest)
  else if first.value < 0xD800 ∨ 0xDBFF < first.value then
    .ok (first.map Char.ofNat)
  else
    -- The first half of a pair: an escape with the second half must follow.
    let r ← expectInEscape '\\' first.rest
    let r' ← expectInEscape 'u' r.val
    let second ← hexEscape r'.val
    if second.value < 0xDC00 ∨ 0xDFFF < second.value then
      .error (.here .loneSurrogate second.rest)
    else
      let n := (first.value - 0xD800) * 0x400 + (second.value - 0xDC00) + 0x10000
      have := second.shorter
      have := r.property
      have := r'.property
      have := first.shorter
      .ok ⟨Char.ofNat n, second.rest, by omega⟩

/-- The character of an escape, from after the backslash on. -/
def escapeBody (s : List Char) : Except Fault (Parsed Char s) :=
  match s with
  | [] => .error (.here .endInString [])
  | 'u' :: r => (unicodeEscape r).map (.behind 'u')
  | c :: r =>
    match escapeLetter? c with
    | some d => .ok (.upTo d (.first c r))
    | none => .error (.beyond .invalidEscape (c :: r))

/-- The characters of a string, from after the opening quote on.  Those already read are given in
reverse. -/
def stringBody (read : List Char) (s : List Char) : Except Fault (Parsed String s) :=
  match s with
  | [] => .error (.here .endInString [])
  | '"' :: r => .ok (.upTo (String.ofList read.reverse) (.first '"' r))
  | '\\' :: r =>
    match escapeBody r with
    | .error f => .error f
    | .ok p =>
      have := p.shorter
      (stringBody (p.value :: read) p.rest).map fun q => (q.within (.ofTail p.tail)).behind '\\'
  | c :: r =>
    if c.toNat < 0x20 then .error (.here .controlCharacter r)
    else (stringBody (c :: read) r).map (.behind c)
termination_by s.length
decreasing_by all_goals simp only [List.length_cons]; omega

/-! ### Numbers -/

/-- A number as a text writes it. -/
inductive Number where
  | integer (value : Int)
  | decimal (value : Decimal)
  deriving DecidableEq, Repr

/-- The JSON value of a number. -/
def Number.toJson : Number → Json
  | .integer i => .integer i
  | .decimal d => .decimal d

/-- How a message names a number. -/
def Number.found : Number → Found
  | .integer i => .integer i
  | .decimal d => .decimal d

/-- A number read from the front of a list of characters, and the rest. -/
structure Numeral (s : List Char) where
  number : Number
  rest : Rest s

/-- What was read behind a character was read from the whole. -/
def Numeral.behind {s : List Char} (c : Char) (n : Numeral s) : Numeral (c :: s) :=
  ⟨n.number, n.rest.behind c⟩

/-- What was read from a rest was read from the whole. -/
def Numeral.within {s : List Char} (r : Rest s) (n : Numeral r.val) : Numeral s :=
  ⟨n.number, r.andThen n.rest⟩

/-- The digits at the front. -/
def leadingDigits (s : List Char) : List Char := s.takeWhile Char.isDigit

/-- What follows the digits at the front. -/
def afterDigits (s : List Char) : Rest s := restWhile Char.isDigit s

/-- The greatest number of 64 bits. -/
def wordLimit : Nat := Nat.pow 2 64 - 1

/-- Append digits to a number as long as it stays within 64 bits.  The digits from the first one on
that does not fit are left over. -/
def absorb (n : Nat) : List Char → Nat × List Char
  | [] => (n, [])
  | d :: ds =>
    let m := n * 10 + (d.toNat - '0'.toNat)
    if m ≤ wordLimit then absorb m ds else (n, d :: ds)

/-- Scale a number by powers of ten, one rounding to 64 bits for each.  Powers above 10^308 have
no number of their own, so a smaller exponent is reached in steps. -/
def scale (x : Decimal.Binary) (exponent : Int) : Option Decimal.Binary :=
  if x.significand = 0 then some x
  else if 308 < exponent then none
  else if 0 ≤ exponent then do
    Decimal.Format.double.mul x (← Decimal.Format.double.ofDecimal 1 exponent)
  else if -308 ≤ exponent then do
    Decimal.Format.double.div x (← Decimal.Format.double.ofDecimal 1 (-exponent))
  else do
    let y ← Decimal.Format.double.div x (← Decimal.Format.double.ofDecimal 1 308)
    scale y (exponent + 308)
termination_by (-exponent).toNat
decreasing_by omega

/-- The number of 64 bits for `digits` · 10^`exponent`, as the shortest decimal that reads back. -/
def decimalOf (negative : Bool) (digits : Nat) (exponent : Int) : Option Decimal := do
  let x ← Decimal.Format.double.round digits 1
  let y ← scale x exponent
  return Decimal.shortest .double negative y

/-- The greatest exponent that is added up; a text with a greater one says zero or too much. -/
def exponentLimit : Nat := Nat.pow 2 31 - 1

/-- The exponent that digits write, or the rest after the digit that goes beyond the limit. -/
def exponentOf (n : Nat) : (s : List Char) → Nat ⊕ List Char
  | [] => .inl n
  | d :: s =>
    let m := n * 10 + (d.toNat - '0'.toNat)
    if m ≤ exponentLimit then exponentOf m s else .inr s

/-- A number whose exponent is written, from the first digit of the exponent on. -/
def exponentDigits (negative : Bool) (digits : Nat) (start : Int) (below : Bool) (s : List Char) :
    Except Fault (Numeral s) :=
  match s with
  | [] => .error (.here .endInValue [])
  | c :: r =>
    if !c.isDigit then .error (.beyond .invalidNumber (c :: r))
    else
      let rest := afterDigits (c :: r)
      match exponentOf 0 (leadingDigits (c :: r)) with
      | .inl e =>
        match decimalOf negative digits (if below then start - e else start + e) with
        | some d => .ok ⟨.decimal d, rest⟩
        | none => .error (.here .numberOutOfRange rest.val)
      | .inr left =>
        -- Far too large an exponent makes any number but zero too large, or else zero.
        if digits ≠ 0 && !below then .error (.here .numberOutOfRange (left ++ rest.val))
        else .ok ⟨.decimal ⟨negative, 0, 0⟩, rest⟩

/-- A number whose exponent is written, from after the mark on. -/
def exponentPart (negative : Bool) (digits : Nat) (start : Int) (s : List Char) :
    Except Fault (Numeral s) :=
  match s with
  | '+' :: r => (exponentDigits negative digits start false r).map (.behind '+')
  | '-' :: r => (exponentDigits negative digits start true r).map (.behind '-')
  | s => exponentDigits negative digits start false s

/-- A number after its last digit, where an exponent may follow. -/
def afterFraction (negative : Bool) (digits : Nat) (exponent : Int) (s : List Char) :
    Except Fault (Numeral s) :=
  match s with
  | 'e' :: r => (exponentPart negative digits exponent r).map (.behind 'e')
  | 'E' :: r => (exponentPart negative digits exponent r).map (.behind 'E')
  | s =>
    match decimalOf negative digits exponent with
    | some d => .ok ⟨.decimal d, .all s⟩
    | none => .error (.here .numberOutOfRange s)

/-- A number with a fraction, from after the point on. -/
def fractionPart (negative : Bool) (digits dropped : Nat) (s : List Char) :
    Except Fault (Numeral s) :=
  match s with
  | [] => .error (.here .endInValue [])
  | c :: r =>
    if !c.isDigit then .error (.beyond .invalidNumber (c :: r))
    else
      let ds := leadingDigits (c :: r)
      let (digits, left) := absorb digits ds
      let rest := afterDigits (c :: r)
      (afterFraction negative digits ((dropped : Int) - (ds.length - left.length)) rest.val).map
        (.within rest)

/-- A number after its whole digits, of which some may have been dropped. -/
def afterWhole (negative : Bool) (digits dropped : Nat) (s : List Char) :
    Except Fault (Numeral s) :=
  match s with
  | '.' :: r => (fractionPart negative digits dropped r).map (.behind '.')
  | 'e' :: r => afterFraction negative digits dropped ('e' :: r)
  | 'E' :: r => afterFraction negative digits dropped ('E' :: r)
  | s =>
    -- More digits than fit, and zero with a sign, are not integers any more.
    if 0 < dropped then afterFraction negative digits dropped s
    else if !negative then .ok ⟨.integer digits, .all s⟩
    else if 0 < digits ∧ digits ≤ Nat.pow 2 63 then .ok ⟨.integer (-digits), .all s⟩
    else afterFraction negative digits 0 s

/-- A number whose first digit is not zero, from after that digit on. -/
def wholePart (negative : Bool) (first : Char) (s : List Char) : Except Fault (Numeral s) :=
  let (digits, left) := absorb 0 (first :: leadingDigits s)
  let rest := afterDigits s
  (afterWhole negative digits left.length rest.val).map (.within rest)

/-- A number whose first digit is zero, from after that digit on.  No digit may follow it. -/
def zeroPart (negative : Bool) (s : List Char) : Except Fault (Numeral s) :=
  match s with
  | [] => afterWhole negative 0 0 []
  | c :: r =>
    if c.isDigit then .error (.beyond .invalidNumber (c :: r))
    else afterWhole negative 0 0 (c :: r)

/-- A number from its first digit on. -/
def unsignedNumber (negative : Bool) (c : Char) (s : List Char) :
    Except Fault (Parsed Number (c :: s)) :=
  if !c.isDigit then .error (.beyond .invalidNumber (c :: s))
  else
    (if c = '0' then zeroPart negative s else wholePart negative c s).map fun n =>
      .upTo n.number (.ofRest c n.rest)

/-- A number from after its minus sign on. -/
def negativeNumber (s : List Char) : Except Fault (Parsed Number s) :=
  match s with
  | [] => .error (.here .endInValue [])
  | c :: r => unsignedNumber true c r

end Entail.Json
