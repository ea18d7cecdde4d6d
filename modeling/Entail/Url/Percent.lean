/-
Entail/Url/Percent.lean

Percent encoding: a byte as a percent sign and two hexadecimal digits.

Each part of a URL has a class of characters that must be encoded there.  The classes grow: what is
encoded in any part is encoded in a path, and what is encoded in a path is encoded in user names.
-/
import Entail.Text.Hex

namespace Entail.Url

/-- Characters encoded in every part: controls, and all that is not ASCII. -/
def encodedAlways (c : Char) : Bool := c.toNat < 0x20 || 0x7E < c.toNat

/-- Characters encoded in a path. -/
def encodedInPath (c : Char) : Bool :=
  encodedAlways c || [' ', '"', '#', '<', '>', '?', '\x60', '\x7b', '\x7d'].contains c

/-- Characters encoded in a user name or a password. -/
def encodedInUser (c : Char) : Bool :=
  encodedInPath c || ['/', ':', ';', '=', '@', '[', '\\', ']', '^', '|'].contains c

/-- A byte in encoded form. -/
def percentByte (b : UInt8) : List Char :=
  ['%', (Nat.digitChar (b.toNat / 16)).toUpper, (Nat.digitChar (b.toNat % 16)).toUpper]

/-- The characters with those of a class encoded, byte for byte. -/
def percentEncode (encoded : Char → Bool) (s : List Char) : List Char :=
  s.flatMap fun c => if encoded c then (String.utf8EncodeChar c).flatMap percentByte else [c]

/-- The bytes that characters stand for.  A percent sign without two digits stands for itself. -/
def percentDecode : List Char → List UInt8
  | '%' :: a :: b :: s =>
    match Text.hexDigit? a, Text.hexDigit? b with
    | some m, some n => UInt8.ofNat (16 * m + n) :: percentDecode s
    | _, _ => String.utf8EncodeChar '%' ++ percentDecode (a :: b :: s)
  | c :: s => String.utf8EncodeChar c ++ percentDecode s
  | [] => []

end Entail.Url
