/-
Entail/Text/Utf8.lean

Reading bytes as UTF-8, with the place of the first fault.

A character takes one to four bytes, and only its shortest form counts.  A fault is reported at the
first byte of the character it spoils, with the number of bytes that spoil it, or as incomplete when
the bytes end before the character does.
-/

namespace Entail.Text

/-- Where bytes stop being UTF-8. -/
structure Utf8Error where
  /-- How many bytes come before the fault. -/
  index : Nat
  /-- How many bytes are at fault; nothing if there are too few. -/
  length : Option Nat
  deriving DecidableEq, Repr

/-- The wording of an error. -/
def Utf8Error.message (e : Utf8Error) : String :=
  match e.length with
  | some n =>
    "invalid utf-8 sequence of " ++ toString n ++ " bytes from index " ++ toString e.index
  | none => "incomplete utf-8 byte sequence from index " ++ toString e.index

/-- The bounds of the second byte after a first one that starts a longer character, and how many
bytes follow the second. -/
def continuation? (b : UInt8) : Option (UInt8 × UInt8 × Nat) :=
  if 0xC2 ≤ b ∧ b ≤ 0xDF then some (0x80, 0xBF, 0)
  else if b = 0xE0 then some (0xA0, 0xBF, 1)
  else if b = 0xED then some (0x80, 0x9F, 1)
  else if 0xE1 ≤ b ∧ b ≤ 0xEF then some (0x80, 0xBF, 1)
  else if b = 0xF0 then some (0x90, 0xBF, 2)
  else if 0xF1 ≤ b ∧ b ≤ 0xF3 then some (0x80, 0xBF, 2)
  else if b = 0xF4 then some (0x80, 0x8F, 2)
  else none

/-- The bits that the first byte of a longer character gives to its code point. -/
def leadBits (b : UInt8) : Nat :=
  if b < 0xE0 then b.toNat - 0xC0 else if b < 0xF0 then b.toNat - 0xE0 else b.toNat - 0xF0

/-- The characters that bytes write.  Those already read are given in reverse, with the number of
bytes they took. -/
def utf8Chars (index : Nat) (read : List Char) : List UInt8 → Except Utf8Error (List Char)
  | [] => .ok read.reverse
  | b :: rest =>
    if b < 0x80 then utf8Chars (index + 1) (Char.ofNat b.toNat :: read) rest
    else
      match continuation? b with
      | none => .error ⟨index, some 1⟩
      | some (low, high, more) =>
        match rest with
        | [] => .error ⟨index, none⟩
        | c :: rest =>
          if c < low ∨ high < c then .error ⟨index, some 1⟩
          else
            let n := leadBits b * 64 + (c.toNat - 0x80)
            if more = 0 then utf8Chars (index + 2) (Char.ofNat n :: read) rest
            else
              match rest with
              | [] => .error ⟨index, none⟩
              | d :: rest =>
                if d < 0x80 ∨ 0xBF < d then .error ⟨index, some 2⟩
                else
                  let n := n * 64 + (d.toNat - 0x80)
                  if more = 1 then utf8Chars (index + 3) (Char.ofNat n :: read) rest
                  else
                    match rest with
                    | [] => .error ⟨index, none⟩
                    | e :: rest =>
                      if e < 0x80 ∨ 0xBF < e then .error ⟨index, some 3⟩
                      else
                        utf8Chars (index + 4)
                          (Char.ofNat (n * 64 + (e.toNat - 0x80)) :: read) rest

/-- The text that bytes write. -/
def ofUtf8 (bytes : List UInt8) : Except Utf8Error String :=
  (utf8Chars 0 [] bytes).map String.ofList

end Entail.Text
