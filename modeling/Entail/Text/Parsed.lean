/-
Entail/Text/Parsed.lean

What a reader hands back: what it read, and the characters that are left.

The characters that are left carry a proof that they are no more than there were (`Rest`), or fewer
(`Tail`, `Parsed`), which is what ends every loop that reads one part after the other.
-/

namespace Entail

/-- The rest of some characters, which is no longer than they are. -/
abbrev Rest (s : List Char) := { r : List Char // r.length ≤ s.length }

/-- A rest of some characters, which is shorter than they are. -/
abbrev Tail (s : List Char) := { r : List Char // r.length < s.length }

namespace Rest

/-- All of the characters. -/
def all (s : List Char) : Rest s := ⟨s, Nat.le_refl _⟩

/-- A rest, with one character more in front of the whole. -/
def behind {s : List Char} (c : Char) (r : Rest s) : Rest (c :: s) :=
  ⟨r.val, Nat.le_succ_of_le r.property⟩

/-- The rest of a rest. -/
def andThen {s : List Char} (r : Rest s) (t : Rest r.val) : Rest s :=
  ⟨t.val, Nat.le_trans t.property r.property⟩

/-- A rest that happens to be shorter. -/
def ofTail {s : List Char} (t : Tail s) : Rest s := ⟨t.val, Nat.le_of_lt t.property⟩

/-- A shorter rest of a rest. -/
def shorten {s : List Char} (r : Rest s) (t : Tail r.val) : Tail s :=
  ⟨t.val, Nat.lt_of_lt_of_le t.property r.property⟩

end Rest

/-- The rest after the characters of a class at the front. -/
def restWhile (inClass : Char → Bool) (s : List Char) : Rest s :=
  ⟨s.dropWhile inClass, (List.dropWhile_sublist inClass).length_le⟩

namespace Tail

/-- All but the first character. -/
def first (c : Char) (s : List Char) : Tail (c :: s) := ⟨s, Nat.lt_succ_self _⟩

/-- A rest, with one character more in front of the whole. -/
def ofRest {s : List Char} (c : Char) (r : Rest s) : Tail (c :: s) :=
  ⟨r.val, Nat.lt_succ_of_le r.property⟩

/-- A shorter rest, with one character more in front of the whole. -/
def behind {s : List Char} (c : Char) (t : Tail s) : Tail (c :: s) :=
  ⟨t.val, Nat.lt_succ_of_lt t.property⟩

/-- The rest of a shorter rest. -/
def extend {s : List Char} (t : Tail s) (r : Rest t.val) : Tail s :=
  ⟨r.val, Nat.lt_of_le_of_lt r.property t.property⟩

end Tail

/-- Something read from the front of a list of characters, at least one of which is used up. -/
structure Parsed (α : Type) (s : List Char) where
  value : α
  rest : List Char
  shorter : rest.length < s.length

namespace Parsed

/-- A value that was read up to a rest. -/
def upTo {α : Type} {s : List Char} (value : α) (t : Tail s) : Parsed α s :=
  ⟨value, t.val, t.property⟩

/-- The rest alone. -/
def tail {α : Type} {s : List Char} (p : Parsed α s) : Tail s := ⟨p.rest, p.shorter⟩

/-- What was read from a part of the characters was read from all of them. -/
def widen {α : Type} {r s : List Char} (h : r.length ≤ s.length) (p : Parsed α r) : Parsed α s :=
  ⟨p.value, p.rest, Nat.lt_of_lt_of_le p.shorter h⟩

/-- What was read from a rest was read from the whole. -/
def within {α : Type} {s : List Char} (r : Rest s) (p : Parsed α r.val) : Parsed α s :=
  p.widen r.property

/-- What was read behind a character was read from the whole. -/
def behind {α : Type} {s : List Char} (c : Char) (p : Parsed α s) : Parsed α (c :: s) :=
  ⟨p.value, p.rest, Nat.lt_succ_of_lt p.shorter⟩

/-- The same rest with another value. -/
def map {α β : Type} {s : List Char} (f : α → β) (p : Parsed α s) : Parsed β s :=
  ⟨f p.value, p.rest, p.shorter⟩

end Parsed

end Entail
