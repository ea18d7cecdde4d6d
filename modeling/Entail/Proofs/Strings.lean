/-
Entail/Proofs/Strings.lean

Reading the blanks and strings of the grammar, and passing over them.
-/
import Entail.Proofs.Numerals

namespace Entail.Json

/-! ### Blanks -/

/-- Blanks are skipped up to the first character that is none. -/
theorem Blanks.skipSpace {ws : List Char} (h : Blanks ws) {c : Char} (hc : isSpace c = false)
    (r : List Char) : skipSpace (ws ++ c :: r) = c :: r := by
  rw [Json.skipSpace, List.dropWhile_append_of_pos h, List.dropWhile_cons_of_neg (by simp [hc])]

/-- What a reader does at the first character that is no blank. -/
theorem of_skipSpace {β : Type} {P : β → Prop} {s : List Char} {atEnd : skipSpace s = [] → β}
    {onChar : (c : Char) → (r : List Char) → skipSpace s = c :: r → β} {c : Char} {r : List Char}
    (hs : skipSpace s = c :: r) (h : P (onChar c r hs)) :
    P (match h : skipSpace s with
      | [] => atEnd h
      | c :: r => onChar c r h) := by
  split
  · next h' => cases hs.symm.trans h'
  · next h' =>
    obtain ⟨rfl, rfl⟩ := List.cons.inj (hs.symm.trans h')
    exact h

/-- Blanks and the end of a value do not go on with a number. -/
theorem Blanks.unbroken {ws r : List Char} (h : Blanks ws) (hr : Unbroken r) :
    Unbroken (ws ++ r) := by
  cases ws with
  | nil => exact hr
  | cons w ws =>
    rintro _ _ ⟨⟩
    have hw : isSpace w = true := h w List.mem_cons_self
    simp only [isSpace, Bool.or_eq_true, beq_iff_eq] at hw
    rcases hw with ((rfl | rfl) | rfl) | rfl <;> decide

/-! ### Strings -/

/-- The escape of a character of the first plane, with whatever follows. -/
theorem unicodeEscape_of_single {w x y z : Char} {n : Nat} (h : hexFour? w x y z = some n)
    (hn : n < 0xD800 ∨ 0xDFFF < n) (r : List Char) :
    Yields (unicodeEscape (w :: x :: y :: z :: r)) (some (Char.ofNat n)) r := by
  have hlow : ¬ (0xDC00 ≤ n ∧ n ≤ 0xDFFF) := by omega
  have hhigh : n < 0xD800 ∨ 0xDBFF < n := by omega
  simp only [unicodeEscape, hexEscape, h, Except.bind, bind, hlow, hhigh, if_true, if_false]
  exact ⟨rfl, rfl⟩

/-- The escapes of both halves of a pair, with whatever follows. -/
theorem unicodeEscape_of_pair {w x y z w' x' y' z' : Char} {n m : Nat}
    (h : hexFour? w x y z = some n) (hn : 0xD800 ≤ n) (hn' : n ≤ 0xDBFF)
    (h' : hexFour? w' x' y' z' = some m) (hm : 0xDC00 ≤ m) (hm' : m ≤ 0xDFFF) (r : List Char) :
    Yields (unicodeEscape (w :: x :: y :: z :: '\\' :: 'u' :: w' :: x' :: y' :: z' :: r))
      (some (Char.ofNat ((n - 0xD800) * 0x400 + (m - 0xDC00) + 0x10000))) r := by
  have hlow : ¬ (0xDC00 ≤ n ∧ n ≤ 0xDFFF) := by omega
  have hhigh : ¬ (n < 0xD800 ∨ 0xDBFF < n) := by omega
  have hsecond : ¬ (m < 0xDC00 ∨ 0xDFFF < m) := by omega
  simp only [unicodeEscape, hexEscape, h, h', Except.bind, bind, hlow, hhigh, hsecond, if_false,
    expectInEscape, if_true, Tail.first]
  simp only [Yields, and_self]

/-- A reader inside a string goes on after an escape. -/
theorem stringBody_of_escapeBody {t r rest : List Char} {c : Char} {read : List Char}
    {o : Option String} (h : Yields (escapeBody t) (some c) r)
    (hr : Yields (stringBody (c :: read) r) o rest) :
    Yields (stringBody read ('\\' :: t)) o rest := by
  rw [stringBody]
  cases he : escapeBody t with
  | error f =>
    rw [he] at h
    cases h
  | ok p =>
    rw [he] at h
    obtain ⟨hc, rfl⟩ := h
    obtain rfl := Option.some.inj hc
    exact hr.keep fun _ => ⟨rfl, rfl⟩

/-- A reader inside a string goes on after a character. -/
theorem CharText.stringBody_yields {c : Char} {t : List Char} (h : CharText c t)
    {read r rest : List Char} {o : Option String}
    (hr : Yields (stringBody (c :: read) r) o rest) :
    Yields (stringBody read (t ++ r)) o rest := by
  cases h with
  | plain hlow hquote hslash =>
    show Yields (stringBody read (c :: r)) o rest
    rw [stringBody]
    · rw [if_neg (by omega)]
      exact hr.keep fun _ => ⟨rfl, rfl⟩
    · exact fun h => hquote h
    · exact fun h => hslash h
  | @letter l _ hl =>
    refine stringBody_of_escapeBody (t := l :: r) (r := r) ?_ hr
    rw [escapeBody]
    · rw [hl]
      exact ⟨rfl, rfl⟩
    · rintro rfl
      cases hl
  | escape hx hn =>
    exact stringBody_of_escapeBody
      ((unicodeEscape_of_single hx hn r).keep fun _ => ⟨rfl, rfl⟩) hr
  | pair hx hn hn' hy hm hm' =>
    exact stringBody_of_escapeBody
      ((unicodeEscape_of_pair hx hn hn' hy hm hm' r).keep fun _ => ⟨rfl, rfl⟩) hr

/-- Reading a string takes all of it. -/
theorem StringText.yields {cs t : List Char} (h : StringText cs t) (read rest : List Char) :
    Yields (stringBody read (t ++ rest)) (some (String.ofList (read.reverse ++ cs))) rest := by
  induction h generalizing read with
  | close =>
    show Yields (stringBody read ('"' :: rest)) _ rest
    rw [stringBody, List.append_nil]
    exact ⟨rfl, rfl⟩
  | @char c cs t u hc _ ih =>
    rw [List.append_assoc]
    refine hc.stringBody_yields ?_
    simpa only [List.reverse_cons, List.append_assoc, List.singleton_append] using ih (c :: read)

/-- Passing over an escape of four digits. -/
theorem skipString_of_hexFour {w x y z : Char} {n : Nat} (h : hexFour? w x y z = some n)
    {r rest : List Char} (hr : Passes (skipString r) rest) :
    Passes (skipString ('\\' :: 'u' :: w :: x :: y :: z :: r)) rest := by
  simp only [skipString, hexEscape, h]
  exact hr.carry fun _ => rfl

/-- Passing over what stands for a character. -/
theorem CharText.skipString_passes {c : Char} {t : List Char} (h : CharText c t)
    {r rest : List Char} (hr : Passes (skipString r) rest) :
    Passes (skipString (t ++ r)) rest := by
  cases h with
  | plain hlow hquote hslash =>
    show Passes (skipString (c :: r)) rest
    rw [skipString]
    · rw [if_neg (by omega)]
      exact hr.carry fun _ => rfl
    · exact hquote
    · exact fun h => absurd h hslash
    · exact fun _ h => absurd h hslash
    · exact fun _ _ h => absurd h hslash
  | @letter l _ hl =>
    show Passes (skipString ('\\' :: l :: r)) rest
    rw [skipString]
    · rw [hl]
      exact hr.carry fun _ => rfl
    · rintro rfl
      cases hl
  | escape hx _ => exact skipString_of_hexFour hx hr
  | pair hx _ _ hy _ _ => exact skipString_of_hexFour hx (skipString_of_hexFour hy hr)

/-- Passing over a string takes all of it. -/
theorem StringText.passes {cs t : List Char} (h : StringText cs t) (rest : List Char) :
    Passes (skipString (t ++ rest)) rest := by
  induction h with
  | close =>
    show Passes (skipString ('"' :: rest)) rest
    rw [skipString]
    rfl
  | char hc _ ih =>
    rw [List.append_assoc]
    exact hc.skipString_passes ih

end Entail.Json
