/-
Entail/Proofs/Grammar.lean

The JSON texts, as a grammar.

`Writes depth j t` says that the characters `t` write the value `j` and open at most `depth`
brackets inside each other.  It is told without a rest: what follows a text is the business of the
readers.  Blanks stand where the grammar has a `Blanks` or a `Lead`, and every spelling of a string
or a number is there.  What a number is once it is rounded is not told a second time here:
`numberOf?` is what the scanner of numbers makes of a text that holds nothing else.  Which spellings
of numbers are within the limits is told by what they write, in `Entail/Proofs/Limits.lean`.

A text may repeat the key of an object.  The value it writes then has the member twice, in the order
of the text, and `merged` is what is left of it once the last value of every key has won.
-/
import Entail.Json.Reader

namespace Entail.Json

/-! ### Blanks -/

/-- Characters that may stand between the parts of a text. -/
def Blanks (ws : List Char) : Prop := ∀ c ∈ ws, isSpace c = true

theorem Blanks.nil : Blanks [] := fun _ h => nomatch h

/-- What stands in front of an item or a member: blanks, and from the second on a comma. -/
inductive Lead : Bool → List Char → Prop where
  | first {ws : List Char} : Blanks ws → Lead true ws
  | comma {ws ws' : List Char} : Blanks ws → Blanks ws' → Lead false (ws ++ ',' :: ws')

/-! ### Strings -/

/-- What may stand for a character inside quotes. -/
inductive CharText : Char → List Char → Prop where
  | plain {c : Char} : 0x20 ≤ c.toNat → c ≠ '"' → c ≠ '\\' → CharText c [c]
  | letter {l c : Char} : escapeLetter? l = some c → CharText c ['\\', l]
  | escape {w x y z : Char} {n : Nat} :
    hexFour? w x y z = some n → n < 0xD800 ∨ 0xDFFF < n →
      CharText (Char.ofNat n) ['\\', 'u', w, x, y, z]
  /-- A character outside the first plane, as the two halves of a pair. -/
  | pair {w x y z w' x' y' z' : Char} {n m : Nat} :
    hexFour? w x y z = some n → 0xD800 ≤ n → n ≤ 0xDBFF →
    hexFour? w' x' y' z' = some m → 0xDC00 ≤ m → m ≤ 0xDFFF →
      CharText (Char.ofNat ((n - 0xD800) * 0x400 + (m - 0xDC00) + 0x10000))
        ['\\', 'u', w, x, y, z, '\\', 'u', w', x', y', z']

/-- What may stand for a string after its opening quote, the closing quote included. -/
inductive StringText : List Char → List Char → Prop where
  | close : StringText [] ['"']
  | char {c : Char} {cs t u : List Char} :
    CharText c t → StringText cs u → StringText (c :: cs) (t ++ u)

/-! ### Numbers -/

/-- One digit or more. -/
def Digits (ds : List Char) : Prop := ds ≠ [] ∧ ∀ c ∈ ds, c.isDigit = true

theorem Digits.exists_cons {ds : List Char} (h : Digits ds) :
    ∃ c r, ds = c :: r ∧ c.isDigit = true := by
  obtain ⟨c, r, rfl⟩ := List.exists_cons_of_ne_nil h.1
  exact ⟨c, r, rfl, h.2 c List.mem_cons_self⟩

/-- The digits in front of the point: no zero in front of others. -/
inductive Whole : List Char → Prop where
  | zero : Whole ['0']
  | digits {c : Char} {ds : List Char} :
    c.isDigit = true → c ≠ '0' → (∀ d ∈ ds, d.isDigit = true) → Whole (c :: ds)

/-- The point and the digits after it, if they are there. -/
inductive Fraction : List Char → Prop where
  | none : Fraction []
  | point {ds : List Char} : Digits ds → Fraction ('.' :: ds)

/-- The sign of an exponent, if it is there. -/
inductive Sign : List Char → Prop where
  | none : Sign []
  | plus : Sign ['+']
  | minus : Sign ['-']

/-- The exponent, if it is there. -/
inductive Exponent : List Char → Prop where
  | none : Exponent []
  | mark {c : Char} {sign ds : List Char} :
    c = 'e' ∨ c = 'E' → Sign sign → Digits ds → Exponent (c :: (sign ++ ds))

/-- What may stand for a number without a sign. -/
inductive Magnitude : List Char → Prop where
  | parts {whole fraction exponent : List Char} :
    Whole whole → Fraction fraction → Exponent exponent →
      Magnitude (whole ++ (fraction ++ exponent))

/-- What may stand for a number. -/
inductive NumberText : List Char → Prop where
  | plain {t : List Char} : Magnitude t → NumberText t
  | negative {t : List Char} : Magnitude t → NumberText ('-' :: t)

/-- The number that characters write, unless it is beyond the limits of numbers (see
`isSome_numberOf?_of_written_le` for what is within them). -/
def numberOf? : List Char → Option Json
  | [] => none
  | c :: r => (scalarValue c r).toOption.map (·.value)

/-! ### Values -/

mutual

/-- The characters write the value and open at most so many brackets inside each other. -/
inductive Writes : Nat → Json → List Char → Prop where
  | null {depth : Nat} : Writes depth .null ['n', 'u', 'l', 'l']
  | yes {depth : Nat} : Writes depth (.bool true) ['t', 'r', 'u', 'e']
  | no {depth : Nat} : Writes depth (.bool false) ['f', 'a', 'l', 's', 'e']
  | number {depth : Nat} {j : Json} {t : List Char} :
    NumberText t → numberOf? t = some j → Writes depth j t
  | text {depth : Nat} {cs t : List Char} :
    StringText cs t → Writes depth (.text (String.ofList cs)) ('"' :: t)
  | list {depth : Nat} {vs : List Json} {t : List Char} :
    WritesItems depth true vs t → Writes (depth + 1) (.list vs) ('[' :: t)
  | object {depth : Nat} {ms : List (String × Json)} {t : List Char} :
    WritesMembers depth true ms t → Writes (depth + 1) (.object ms) ('\x7b' :: t)

/-- The characters write items, from after the opening bracket or from after an item on, and the
closing bracket. -/
inductive WritesItems : Nat → Bool → List Json → List Char → Prop where
  | close {depth : Nat} {first : Bool} {ws : List Char} :
    Blanks ws → WritesItems depth first [] (ws ++ [']'])
  | more {depth : Nat} {first : Bool} {lead t u : List Char} {v : Json} {vs : List Json} :
    Lead first lead → Writes depth v t → WritesItems depth false vs u →
      WritesItems depth first (v :: vs) (lead ++ (t ++ u))

/-- The characters write members, from after the opening brace or from after a member on, and the
closing brace. -/
inductive WritesMembers : Nat → Bool → List (String × Json) → List Char → Prop where
  | close {depth : Nat} {first : Bool} {ws : List Char} :
    Blanks ws → WritesMembers depth first [] (ws ++ ['\x7d'])
  | more {depth : Nat} {first : Bool} {lead key ws ws' t u name : List Char} {v : Json}
      {ms : List (String × Json)} :
    Lead first lead → StringText name key → Blanks ws → Blanks ws' → Writes depth v t →
      WritesMembers depth false ms u →
      WritesMembers depth first ((String.ofList name, v) :: ms)
        (lead ++ ('"' :: (key ++ (ws ++ (':' :: (ws' ++ (t ++ u)))))))

end

/-- A member in front of others, with what follows them all moved inwards. -/
theorem member_append (lead key ws ws' t u rest : List Char) :
    lead ++ '"' :: (key ++ (ws ++ ':' :: (ws' ++ (t ++ u)))) ++ rest =
      lead ++ '"' :: (key ++ (ws ++ ':' :: (ws' ++ (t ++ (u ++ rest))))) := by
  simp only [List.append_assoc, List.cons_append]

/-- The text is a JSON document: it writes the value, within the limit on brackets, with blanks
around it. -/
def Document (text : String) (j : Json) : Prop :=
  ∃ ws t ws', Blanks ws ∧ Writes depthLimit j t ∧ Blanks ws' ∧ text.toList = ws ++ (t ++ ws')

/-! ### Repeated keys -/

mutual

/-- The value with the last value of every key that an object repeats. -/
def merged : Json → Json
  | .list vs => .list (mergedItems vs)
  | .object ms => .object (mergedInto [] ms)
  | v => v

/-- Every item merged. -/
def mergedItems : List Json → List Json
  | [] => []
  | v :: vs => merged v :: mergedItems vs

/-- Members set one after the other, each one merged. -/
def mergedInto (read : List (String × Json)) : List (String × Json) → List (String × Json)
  | [] => read
  | (k, v) :: ms => mergedInto (put k (merged v) read) ms

end

theorem mergedItems_eq_map (vs : List Json) : mergedItems vs = vs.map merged := by
  induction vs with
  | nil => rfl
  | cons v vs ih => simp only [mergedItems, ih, List.map_cons]

/-- The value of a key, the last one if there are several. -/
def lastOf (ms : List (String × Json)) (key : String) : Option Json := ms.reverse.lookup key

/-- Looking a key up, with the first member told apart by equality. -/
theorem lookup_cons_eq_ite {α : Type} (k : String) (a : α) (ms : List (String × α))
    (key : String) : ((k, a) :: ms).lookup key = if key = k then some a else ms.lookup key := by
  by_cases h : key = k
  · rw [h, List.lookup_cons_self, if_pos rfl]
  · rw [List.lookup_cons, beq_false_of_ne h, if_neg h]

theorem lookup_put (k : String) (v : Json) (ms : List (String × Json)) (key : String) :
    (put k v ms).lookup key = if key = k then some v else ms.lookup key := by
  induction ms with
  | nil => rw [put, lookup_cons_eq_ite]
  | cons m ms ih =>
    obtain ⟨k', v'⟩ := m
    by_cases h' : k' = k
    · subst h'
      by_cases h : key = k' <;> simp [put, lookup_cons_eq_ite, h]
    · by_cases h : key = k'
      · have : key ≠ k := h ▸ h'
        simp [put, h', h]
      · simp [put, lookup_cons_eq_ite, h', h, ih]

/-- What members are set to, one after the other: the last value of a key, or what was there. -/
theorem lookup_mergedInto (read ms : List (String × Json)) (key : String) :
    (mergedInto read ms).lookup key = ((lastOf ms key).map merged).or (read.lookup key) := by
  induction ms generalizing read with
  | nil => rfl
  | cons m ms ih =>
    obtain ⟨k, v⟩ := m
    rw [mergedInto, ih, lookup_put, lastOf, lastOf, List.reverse_cons, List.lookup_append]
    cases ms.reverse.lookup key with
    | some w => rfl
    | none => by_cases h : key = k <;> simp [lookup_cons_eq_ite, h]

end Entail.Json
