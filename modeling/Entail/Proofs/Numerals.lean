/-
Entail/Proofs/Numerals.lean

Reading the numbers of the grammar, and passing over them.

A scanner that stands at a number takes all of it and nothing of what follows, and what the number
comes to does not depend on what follows (`Settled`).  So the value a number has on its own
(`numberOf?`) is the value it has in the middle of any text, as long as the next character cannot go
on with it (`Unbroken`).
-/
import Entail.Proofs.Grammar

namespace Entail.Json

/-! ### What follows a number -/

/-- No digit, point or exponent stands in front, so a number that was read ends here. -/
def Unbroken (rest : List Char) : Prop :=
  ∀ c r, rest = c :: r → c.isDigit = false ∧ c ≠ '.' ∧ c ≠ 'e' ∧ c ≠ 'E'

theorem Unbroken.nil : Unbroken [] := fun _ _ e => nomatch e

/-- No digit stands in front. -/
def Undigited (rest : List Char) : Prop := ∀ c r, rest = c :: r → c.isDigit = false

theorem Unbroken.undigited {rest : List Char} (h : Unbroken rest) : Undigited rest :=
  fun c r e => (h c r e).1

theorem leadingDigits_append {ds rest : List Char} (hds : ∀ d ∈ ds, d.isDigit = true)
    (hrest : Undigited rest) : leadingDigits (ds ++ rest) = ds := by
  rw [leadingDigits, List.takeWhile_append_of_pos hds]
  cases rest with
  | nil => simp
  | cons c r => simp [hrest c r rfl]

theorem afterDigits_append {ds rest : List Char} (hds : ∀ d ∈ ds, d.isDigit = true)
    (hrest : Undigited rest) : (afterDigits (ds ++ rest)).val = rest := by
  show (ds ++ rest).dropWhile Char.isDigit = rest
  rw [List.dropWhile_append_of_pos hds]
  cases rest with
  | nil => rfl
  | cons c r => simp [hrest c r rfl]

theorem Exponent.undigited {e rest : List Char} (he : Exponent e) (h : Unbroken rest) :
    Undigited (e ++ rest) := by
  cases he with
  | none => exact h.undigited
  | mark hc _ _ =>
    rintro c r ⟨⟩
    rcases hc with rfl | rfl <;> decide

theorem Fraction.undigited {f e rest : List Char} (hf : Fraction f) (he : Exponent e)
    (h : Unbroken rest) : Undigited (f ++ (e ++ rest)) := by
  cases hf with
  | none => exact he.undigited h
  | point _ =>
    rintro c r ⟨⟩
    decide

/-! ### What a number comes to -/

/-- A scanner ends with a number and a rest, or, if there is no number, with a fault. -/
def Scans {s : List Char} (r : Except Fault (Numeral s)) (o : Option Number)
    (rest : List Char) : Prop :=
  match r with
  | .ok n => some n.number = o ∧ n.rest.val = rest
  | .error _ => none = o

theorem Scans.behind {s rest : List Char} {r : Except Fault (Numeral s)} {o : Option Number}
    (c : Char) (h : Scans r o rest) : Scans (r.map (.behind c)) o rest := by
  cases r <;> exact h

theorem Scans.within {s rest : List Char} {t : Rest s} {r : Except Fault (Numeral t.val)}
    {o : Option Number} (h : Scans r o rest) : Scans (r.map (.within t)) o rest := by
  cases r <;> exact h

/-- The scanner takes exactly these characters, and makes the same of them whatever follows. -/
def Settled (scan : (s : List Char) → Except Fault (Numeral s)) (t : List Char) : Prop :=
  ∃ o, ∀ rest, Unbroken rest → Scans (scan (t ++ rest)) o rest

section

variable (negative : Bool) (digits dropped : Nat) (start : Int) (below : Bool)

theorem exponentDigits_settled {ds : List Char} (hds : Digits ds) :
    Settled (exponentDigits negative digits start below) ds := by
  obtain ⟨c, r, rfl, hc⟩ := hds.exists_cons
  have hlead (rest : List Char) (h : Unbroken rest) : leadingDigits (c :: (r ++ rest)) = c :: r :=
    leadingDigits_append hds.2 h.undigited
  have hafter (rest : List Char) (h : Unbroken rest) :
      (afterDigits (c :: (r ++ rest))).val = rest := afterDigits_append hds.2 h.undigited
  -- What the digits say is settled: an exponent within the limit or not, and its number.
  rcases he : exponentOf 0 (c :: r) with e | left
  · refine ⟨(decimalOf negative digits (if below then start - e else start + e)).map .decimal,
      fun rest h => ?_⟩
    simp only [List.cons_append, exponentDigits, hc, hlead rest h, he]
    rcases decimalOf negative digits (if below then start - e else start + e) with - | d
    · rfl
    · exact ⟨rfl, hafter rest h⟩
  · by_cases hz : digits ≠ 0 && !below
    · refine ⟨none, fun rest h => ?_⟩
      simp only [List.cons_append, exponentDigits, hc, hlead rest h, he, hz]
      rfl
    · refine ⟨some (.decimal ⟨negative, 0, 0⟩), fun rest h => ?_⟩
      simp only [List.cons_append, exponentDigits, hc, hlead rest h, he, hz]
      exact ⟨rfl, hafter rest h⟩

theorem exponentPart_settled {sign ds : List Char} (hs : Sign sign) (hds : Digits ds) :
    Settled (exponentPart negative digits start) (sign ++ ds) := by
  cases hs with
  | none =>
    obtain ⟨o, ho⟩ := exponentDigits_settled negative digits start false hds
    obtain ⟨c, r, rfl, hc⟩ := hds.exists_cons
    refine ⟨o, fun rest h => ?_⟩
    show Scans (exponentPart negative digits start (c :: (r ++ rest))) o rest
    rw [exponentPart]
    · exact ho rest h
    · rintro _ ⟨⟩
      exact absurd hc (by decide)
    · rintro _ ⟨⟩
      exact absurd hc (by decide)
  | plus =>
    obtain ⟨o, ho⟩ := exponentDigits_settled negative digits start false hds
    exact ⟨o, fun rest h => (ho rest h).behind '+'⟩
  | minus =>
    obtain ⟨o, ho⟩ := exponentDigits_settled negative digits start true hds
    exact ⟨o, fun rest h => (ho rest h).behind '-'⟩

theorem afterFraction_settled {e : List Char} (he : Exponent e) :
    Settled (afterFraction negative digits start) e := by
  cases he with
  | none =>
    refine ⟨(decimalOf negative digits start).map .decimal, fun rest h => ?_⟩
    rw [List.nil_append, afterFraction]
    · rcases decimalOf negative digits start with - | d
      · rfl
      · exact ⟨rfl, rfl⟩
    · rintro r rfl
      exact (h 'e' r rfl).2.2.1 rfl
    · rintro r rfl
      exact (h 'E' r rfl).2.2.2 rfl
  | mark hc hs hds =>
    obtain ⟨o, ho⟩ := exponentPart_settled negative digits start hs hds
    rcases hc with rfl | rfl
    · exact ⟨o, fun rest h => (ho rest h).behind 'e'⟩
    · exact ⟨o, fun rest h => (ho rest h).behind 'E'⟩

theorem fractionPart_settled {ds e : List Char} (hds : Digits ds) (he : Exponent e) :
    Settled (fractionPart negative digits dropped) (ds ++ e) := by
  obtain ⟨c, r, rfl, hc⟩ := hds.exists_cons
  rcases ha : absorb digits (c :: r) with ⟨n, left⟩
  obtain ⟨o, ho⟩ :=
    afterFraction_settled negative n ((dropped : Int) - ((c :: r).length - left.length)) he
  refine ⟨o, fun rest h => ?_⟩
  have hlead : leadingDigits (c :: (r ++ (e ++ rest))) = c :: r :=
    leadingDigits_append hds.2 (he.undigited h)
  have hafter : (afterDigits (c :: (r ++ (e ++ rest)))).val = e ++ rest :=
    afterDigits_append hds.2 (he.undigited h)
  show Scans (fractionPart negative digits dropped (c :: (r ++ e ++ rest))) o rest
  rw [List.append_assoc]
  simp only [fractionPart, hc, hlead, ha]
  refine Scans.within ?_
  rw [hafter]
  exact ho rest h

/-- Without a fraction and an exponent a number may be an integer. -/
theorem afterWhole_of_unbroken {rest : List Char} (h : Unbroken rest) :
    afterWhole negative digits dropped rest =
      if 0 < dropped then afterFraction negative digits dropped rest
      else if !negative then .ok ⟨.integer digits, .all rest⟩
      else if 0 < digits ∧ digits ≤ Nat.pow 2 63 then .ok ⟨.integer (-digits), .all rest⟩
      else afterFraction negative digits 0 rest := by
  rw [afterWhole]
  · rintro r rfl
    exact (h '.' r rfl).2.1 rfl
  · rintro r rfl
    exact (h 'e' r rfl).2.2.1 rfl
  · rintro r rfl
    exact (h 'E' r rfl).2.2.2 rfl

theorem afterWhole_settled {f e : List Char} (hf : Fraction f) (he : Exponent e) :
    Settled (afterWhole negative digits dropped) (f ++ e) := by
  cases hf with
  | point hds =>
    obtain ⟨o, ho⟩ := fractionPart_settled negative digits dropped hds he
    exact ⟨o, fun rest h => (ho rest h).behind '.'⟩
  | none =>
    obtain ⟨o, ho⟩ := afterFraction_settled negative digits dropped he
    cases he with
    | mark hc hs hds =>
      refine ⟨o, fun rest h => ?_⟩
      rcases hc with rfl | rfl <;> exact ho rest h
    | none =>
      -- Neither point nor exponent follows: the number is an integer, if it is in range.
      have hwhole (rest : List Char) (h : Unbroken rest) :=
        afterWhole_of_unbroken negative digits dropped h
      simp only [Settled, List.nil_append]
      by_cases hd : 0 < dropped
      · refine ⟨o, fun rest h => ?_⟩
        rw [hwhole rest h, if_pos hd]
        exact ho rest h
      by_cases hn : (!negative) = true
      · refine ⟨some (.integer digits), fun rest h => ?_⟩
        rw [hwhole rest h, if_neg hd, if_pos hn]
        exact ⟨rfl, rfl⟩
      by_cases hr : 0 < digits ∧ digits ≤ Nat.pow 2 63
      · refine ⟨some (.integer (-digits)), fun rest h => ?_⟩
        rw [hwhole rest h, if_neg hd, if_neg hn, if_pos hr]
        exact ⟨rfl, rfl⟩
      · obtain ⟨o, ho⟩ := afterFraction_settled negative digits 0 Exponent.none
        refine ⟨o, fun rest h => ?_⟩
        rw [hwhole rest h, if_neg hd, if_neg hn, if_neg hr]
        exact ho rest h

theorem zeroPart_settled {f e : List Char} (hf : Fraction f) (he : Exponent e) :
    Settled (zeroPart negative) (f ++ e) := by
  obtain ⟨o, ho⟩ := afterWhole_settled negative 0 0 hf he
  refine ⟨o, fun rest h => ?_⟩
  have hhead := hf.undigited he h
  have hafter := ho rest h
  rw [List.append_assoc] at hafter ⊢
  rcases hs : f ++ (e ++ rest) with - | ⟨c, r⟩
  · rwa [hs] at hafter
  · rw [hs] at hafter
    simpa only [zeroPart, hhead c r hs, Bool.false_eq_true, if_false] using hafter

theorem wholePart_settled (first : Char) {ds f e : List Char}
    (hds : ∀ d ∈ ds, d.isDigit = true) (hf : Fraction f) (he : Exponent e) :
    Settled (wholePart negative first) (ds ++ (f ++ e)) := by
  rcases ha : absorb 0 (first :: ds) with ⟨n, left⟩
  obtain ⟨o, ho⟩ := afterWhole_settled negative n left.length hf he
  refine ⟨o, fun rest h => ?_⟩
  have hhead := hf.undigited he h
  have hafter := ho rest h
  rw [List.append_assoc] at hafter
  rw [List.append_assoc, List.append_assoc, wholePart, leadingDigits_append hds hhead, ha]
  refine Scans.within ?_
  rwa [afterDigits_append hds hhead]

end

/-! ### What a value comes to -/

/-- A reader ends with a value and a rest, or, if there is no value, with a fault. -/
def Yields {α : Type} {s : List Char} (r : Except Fault (Parsed α s)) (o : Option α)
    (rest : List Char) : Prop :=
  match r with
  | .ok p => some p.value = o ∧ p.rest = rest
  | .error _ => none = o

namespace Yields

variable {α β : Type} {s rest : List Char} {r : Except Fault (Parsed α s)} {o : Option α}

/-- What is made of a parsed value is made of the outcome, if the rest stays. -/
theorem carry {t : List Char} {g : Parsed α s → Parsed β t} {f : α → β}
    (hg : ∀ p, (g p).value = f p.value ∧ (g p).rest = p.rest) (h : Yields r o rest) :
    Yields (r.map g) (o.map f) rest := by
  cases r with
  | error _ => exact congrArg (Option.map f) h
  | ok p => exact ⟨(congrArg some (hg p).1).trans (congrArg (Option.map f) h.1), (hg p).2.trans h.2⟩

/-- Seeing a parsed value as read from another text changes nothing. -/
theorem keep {t : List Char} {g : Parsed α s → Parsed α t}
    (hg : ∀ p, (g p).value = p.value ∧ (g p).rest = p.rest) (h : Yields r o rest) :
    Yields (r.map g) o rest := by
  simpa only [Option.map_id, id] using h.carry (f := id) hg

theorem ok {a : α} (h : Yields r (some a) rest) : ∃ lt, r = .ok ⟨a, rest, lt⟩ := by
  cases r with
  | error _ => cases h
  | ok p =>
    obtain ⟨rfl, rfl⟩ := And.imp_left Option.some.inj h
    exact ⟨p.shorter, rfl⟩

theorem error (h : Yields r none rest) : ∃ f, r = .error f := by
  cases r with
  | error f => exact ⟨f, rfl⟩
  | ok _ => cases h.1

end Yields

theorem Scans.yields {s rest : List Char} {r : Except Fault (Numeral s)} {o : Option Number}
    (c : Char) (h : Scans r o rest) :
    Yields (r.map fun n => .upTo n.number (.ofRest c n.rest)) o rest := by
  cases r <;> exact h

/-- What a reader makes of a number without its sign is settled, too. -/
theorem unsignedNumber_settled (negative : Bool) {c : Char} {t : List Char}
    (ht : Magnitude (c :: t)) :
    c.isDigit = true ∧
      ∃ o, ∀ rest, Unbroken rest → Yields (unsignedNumber negative c (t ++ rest)) o rest := by
  generalize hs : c :: t = s at ht
  obtain ⟨hw, hf, he⟩ := ht
  cases hw with
  | zero =>
    obtain ⟨rfl, rfl⟩ := List.cons.inj hs
    obtain ⟨o, ho⟩ := zeroPart_settled negative hf he
    exact ⟨rfl, o, fun rest h => (ho rest h).yields '0'⟩
  | digits hc hne hds =>
    obtain ⟨rfl, rfl⟩ := List.cons.inj hs
    obtain ⟨o, ho⟩ := wholePart_settled negative c hds hf he
    refine ⟨hc, o, fun rest h => ?_⟩
    simp only [unsignedNumber, hc, hne, Bool.not_true, Bool.false_eq_true, if_false]
    exact (ho rest h).yields c

/-- A digit is none of the characters that start another value. -/
theorem ne_of_isDigit {c d : Char} (hc : c.isDigit = true) (hd : d.isDigit = false) : c ≠ d := by
  rintro rfl
  rw [hc] at hd
  cases hd

/-- A value whose first character is a digit is a number. -/
theorem scalarValue_of_isDigit {c : Char} (hc : c.isDigit = true) (r : List Char) :
    scalarValue c r = (unsignedNumber false c r).map (.map Number.toJson) := by
  rw [scalarValue]
  · rw [if_pos hc]
  all_goals exact ne_of_isDigit hc (by decide)

theorem numberOf?_of_isDigit {c : Char} (hc : c.isDigit = true) (r : List Char) :
    numberOf? (c :: r) =
      ((unsignedNumber false c r).toOption.map (·.value)).map Number.toJson := by
  rw [numberOf?, scalarValue_of_isDigit hc]
  cases unsignedNumber false c r with
  | error _ => rfl
  | ok _ => rfl

theorem skipScalar_of_isDigit {c : Char} (hc : c.isDigit = true) (r : List Char) :
    skipScalar c r = skipNumber (c :: r) := by
  rw [skipScalar]
  · rw [if_pos hc]
  all_goals exact ne_of_isDigit hc (by decide)

/-- Reading a number as a value is settled. -/
theorem scalarValue_settled {c : Char} {t : List Char} (ht : NumberText (c :: t)) :
    ∃ o, ∀ rest, Unbroken rest → Yields (scalarValue c (t ++ rest)) o rest := by
  generalize hs : c :: t = s at ht
  cases ht with
  | plain hm =>
    subst hs
    obtain ⟨hc, o, ho⟩ := unsignedNumber_settled false hm
    refine ⟨o.map Number.toJson, fun rest h => ?_⟩
    rw [scalarValue_of_isDigit hc]
    exact (ho rest h).carry fun _ => ⟨rfl, rfl⟩
  | negative hm =>
    obtain ⟨rfl, rfl⟩ := List.cons.inj hs
    cases t with
    | nil =>
      -- A sign alone is no number.
      generalize hs : [] = s at hm
      obtain ⟨hw, hf, he⟩ := hm
      cases hw <;> cases hs
    | cons d t =>
      obtain ⟨hd, o, ho⟩ := unsignedNumber_settled true hm
      exact ⟨o.map Number.toJson, fun rest h => (ho rest h).carry fun _ => ⟨rfl, rfl⟩⟩

/-- In the middle of a text a number has the value it has on its own. -/
theorem NumberText.yields {c : Char} {t rest : List Char} {j : Json} (ht : NumberText (c :: t))
    (hj : numberOf? (c :: t) = some j) (h : Unbroken rest) :
    Yields (scalarValue c (t ++ rest)) (some j) rest := by
  obtain ⟨o, ho⟩ := scalarValue_settled ht
  -- What the number comes to is the same everywhere, so it is what it comes to on its own.
  have halone := ho [] Unbroken.nil
  rw [List.append_nil] at halone
  obtain rfl : o = some j := by
    rw [← hj, numberOf?]
    cases hr : scalarValue c t with
    | error f => rw [hr] at halone; exact halone.symm
    | ok p => rw [hr] at halone; exact halone.1.symm
  exact ho rest h

/-! ### Passing over a number -/

/-- A step passes what stands in front of a rest. -/
def Passes {P : List Char → Prop} (r : Except Fault { t : List Char // P t })
    (rest : List Char) : Prop :=
  match r with
  | .ok t => t.val = rest
  | .error _ => False

theorem Passes.carry {P Q : List Char → Prop} {r : Except Fault { t : List Char // P t }}
    {rest : List Char} {g : { t : List Char // P t } → { t : List Char // Q t }}
    (hg : ∀ t, (g t).val = t.val) (h : Passes r rest) : Passes (r.map g) rest := by
  cases r with
  | error _ => exact h
  | ok t => exact (hg t).trans h

theorem Passes.ok {P : List Char → Prop} {r : Except Fault { t : List Char // P t }}
    {rest : List Char} (h : Passes r rest) : ∃ le, r = .ok ⟨rest, le⟩ := by
  cases r with
  | error _ => exact absurd h id
  | ok t =>
    obtain rfl : t.val = rest := h
    exact ⟨t.property, rfl⟩

theorem skipDigits_passes {ds rest : List Char} (hds : Digits ds) (h : Undigited rest)
    (atEnd past : Fault) : Passes (skipDigits (ds ++ rest) atEnd past) rest := by
  obtain ⟨c, r, rfl, hc⟩ := hds.exists_cons
  show Passes (skipDigits (c :: (r ++ rest)) atEnd past) rest
  rw [skipDigits, if_pos hc]
  exact afterDigits_append hds.2 h

theorem skipExponent_passes {sign ds rest : List Char} (hs : Sign sign) (hds : Digits ds)
    (h : Undigited rest) : Passes (skipExponent (sign ++ ds ++ rest)) rest := by
  cases hs with
  | plus => exact (skipDigits_passes hds h _ _).carry fun _ => rfl
  | minus => exact (skipDigits_passes hds h _ _).carry fun _ => rfl
  | none =>
    have hskip := skipDigits_passes hds h (.here .invalidNumber [])
      (.beyond .invalidNumber (ds ++ rest))
    obtain ⟨c, r, rfl, hc⟩ := hds.exists_cons
    show Passes (skipExponent (c :: (r ++ rest))) rest
    rw [skipExponent]
    · exact hskip
    · rintro _ ⟨⟩
      exact absurd hc (by decide)
    · rintro _ ⟨⟩
      exact absurd hc (by decide)

theorem skipAfterFraction_passes {e rest : List Char} (he : Exponent e) (h : Unbroken rest) :
    Passes (skipAfterFraction (e ++ rest)) rest := by
  cases he with
  | none =>
    rw [List.nil_append, skipAfterFraction]
    · rfl
    · rintro r rfl
      exact (h 'e' r rfl).2.2.1 rfl
    · rintro r rfl
      exact (h 'E' r rfl).2.2.2 rfl
  | mark hc hs hds =>
    rcases hc with rfl | rfl <;> exact (skipExponent_passes hs hds h.undigited).carry fun _ => rfl

theorem skipAfterWhole_passes {f e rest : List Char} (hf : Fraction f) (he : Exponent e)
    (h : Unbroken rest) : Passes (skipAfterWhole (f ++ (e ++ rest))) rest := by
  have hskip := skipAfterFraction_passes he h
  cases hf with
  | @point ds hds =>
    show Passes (skipAfterWhole ('.' :: (ds ++ (e ++ rest)))) rest
    obtain ⟨_, hdigits⟩ := (skipDigits_passes hds (he.undigited h) (.here .invalidNumber [])
      (.beyond .invalidNumber (ds ++ (e ++ rest)))).ok
    obtain ⟨_, hexponent⟩ := hskip.ok
    simp only [skipAfterWhole, hdigits, Except.bind, bind, hexponent]
    rfl
  | none =>
    rw [List.nil_append, skipAfterWhole]
    · exact hskip
    · intro r hr
      cases he with
      | none => exact (h '.' r hr).2.1 rfl
      | mark hc _ _ =>
        obtain ⟨rfl, _⟩ := List.cons.inj hr
        rcases hc with hc | hc <;> exact absurd hc (by decide)

theorem skipNumber_passes {t rest : List Char} (ht : Magnitude t) (h : Unbroken rest) :
    Passes (skipNumber (t ++ rest)) rest := by
  obtain @⟨whole, f, e, hw, hf, he⟩ := ht
  have hskip := skipAfterWhole_passes hf he h
  have hhead := hf.undigited he h
  cases hw with
  | zero =>
    show Passes (skipNumber ('0' :: (f ++ e ++ rest))) rest
    rw [List.append_assoc]
    rcases hs : f ++ (e ++ rest) with - | ⟨c, r⟩
    · obtain rfl : rest = [] := by simp_all
      rfl
    · rw [hs] at hskip
      show Passes (if c.isDigit = true then _ else _) rest
      rw [if_neg (by simp [hhead c r hs])]
      exact hskip.carry fun _ => rfl
  | @digits c ds hc hne hds =>
    show Passes (skipNumber (c :: (ds ++ (f ++ e) ++ rest))) rest
    rw [List.append_assoc, List.append_assoc]
    simp only [skipNumber, hc, hne]
    rw [← afterDigits_append hds hhead] at hskip
    exact hskip.carry fun _ => rfl

/-- Passing over a number takes all of it. -/
theorem NumberText.passes {c : Char} {t rest : List Char} (ht : NumberText (c :: t))
    (h : Unbroken rest) : Passes (skipScalar c (t ++ rest)) rest := by
  generalize hs : c :: t = s at ht
  cases ht with
  | plain hm =>
    subst hs
    rw [skipScalar_of_isDigit (unsignedNumber_settled false hm).1]
    exact skipNumber_passes hm h
  | negative hm =>
    obtain ⟨rfl, rfl⟩ := List.cons.inj hs
    exact (skipNumber_passes hm h).carry fun _ => rfl

end Entail.Json
