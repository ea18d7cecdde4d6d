/-
Entail/Proofs/Places.lean

Every fault of a sketch has a place.

A fault comes with the number of bytes that are left (`Fault.Placed`), whichever reader it is from;
only premises that fit no shape are noticed nowhere in particular, and the reader of a sketch does
not meet them.  There is one lemma for each reader, in the order of the readers, and a reader that
has others as its parts is placed if they are (`Reader.Placed`, `Record.Placed`).  So the message of
a text that is no JSON for a sketch names a line and a column (`Sketch.parse_malformed_place`).
-/
import Entail.Document.Sketch

namespace Entail

namespace Json

/-- The fault was noticed somewhere. -/
def Fault.Placed (f : Fault) : Prop := f.left.isSome = true

section

variable {α β ε ε' : Type}

@[grind .]
theorem Fault.placed_here (cause : Cause) (s : List Char) : (Fault.here cause s).Placed := rfl

@[grind .]
theorem Fault.placed_beyond (cause : Cause) (s : List Char) : (Fault.beyond cause s).Placed := rfl

@[grind =]
theorem map_eq_error_iff {g : α → β} {r : Except ε α} {e : ε} :
    r.map g = .error e ↔ r = .error e := by
  cases r <;> simp [Except.map]

@[grind =]
theorem bind_eq_error_iff {g : α → Except ε β} {r : Except ε α} {e : ε} :
    r >>= g = .error e ↔ r = .error e ∨ ∃ a, r = .ok a ∧ g a = .error e := by
  cases r <;> simp [bind, Except.bind]

theorem mapError_eq_error_iff {g : ε → ε'} {r : Except ε α} {e : ε'} :
    r.mapError g = .error e ↔ ∃ f, r = .error f ∧ g f = e := by
  constructor
  · intro h
    cases r with
    | ok a => cases h
    | error f => exact ⟨f, rfl, Except.error.inj h⟩
  · rintro ⟨f, rfl, rfl⟩
    rfl

end

/-! ### Words, strings and numbers -/

section

variable {f : Fault} {negative : Bool} {digits dropped depth : Nat} {start : Int} {c : Char}
  {s : List Char}

@[grind →]
theorem word_placed {w : List Char} (h : word w s = .error f) : f.Placed := by
  fun_induction word w s <;> grind

@[grind .]
theorem hexFault_placed (s : List Char) : (hexFault s).Placed := by
  grind [hexFault, Fault.Placed]

@[grind →]
theorem hexEscape_placed (h : hexEscape s = .error f) : f.Placed := by
  unfold hexEscape at h
  grind

@[grind →]
theorem expectInEscape_placed (h : expectInEscape c s = .error f) : f.Placed := by
  cases s <;> grind [expectInEscape]

@[grind →]
theorem unicodeEscape_placed (h : unicodeEscape s = .error f) : f.Placed := by
  unfold unicodeEscape at h
  grind

@[grind →]
theorem escapeBody_placed (h : escapeBody s = .error f) : f.Placed := by
  unfold escapeBody at h
  grind

@[grind →]
theorem stringBody_placed {read : List Char} (h : stringBody read s = .error f) : f.Placed := by
  fun_induction stringBody read s <;> grind

@[grind →]
theorem exponentDigits_placed {below : Bool}
    (h : exponentDigits negative digits start below s = .error f) : f.Placed := by
  unfold exponentDigits at h
  grind

@[grind →]
theorem exponentPart_placed (h : exponentPart negative digits start s = .error f) : f.Placed := by
  unfold exponentPart at h
  grind

@[grind →]
theorem afterFraction_placed (h : afterFraction negative digits start s = .error f) :
    f.Placed := by
  unfold afterFraction at h
  grind

@[grind →]
theorem fractionPart_placed (h : fractionPart negative digits dropped s = .error f) :
    f.Placed := by
  cases s with
  | nil => exact Except.error.inj h ▸ Fault.placed_here _ _
  | cons c r =>
    unfold fractionPart at h
    dsimp only at h
    by_cases hc : (!c.isDigit) = true
    · rw [if_pos hc] at h
      exact Except.error.inj h ▸ Fault.placed_beyond _ _
    · rw [if_neg hc, map_eq_error_iff] at h
      exact afterFraction_placed h

@[grind →]
theorem afterWhole_placed (h : afterWhole negative digits dropped s = .error f) : f.Placed := by
  unfold afterWhole at h
  grind

@[grind →]
theorem wholePart_placed (h : wholePart negative c s = .error f) : f.Placed := by
  exact afterWhole_placed (map_eq_error_iff.mp h)

@[grind →]
theorem zeroPart_placed (h : zeroPart negative s = .error f) : f.Placed := by
  cases s with
  | nil =>
    unfold zeroPart at h
    exact afterWhole_placed h
  | cons c r =>
    unfold zeroPart at h
    dsimp only at h
    by_cases hc : c.isDigit = true
    · rw [if_pos hc] at h
      exact Except.error.inj h ▸ Fault.placed_beyond _ _
    · rw [if_neg hc] at h
      exact afterWhole_placed h

@[grind →]
theorem unsignedNumber_placed (h : unsignedNumber negative c s = .error f) : f.Placed := by
  unfold unsignedNumber at h
  by_cases hc : (!c.isDigit) = true
  · rw [if_pos hc] at h
    exact Except.error.inj h ▸ Fault.placed_beyond _ _
  · rw [if_neg hc, map_eq_error_iff] at h
    by_cases hzero : c = '0'
    · rw [if_pos hzero] at h
      exact zeroPart_placed h
    · rw [if_neg hzero] at h
      exact wholePart_placed h

@[grind →]
theorem negativeNumber_placed (h : negativeNumber s = .error f) : f.Placed := by
  cases s with
  | nil => exact Except.error.inj h ▸ Fault.placed_here _ _
  | cons c r => exact unsignedNumber_placed h

/-! ### Any value -/

@[grind →]
theorem nextItem_placed {first : Bool} (h : nextItem first s = .error f) : f.Placed := by
  unfold nextItem at h
  grind

@[grind →]
theorem nextKey_placed {first : Bool} (h : nextKey first s = .error f) : f.Placed := by
  unfold nextKey at h
  grind

@[grind →]
theorem colon_placed (h : colon s = .error f) : f.Placed := by
  unfold colon at h
  grind

@[grind →]
theorem key_placed (h : key s = .error f) : f.Placed := by
  unfold key at h
  grind

section

variable {α : Type} {item : (s : List Char) → Except Fault (Parsed α s)} {first : Bool}
  (hitem : ∀ s f, item s = .error f → f.Placed)

include hitem

@[grind →]
theorem items_placed {read : List α} (h : items item first read s = .error f) : f.Placed := by
  fun_induction items item first read s <;> grind

@[grind →]
theorem members_placed {put : String → α → List (String × α) → List (String × α)}
    {read : List (String × α)} (h : members item put first read s = .error f) : f.Placed := by
  fun_induction members item put first read s <;> grind

end

@[grind →]
theorem scalarValue_placed {r : List Char} (h : scalarValue c r = .error f) : f.Placed := by
  unfold scalarValue at h
  grind

@[grind →]
theorem value_placed (h : value depth s = .error f) : f.Placed := by
  induction depth generalizing s f with
  | zero =>
    unfold value at h
    grind
  | succ depth ih =>
    unfold value at h
    grind

/-! ### Passing over a value -/

@[grind →]
theorem skipString_placed (h : skipString s = .error f) : f.Placed := by
  fun_induction skipString s <;> grind

@[grind →]
theorem skipDigits_fault {atEnd past : Fault} (h : skipDigits s atEnd past = .error f) :
    f = atEnd ∨ f = past := by
  cases s <;> grind [skipDigits]

@[grind →]
theorem skipExponent_placed (h : skipExponent s = .error f) : f.Placed := by
  unfold skipExponent skipExponent.go at h
  split at h <;> grind

@[grind →]
theorem skipAfterFraction_placed (h : skipAfterFraction s = .error f) : f.Placed := by
  unfold skipAfterFraction at h
  split at h <;> grind

@[grind →]
theorem skipAfterWhole_placed (h : skipAfterWhole s = .error f) : f.Placed := by
  unfold skipAfterWhole at h
  split at h <;> grind

@[grind →]
theorem skipNumber_placed (h : skipNumber s = .error f) : f.Placed := by
  rcases s with - | ⟨c, - | ⟨d, r⟩⟩ <;> grind [skipNumber]

@[grind →]
theorem skipScalar_placed {r : List Char} (h : skipScalar c r = .error f) : f.Placed := by
  unfold skipScalar at h
  split at h <;> grind

/-- The four functions that pass over a value call each other, so their faults are placed
together. -/
@[grind →]
theorem skipValue_placed {brackets : List Bracket} (h : skipValue brackets s = .error f) :
    f.Placed := by
  suffices hall : ∀ brackets s f, skipValue brackets s = .error f → f.Placed from hall _ _ _ h
  clear h
  apply skipValue.induct (fun bs s => ∀ f, skipValue bs s = .error f → f.Placed)
    (fun b bs s => ∀ f, skipRest b bs s = .error f → f.Placed)
    (fun b bs s => ∀ f, skipEntry b bs s = .error f → f.Placed)
    (fun b bs s => ∀ f, skipOpen b bs s = .error f → f.Placed)
  all_goals
    intros
    rename_i h
    first
    | unfold skipValue at h
    | unfold skipRest at h
    | unfold skipEntry at h
    | unfold skipOpen at h
    grind

@[grind →]
theorem skip_placed (h : skip depth s = .error f) : f.Placed := by
  unfold skip at h
  grind

end

/-! ### Values of a shape -/

/-- Every fault of the reader has a place. -/
def Reader.Placed {α : Type} (reader : Reader α) : Prop :=
  ∀ depth s f, reader depth s = .error f → f.Placed

@[grind .]
theorem wrongType_placed (wanted : String) (c : Char) (r : List Char) :
    (wrongType wanted c r).Placed := by
  unfold wrongType
  grind

theorem placed_value : Reader.Placed value := by
  intro depth s f h
  exact value_placed h

theorem placed_string : Reader.Placed string := by
  intro depth s f h
  unfold string stringNamed at h
  grind

theorem Reader.Placed.listOf {α : Type} {item : Reader α} (hitem : item.Placed) :
    (listOf item).Placed := by
  intro depth s f h
  have hitems (d : Nat) {read : List α} {s : List Char} :
      items (item d) true read s = .error f → f.Placed := items_placed (hitem d)
  unfold Json.listOf at h
  grind

/-- A reader whose values are turned into others. -/
theorem Reader.Placed.map {α β : Type} {reader : Reader α} (h : reader.Placed) (g : α → β) :
    Reader.Placed fun depth s => (reader depth s).map (.map g) := by
  intro depth s f hf
  exact h depth s f (map_eq_error_iff.mp hf)

/-! ### Records and whole texts -/

/-- Every fault of a field of the record has a place. -/
def Record.Placed {ρ : Type} (record : Record ρ) : Prop :=
  ∀ field ∈ record.fields, ∀ read, (field.read read).Placed

namespace Record

variable {ρ : Type} {record : Record ρ} {f : Fault} {depth : Nat} {parts : ρ} {s : List Char}

@[grind →]
theorem closeList_placed (h : closeList parts s = .error f) : f.Placed := by
  unfold closeList at h
  grind

theorem readItems_placed {count : Nat} {fields : List (Field ρ)}
    (hfields : ∀ field ∈ fields, ∀ read, (field.read read).Placed)
    (h : readItems record depth count fields parts s = .error f) : f.Placed := by
  fun_induction readItems record depth count fields parts s <;> grind [Reader.Placed]

theorem Placed.readMembers {first : Bool} (hrecord : record.Placed)
    (h : readMembers record depth first parts s = .error f) : f.Placed := by
  have hfield (field : Field ρ) (hmem : field ∈ record.fields) := hrecord field hmem
  fun_induction Record.readMembers record depth first parts s <;> grind [Reader.Placed]

theorem Placed.read (start : ρ) (hrecord : record.Placed) : (record.read start).Placed := by
  intro depth s f h
  have hitems {r : List Char} :
      readItems record (depth - 1) 0 record.fields start r = .error f → f.Placed :=
    readItems_placed hrecord
  have hmembers {r : List Char} :
      Record.readMembers record (depth - 1) true start r = .error f → f.Placed :=
    hrecord.readMembers
  unfold Record.read at h
  grind

end Record

/-- A text that a placed reader does not accept has its error at a line and a column. -/
theorem Reader.Placed.run {α : Type} {reader : Reader α} (hreader : reader.Placed) {text : String}
    {e : ReadError} (h : reader.run text = .error e) : e.place.isSome = true := by
  unfold Reader.run at h
  obtain ⟨f, hf, rfl⟩ := mapError_eq_error_iff.mp h
  have hplaced : f.Placed := by grind [Reader.Placed]
  rw [Fault.toError, Option.isSome_map]
  exact hplaced

end Json

/-! ### Sketches -/

namespace Sketch

open Json (Reader)

theorem record_placed : record.Placed := by
  intro field hmem read
  simp only [record, List.mem_cons, List.not_mem_nil, or_false] at hmem
  rcases hmem with rfl | rfl | rfl
  · exact (Reader.Placed.listOf Json.placed_string).map _
  · exact (Reader.Placed.listOf Json.placed_value).map _
  · exact Json.placed_string.map _

/-- **The error of a text that holds no sketch has a line and a column**, unless the text holds one
with a blank query. -/
theorem parse_malformed_place {text : String} {e : Json.ReadError}
    (h : parse text = .error (.malformed e)) : ∃ place, e.place = some place := by
  have hrun : reader.run (String.ofList (Text.fenceBody text.toList)) = .error e := by
    unfold parse at h
    split at h
    case _ heq =>
      rw [heq]
      exact congrArg _ (SketchError.malformed.inj (Except.error.inj h))
    case _ => split at h <;> cases h
  have hreader : reader.Placed := (record_placed.read ({} : Parts)).map ofParts
  exact Option.isSome_iff_exists.mp (hreader.run hrun)

end Sketch

end Entail
