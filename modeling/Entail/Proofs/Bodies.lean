/-
Entail/Proofs/Bodies.lean

The body of a text that is a document.

A document may stand bare, or in a code fence (`Enclosed`).  A bare one is in no fence, since no
value starts with a backquote, and as values neither start nor end with a blank, its body is the
document without the blanks around it (`Document.body`).  So the body is what a reader has to be
told about, in either case (`Enclosed.body`).
-/
import Entail.Document.Sketch
import Entail.Proofs.Numerals
import Mathlib.Data.List.Basic

namespace Entail

/-! ### Blanks around a text -/

namespace Text

theorem isBlank_of_isSpace {c : Char} (h : Json.isSpace c = true) : isBlank c = true := by
  simp only [Json.isSpace, Bool.or_eq_true, beq_iff_eq] at h
  rcases h with ((rfl | rfl) | rfl) | rfl <;> decide

theorem trimStart_append {ws : List Char} (hws : ∀ c ∈ ws, isBlank c = true) (s : List Char) :
    trimStart (ws ++ s) = trimStart s :=
  List.dropWhile_append_of_pos hws

theorem trimEnd_append {ws : List Char} (hws : ∀ c ∈ ws, isBlank c = true) (s : List Char) :
    trimEnd (s ++ ws) = trimEnd s := by
  rw [trimEnd, trimEnd, List.reverse_append,
    List.dropWhile_append_of_pos fun c hc => hws c (List.mem_reverse.mp hc)]

/-- A text that starts and ends with a character that is no blank is found between any blanks. -/
theorem trimmed_padded {ws s ws' : List Char} (hws : ∀ c ∈ ws, isBlank c = true)
    (hws' : ∀ c ∈ ws', isBlank c = true) {c d : Char} {r u : List Char} (hc : isBlank c = false)
    (hs : s = c :: r) (hd : isBlank d = false) (hs' : s = u ++ [d]) :
    trimmed (ws ++ (s ++ ws')) = s := by
  have hstart : trimStart (s ++ ws') = s ++ ws' := by
    rw [hs, List.cons_append, trimStart, List.dropWhile_cons_of_neg (by simp [hc])]
  have hend : trimEnd s = s := by
    rw [hs', trimEnd, List.reverse_append, List.reverse_singleton, List.singleton_append,
      List.dropWhile_cons_of_neg (by simp [hd]), List.reverse_cons, List.reverse_reverse]
  rw [trimmed, trimStart_append hws, hstart, trimEnd_append hws', hend]

/-- A text that does not start with the mark of a fence has none. -/
theorem fenceBody_of_head {s : List Char} {c : Char} {r : List Char} (hs : trimmed s = c :: r)
    (hc : c ≠ '\x60') : fenceBody s = c :: r := by
  have hprefix : fenceMark.isPrefixOf (c :: r) = false := by
    have : ('\x60' == c) = false := beq_false_of_ne hc.symm
    simp [fenceMark, List.replicate, List.isPrefixOf, this]
  simp only [fenceBody, hs, hprefix, Bool.false_and]
  rfl

end Text

namespace Json

variable {depth : Nat} {j : Json} {t : List Char}

/-! ### How values start and end -/

theorem isBlank_of_isDigit {c : Char} (h : c.isDigit = true) : Text.isBlank c = false := by
  simp only [Char.isDigit, Bool.and_eq_true, decide_eq_true_eq, ge_iff_le, UInt32.le_iff_toNat_le,
    Char.reduceVal, UInt32.reduceToNat, Char.toNat_val] at h
  simp only [Text.isBlank, Text.blankRanges, List.any_cons, List.any_nil, Bool.or_false,
    Bool.or_eq_false_iff, Bool.and_eq_false_iff, decide_eq_false_iff_not]
  omega

/-- The last character is there, and no blank. -/
def Ends (t : List Char) : Prop := ∃ u d, t = u ++ [d] ∧ Text.isBlank d = false

theorem Ends.behind (h : Ends t) (s : List Char) : Ends (s ++ t) := by
  obtain ⟨u, d, rfl, hd⟩ := h
  exact ⟨s ++ u, d, (List.append_assoc s u [d]).symm, hd⟩

theorem Digits.ends (h : Digits t) : Ends t :=
  ⟨t.dropLast, t.getLast h.1, (List.dropLast_append_getLast h.1).symm,
    isBlank_of_isDigit (h.2 _ (List.getLast_mem h.1))⟩

theorem Whole.ends (h : Whole t) : Ends t := by
  cases h with
  | zero => exact ⟨[], '0', rfl, by decide⟩
  | digits hc _ hds =>
    exact Digits.ends ⟨List.cons_ne_nil _ _, List.forall_mem_cons.mpr ⟨hc, hds⟩⟩

/-- Whichever part of a number is its last, that part ends with a digit. -/
theorem Magnitude.ends (h : Magnitude t) : Ends t := by
  obtain ⟨hwhole, hfraction, hexponent⟩ := h
  cases hexponent with
  | mark _ _ hds => exact (((hds.ends.behind _).behind [_]).behind _).behind _
  | none =>
    rw [List.append_nil]
    cases hfraction with
    | point hds => exact (hds.ends.behind ['.']).behind _
    | none =>
      rw [List.append_nil]
      exact hwhole.ends

theorem NumberText.ends (h : NumberText t) : Ends t := by
  cases h with
  | plain hm => exact hm.ends
  | negative hm => exact hm.ends.behind ['-']

theorem StringText.ends {cs : List Char} (h : StringText cs t) : Ends t := by
  induction h with
  | close => exact ⟨[], '"', rfl, by decide⟩
  | char _ _ ih => exact ih.behind _

theorem WritesItems.ends {first : Bool} {vs : List Json} (h : WritesItems depth first vs t) :
    Ends t := by
  induction vs generalizing first t with
  | nil =>
    cases h with
    | close _ => exact ⟨_, ']', rfl, by decide⟩
  | cons v vs ih =>
    cases h with
    | more _ _ hvs => exact ((ih hvs).behind _).behind _

theorem WritesMembers.ends {first : Bool} {ms : List (String × Json)}
    (h : WritesMembers depth first ms t) : Ends t := by
  induction ms generalizing first t with
  | nil =>
    cases h with
    | close _ => exact ⟨_, '\x7d', rfl, by decide⟩
  | cons m ms ih =>
    cases h with
    | @more _ _ lead key ws ws' v u _ _ _ _ _ _ _ _ hms =>
      exact (((((((ih hms).behind v).behind ws').behind [':']).behind ws).behind key).behind
        ['"']).behind lead

theorem Writes.ends (h : Writes depth j t) : Ends t := by
  cases h with
  | null => exact ⟨['n', 'u', 'l'], 'l', rfl, by decide⟩
  | yes => exact ⟨['t', 'r', 'u'], 'e', rfl, by decide⟩
  | no => exact ⟨['f', 'a', 'l', 's'], 'e', rfl, by decide⟩
  | number hn _ => exact hn.ends
  | text hs => exact hs.ends.behind ['"']
  | list hvs => exact hvs.ends.behind ['[']
  | object hms => exact hms.ends.behind ['\x7b']

theorem NumberText.starts (h : NumberText t) :
    ∃ c r, t = c :: r ∧ Text.isBlank c = false ∧ c ≠ '\x60' := by
  cases h with
  | negative _ => exact ⟨'-', _, rfl, by decide, by decide⟩
  | plain hm =>
    obtain ⟨hwhole, -, -⟩ := hm
    cases hwhole with
    | zero => exact ⟨'0', _, rfl, by decide, by decide⟩
    | digits hc _ _ => exact ⟨_, _, rfl, isBlank_of_isDigit hc, ne_of_isDigit hc (by decide)⟩

theorem Writes.starts (h : Writes depth j t) :
    ∃ c r, t = c :: r ∧ Text.isBlank c = false ∧ c ≠ '\x60' := by
  cases h with
  | number hn _ => exact hn.starts
  | null | yes | no | text _ | list _ | object _ => exact ⟨_, _, rfl, by decide, by decide⟩

/-! ### Bodies -/

variable {text : String}

/-- The body of a document is the document without the blanks around it. -/
theorem Document.body (h : Document text j) :
    Document (String.ofList (Text.fenceBody text.toList)) j := by
  obtain ⟨ws, t, ws', hws, ht, hws', htext⟩ := h
  obtain ⟨c, r, hc, hfirst, hne⟩ := ht.starts
  obtain ⟨u, d, hd, hlast⟩ := ht.ends
  have htrim : Text.trimmed text.toList = t := by
    rw [htext]
    exact Text.trimmed_padded (fun c hc => Text.isBlank_of_isSpace (hws c hc))
      (fun c hc => Text.isBlank_of_isSpace (hws' c hc)) hfirst hc hlast hd
  refine ⟨[], t, [], Blanks.nil, ht, Blanks.nil, ?_⟩
  rw [String.toList_ofList, Text.fenceBody_of_head (htrim.trans hc) hne, List.nil_append,
    List.append_nil, hc]

/-- The text is a document, bare or in a code fence. -/
def Enclosed (text : String) (j : Json) : Prop :=
  Document text j ∨ Document (String.ofList (Text.fenceBody text.toList)) j

theorem Enclosed.body (h : Enclosed text j) :
    Document (String.ofList (Text.fenceBody text.toList)) j :=
  h.elim Document.body id

end Json

end Entail
