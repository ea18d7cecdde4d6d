/-
Entail/Proofs/Fencing.lean

A code fence around a text changes nothing.

A fence can be read in several ways: its tag may give up letters to the body, and the blanks at
either end of the body may count as part of it.  The body that is taken is the one of the reading
with the longest tag, then the most blanks in front, then the shortest body (`fenceBody_preferred`).
That leaves no choice: the body is what was put into the fence without the blanks around it, even if
it holds fences or ends in backquotes itself (`fenceBody_between`).  A text that is not in a fence
is read without the blanks around it too (`fenceBody_of_not_fenced`).

Main result: `Sketch.parse_fenced`.
-/
import Entail.Proofs.RoundTrip
import Mathlib.Data.List.TakeWhile

namespace Entail

namespace Text

/-- Without the blanks around it the text starts and ends with the mark of a fence, and the two
marks do not overlap. -/
def Fenced (s : List Char) : Prop :=
  fenceMark <+: trimmed s ∧ fenceMark <:+ trimmed s ∧ 6 ≤ (trimmed s).length

instance (s : List Char) : Decidable (Fenced s) :=
  inferInstanceAs (Decidable (_ ∧ _ ∧ _))

section

variable {s inner tag ws ws' : List Char}

/-- A text that is not in a fence is its own body, without the blanks around it. -/
theorem fenceBody_of_not_fenced (h : ¬ Fenced s) : fenceBody s = trimmed s := by
  refine if_neg fun hmarks => h ?_
  simp only [Bool.and_eq_true, List.isPrefixOf_iff_prefix, List.isSuffixOf_iff_suffix,
    decide_eq_true_eq] at hmarks
  exact ⟨hmarks.1.1, hmarks.1.2, hmarks.2⟩

/-- What stands between the marks of a fence. -/
theorem take_drop_marked (inner : List Char) :
    ((fenceMark ++ (inner ++ fenceMark)).drop 3).take
      ((fenceMark ++ (inner ++ fenceMark)).length - 6) = inner := by
  have hlength : (fenceMark ++ (inner ++ fenceMark)).length - 6 = inner.length := by
    simp only [fenceMark, List.length_append, List.length_replicate]
    omega
  have hdrop : (fenceMark ++ (inner ++ fenceMark)).drop 3 = inner ++ fenceMark := rfl
  rw [hlength, hdrop, List.take_left]

theorem fenced_of_trimmed (h : trimmed s = fenceMark ++ (inner ++ fenceMark)) : Fenced s := by
  rw [Fenced, h]
  refine ⟨List.prefix_append _ _, (List.suffix_append _ _).trans (List.suffix_append _ _), ?_⟩
  simp only [fenceMark, List.length_append, List.length_replicate]
  omega

/-- The body of a text in a fence is what the marks enclose, without the tag and the blanks. -/
theorem fenceBody_of_trimmed (h : trimmed s = fenceMark ++ (inner ++ fenceMark)) :
    fenceBody s = trimmed (inner.dropWhile Char.isAlpha) := by
  have hbody : fenceBody s =
      trimmed ((((trimmed s).drop 3).take ((trimmed s).length - 6)).dropWhile Char.isAlpha) := by
    refine if_pos ?_
    obtain ⟨hopens, hcloses, hlength⟩ := fenced_of_trimmed h
    simp only [Bool.and_eq_true, List.isPrefixOf_iff_prefix, List.isSuffixOf_iff_suffix,
      decide_eq_true_eq]
    exact ⟨⟨hopens, hcloses⟩, hlength⟩
  rw [hbody, h, take_drop_marked]

/-- A text in a fence starts and ends with different marks. -/
theorem Fenced.exists_inner (h : Fenced s) :
    ∃ inner, trimmed s = fenceMark ++ (inner ++ fenceMark) := by
  obtain ⟨⟨u, hu⟩, hcloses, hlength⟩ := h
  have hu' : 3 ≤ u.length := by
    rw [← hu, List.length_append, fenceMark, List.length_replicate] at hlength
    omega
  have : fenceMark <:+ u := by
    refine List.suffix_of_suffix_length_le (hu ▸ hcloses) (List.suffix_append _ _) ?_
    rwa [fenceMark, List.length_replicate]
  obtain ⟨inner, rfl⟩ := this
  exact ⟨inner, hu.symm⟩

/-! ### Readings of a fence -/

/-- Characters of a class at the front of a text are among those that are taken, and if they are
all of them then the others are what is left. -/
theorem takeWhile_longest {p : Char → Bool} (h : ∀ c ∈ tag, p c = true) (s : List Char) :
    tag.length < ((tag ++ s).takeWhile p).length ∨
      tag.length = ((tag ++ s).takeWhile p).length ∧ (tag ++ s).dropWhile p = s := by
  rw [List.takeWhile_append_of_pos h, List.dropWhile_append_of_pos h, List.length_append]
  cases hs : s.takeWhile p with
  | nil =>
    have hsplit := List.takeWhile_append_dropWhile (p := p) (l := s)
    rw [hs, List.nil_append] at hsplit
    exact .inr ⟨rfl, hsplit⟩
  | cons c taken =>
    rw [List.length_cons]
    exact .inl (by omega)

theorem length_trimEnd_le (hws' : ∀ c ∈ ws', isBlank c = true) (s : List Char) :
    (trimEnd (s ++ ws')).length ≤ s.length := by
  rw [trimEnd_append hws', trimEnd, List.length_reverse]
  exact (List.length_dropWhile_le _ _).trans_eq List.length_reverse

/-- A way to read a text as a fence: its tag, the blanks behind the tag, the body, and the blanks
behind the body. -/
structure Fence where
  tag : List Char
  lead : List Char
  body : List Char
  tail : List Char

namespace Fence

/-- The tag is letters, and the blanks are blanks.  The body is anything. -/
structure Valid (f : Fence) : Prop where
  tag : ∀ c ∈ f.tag, c.isAlpha = true
  lead : ∀ c ∈ f.lead, isBlank c = true
  tail : ∀ c ∈ f.tail, isBlank c = true

/-- What the marks enclose. -/
def enclosed (f : Fence) : List Char := f.tag ++ (f.lead ++ (f.body ++ f.tail))

/-- The text that is read. -/
def text (f : Fence) : List Char := fenceMark ++ (f.enclosed ++ fenceMark)

/-- A longer tag goes first, then more blanks behind it, then a shorter body. -/
def Preferred (f g : Fence) : Prop :=
  g.tag.length < f.tag.length ∨
    g.tag.length = f.tag.length ∧
      (g.lead.length < f.lead.length ∨
        g.lead.length = f.lead.length ∧ f.body.length ≤ g.body.length)

/-- The reading that takes as many letters as there are, then as many blanks as there are, and
leaves as many blanks as there are behind the body. -/
def greedy (inner : List Char) : Fence where
  tag := inner.takeWhile Char.isAlpha
  lead := (inner.dropWhile Char.isAlpha).takeWhile isBlank
  body := trimmed (inner.dropWhile Char.isAlpha)
  tail := ((trimStart (inner.dropWhile Char.isAlpha)).reverse.takeWhile isBlank).reverse

theorem valid_greedy (inner : List Char) : (greedy inner).Valid where
  tag _ hc := List.mem_takeWhile_imp hc
  lead _ hc := List.mem_takeWhile_imp hc
  tail _ hc := List.mem_takeWhile_imp (List.mem_reverse.mp hc)

theorem enclosed_greedy (inner : List Char) : (greedy inner).enclosed = inner := by
  have htail : ∀ s : List Char, trimEnd s ++ (s.reverse.takeWhile isBlank).reverse = s := by
    intro s
    rw [trimEnd, ← List.reverse_append, List.takeWhile_append_dropWhile, List.reverse_reverse]
  rw [Fence.enclosed, greedy, trimmed, htail, trimStart, List.takeWhile_append_dropWhile,
    List.takeWhile_append_dropWhile]

/-- The greedy reading is preferred to every other reading of the same text. -/
theorem greedy_preferred {f : Fence} (hf : f.Valid) : (greedy f.enclosed).Preferred f := by
  rcases takeWhile_longest hf.tag (f.lead ++ (f.body ++ f.tail)) with htag | ⟨htag, hrest⟩
  · exact .inl htag
  · refine .inr ⟨htag, ?_⟩
    rcases takeWhile_longest hf.lead (f.body ++ f.tail) with hlead | ⟨hlead, hrest'⟩
    · refine .inl ?_
      rwa [greedy, Fence.enclosed, hrest]
    · refine .inr ⟨?_, ?_⟩
      · rwa [greedy, Fence.enclosed, hrest]
      · rw [greedy, Fence.enclosed, hrest, trimmed, trimStart, hrest']
        exact length_trimEnd_le hf.tail f.body

end Fence

/-- A text is in a fence if there is a way to read it as one. -/
theorem fenced_iff : Fenced s ↔ ∃ f : Fence, f.Valid ∧ f.text = trimmed s := by
  constructor
  · intro h
    obtain ⟨inner, hs⟩ := h.exists_inner
    refine ⟨.greedy inner, Fence.valid_greedy inner, ?_⟩
    rw [Fence.text, Fence.enclosed_greedy, hs]
  · rintro ⟨f, -, hf⟩
    exact fenced_of_trimmed hf.symm

/-- The body of a text in a fence is the body of the reading that is preferred to all others. -/
theorem fenceBody_preferred (h : Fenced s) :
    ∃ f : Fence, f.Valid ∧ f.text = trimmed s ∧ f.body = fenceBody s ∧
      ∀ g : Fence, g.Valid → g.text = trimmed s → f.Preferred g := by
  obtain ⟨inner, hs⟩ := h.exists_inner
  refine ⟨.greedy inner, Fence.valid_greedy inner, ?_, (fenceBody_of_trimmed hs).symm, ?_⟩
  · rw [Fence.text, Fence.enclosed_greedy, hs]
  · intro g hg hgs
    have hinner : g.enclosed = inner :=
      List.append_cancel_right (List.append_cancel_left (hgs.trans hs))
    exact hinner ▸ Fence.greedy_preferred hg

/-! ### Blanks -/

/-- Blanks around a text are no part of it, whatever the text. -/
theorem trimmed_between (hws : ∀ c ∈ ws, isBlank c = true) (hws' : ∀ c ∈ ws', isBlank c = true)
    (s : List Char) : trimmed (ws ++ (s ++ ws')) = trimmed s := by
  rw [trimmed, trimmed, trimStart_append hws]
  by_cases hs : ∀ c ∈ s, isBlank c = true
  · -- There is no start of the text at which the blanks would end.
    have hnone {u : List Char} (hu : ∀ c ∈ u, isBlank c = true) : trimStart u = [] :=
      List.dropWhile_eq_nil_iff.mpr hu
    rw [trimStart_append hs, hnone hs, hnone hws']
  · have hne : (s.dropWhile isBlank).isEmpty = false := by
      rwa [List.isEmpty_eq_false_iff, Ne, List.dropWhile_eq_nil_iff]
    have hstart : trimStart (s ++ ws') = trimStart s ++ ws' := by
      rw [trimStart, trimStart, List.dropWhile_append, hne]
      rfl
    rw [hstart, trimEnd_append hws']

/-- A blank is no letter. -/
theorem isAlpha_of_isBlank {c : Char} (h : isBlank c = true) : c.isAlpha = false := by
  simp only [isBlank, blankRanges, List.any_cons, List.any_nil, Bool.or_false, Bool.or_eq_true,
    Bool.and_eq_true, decide_eq_true_eq] at h
  unfold Char.isAlpha Char.isUpper Char.isLower
  simp only [Bool.or_eq_false_iff, Bool.and_eq_false_iff, decide_eq_false_iff_not, ge_iff_le,
    UInt32.le_iff_toNat_le, Char.reduceVal, UInt32.reduceToNat, Char.toNat_val]
  omega

/-- Between blanks no letter is at the front, if there is a blank there or the text starts with no
letter. -/
theorem head_between (hws : ∀ c ∈ ws, isBlank c = true) (hws' : ∀ c ∈ ws', isBlank c = true)
    (h : ws ≠ [] ∨ ∀ c ∈ s.head?, c.isAlpha = false) :
    ∀ c ∈ (ws ++ (s ++ ws')).head?, c.isAlpha = false := by
  intro c hc
  cases ws with
  | cons b ws =>
    obtain rfl := Option.some.inj hc
    exact isAlpha_of_isBlank (hws _ List.mem_cons_self)
  | nil =>
    cases s with
    | cons d s => exact h.resolve_left (fun hne => hne rfl) c hc
    | nil => exact isAlpha_of_isBlank (hws' c (List.mem_of_mem_head? hc))

/-! ### A text that is put into a fence -/

/-- The tag is the letters at the front. -/
theorem dropWhile_tag (htag : ∀ c ∈ tag, c.isAlpha = true)
    (hinner : ∀ c ∈ inner.head?, c.isAlpha = false) :
    (tag ++ inner).dropWhile Char.isAlpha = inner := by
  rw [List.dropWhile_append_of_pos htag]
  cases inner with
  | nil => rfl
  | cons c inner =>
    have hc : c.isAlpha = false := hinner c rfl
    exact List.dropWhile_cons_of_neg (by simp [hc])

/-- A text in a fence, without the blanks around it. -/
theorem trimmed_marked (hws : ∀ c ∈ ws, isBlank c = true) (hws' : ∀ c ∈ ws', isBlank c = true)
    (inner : List Char) :
    trimmed (ws ++ (fenceMark ++ (inner ++ fenceMark) ++ ws')) =
      fenceMark ++ (inner ++ fenceMark) :=
  trimmed_padded hws hws' (c := '\x60') (by decide) rfl (d := '\x60') (by decide)
    (u := fenceMark ++ (inner ++ ['\x60', '\x60'])) (by simp [fenceMark, List.replicate])

/-- The body of a fence is what was put into it, without the blanks around it. -/
theorem fenceBody_between {lead tail : List Char} (hws : ∀ c ∈ ws, isBlank c = true)
    (htag : ∀ c ∈ tag, c.isAlpha = true) (hlead : ∀ c ∈ lead, isBlank c = true)
    (htail : ∀ c ∈ tail, isBlank c = true) (hws' : ∀ c ∈ ws', isBlank c = true)
    (h : lead ≠ [] ∨ ∀ c ∈ s.head?, c.isAlpha = false) :
    fenceBody (ws ++ (fenceMark ++ (tag ++ (lead ++ (s ++ tail)) ++ fenceMark) ++ ws')) =
      trimmed s := by
  rw [fenceBody_of_trimmed (trimmed_marked hws hws' _),
    dropWhile_tag htag (head_between hlead htail h), trimmed_between hlead htail]

end

end Text

/-- A text in a fence is read as it is read without the fence: the same sketch or the same error,
which names the same place. -/
theorem Sketch.parse_fenced {before tag lead body tail after : String}
    (hbefore : Text.isBlankText before = true) (htag : ∀ c ∈ tag.toList, c.isAlpha = true)
    (hlead : Text.isBlankText lead = true) (htail : Text.isBlankText tail = true)
    (hafter : Text.isBlankText after = true) (hbody : ¬ Text.Fenced body.toList)
    (hopen : lead ≠ "" ∨ ∀ c ∈ body.toList.head?, c.isAlpha = false) :
    parse (before ++ "```" ++ tag ++ lead ++ body ++ tail ++ "```" ++ after) = parse body := by
  have hopen' : lead.toList ≠ [] ∨ ∀ c ∈ body.toList.head?, c.isAlpha = false :=
    hopen.imp_left fun hne hnil => hne (String.toList_eq_nil_iff.mp hnil)
  have hmark : "```".toList = Text.fenceMark := rfl
  have htext : (before ++ "```" ++ tag ++ lead ++ body ++ tail ++ "```" ++ after).toList =
      before.toList ++ (Text.fenceMark ++ (tag.toList ++ (lead.toList ++
        (body.toList ++ tail.toList)) ++ Text.fenceMark) ++ after.toList) := by
    simp only [String.toList_append, hmark, List.append_assoc]
  have hsame : Text.fenceBody
      (before ++ "```" ++ tag ++ lead ++ body ++ tail ++ "```" ++ after).toList =
        Text.fenceBody body.toList := by
    rw [htext, Text.fenceBody_of_not_fenced hbody]
    exact Text.fenceBody_between (List.all_eq_true.mp hbefore) htag (List.all_eq_true.mp hlead)
      (List.all_eq_true.mp htail) (List.all_eq_true.mp hafter) hopen'
  unfold parse
  rw [hsame]

/-- A sketch with a fence in its query is read out of a fence.  A text that is no sketch and ends in
backquotes is no sketch in a fence either, and the place is one in the text. -/
theorem Sketch.parse_fenced_backquotes :
    let sketch : Sketch := { query := "```json ```" }
    (¬ Text.Fenced sketch.json.toList ∧ ¬ Text.Fenced "p``".toList ∧
      (∀ s ∈ ["\u2003\n", "\n", " ", ""], Text.isBlankText s = true) ∧
      ∀ c ∈ "json".toList, c.isAlpha = true) ∧
    parse ("\u2003\n" ++ "```" ++ "json" ++ "\n" ++ sketch.json ++ " " ++ "```" ++ "\n") =
      .ok sketch ∧
    parse ("" ++ "```" ++ "json" ++ " " ++ "p``" ++ "" ++ "```" ++ "") =
      .error (.malformed ⟨.expectedValue, some ⟨1, 1⟩⟩) := by
  intro sketch
  have hsketch : ¬ Text.Fenced sketch.json.toList := by decide
  have hends : ¬ Text.Fenced "p``".toList := by decide
  have htag : ∀ c ∈ "json".toList, c.isAlpha = true := List.all_eq_true.mp (by decide)
  refine ⟨⟨hsketch, hends, by decide, htag⟩, ?_, ?_⟩
  · rw [parse_fenced (by decide) htag (by decide) (by decide) (by decide) hsketch
      (.inl (by decide))]
    exact parse_json (by decide)
  · rw [parse_fenced (by decide) htag (by decide) (by decide) (by decide) hends
      (.inl (by decide))]
    rfl

end Entail
