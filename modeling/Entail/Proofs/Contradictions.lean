/-
Entail/Proofs/Contradictions.lean

Atoms that facts give both values.

They can be found in two ways.  One looks at entries only as they are written: it keeps for each
name which values entries of the kind `fact` have stated (`Tally`), and picks the names with both.
That is how they are reported.  The other goes by the rules: an atom is in contradiction if both
facts about it are compiled (`clashes`).  Both classify facts alike (`Entry.rule?_eq_fact_iff`) and
both list names in ascending order, so they find the same list (`contradictions_eq_clashes`).

A sketch with such an atom has no model, whatever it asks.  If it has no implication either, there
is nothing else that can keep it from having one: a valuation that makes true just what a fact
makes true is in accord with all rules, and a name without a fact may have either value
(`exists_holds_facts_iff`).

Main result: `evaluate_of_contradictions`.
-/
import Entail.Proofs.ByteOrder
import Entail.Proofs.Entailment
import Mathlib.Data.List.Sort

namespace Entail

/-! ### Ascending lists of names -/

/-- Insert a name into an ascending list, once. -/
def insertName (name : String) : List String → List String
  | [] => [name]
  | head :: rest =>
    if name < head then name :: head :: rest
    else if name = head then head :: rest
    else head :: insertName name rest

section

variable {a name : String} {names : List String}

theorem mem_insertName : a ∈ insertName name names ↔ a = name ∨ a ∈ names := by
  induction names with
  | nil => exact List.mem_cons
  | cons head rest ih =>
    unfold insertName
    split_ifs with hlt heq
    · exact List.mem_cons
    · rw [heq, List.mem_cons, ← or_assoc, or_self]
    · rw [List.mem_cons, ih, List.mem_cons, or_left_comm]

theorem pairwise_insertName (h : names.Pairwise (· < ·)) :
    (insertName name names).Pairwise (· < ·) := by
  induction names with
  | nil => exact List.pairwise_singleton _ _
  | cons head rest ih =>
    obtain ⟨hhead, hrest⟩ := List.pairwise_cons.mp h
    unfold insertName
    split_ifs with hlt heq
    · refine List.pairwise_cons.mpr ⟨List.forall_mem_cons.mpr ⟨hlt, fun b hb => ?_⟩, h⟩
      exact hlt.trans (hhead b hb)
    · exact h
    · refine List.pairwise_cons.mpr ⟨fun b hb => ?_, ih hrest⟩
      rcases mem_insertName.mp hb with rfl | hb
      · exact lt_of_le_of_ne (not_lt.mp hlt) (Ne.symm heq)
      · exact hhead b hb

theorem mem_foldr_insertName : a ∈ names.foldr insertName [] ↔ a ∈ names := by
  induction names with
  | nil => exact Iff.rfl
  | cons name names ih => rw [List.foldr_cons, mem_insertName, ih, List.mem_cons]

theorem pairwise_foldr_insertName (names : List String) :
    (names.foldr insertName []).Pairwise (· < ·) := by
  induction names with
  | nil => exact .nil
  | cons name names ih => exact pairwise_insertName ih

end

/-! ### Facts among the rules -/

/-- The atoms of which rules hold both facts, in ascending order of their code points. -/
def clashes (rules : List Rule) : List String :=
  (rules.filterMap fun
    | .fact name true => if .fact name false ∈ rules then some name else none
    | _ => none).foldr insertName []

theorem mem_clashes {rules : List Rule} {name : String} :
    name ∈ clashes rules ↔ .fact name true ∈ rules ∧ .fact name false ∈ rules := by
  rw [clashes, mem_foldr_insertName, List.mem_filterMap]
  constructor
  · rintro ⟨r, hr, hname⟩
    split at hname
    case _ s =>
      obtain ⟨hfalse, hs⟩ := Option.ite_none_right_eq_some.mp hname
      obtain rfl := Option.some.inj hs
      exact ⟨hr, hfalse⟩
    case _ => cases hname
  · rintro ⟨htrue, hfalse⟩
    exact ⟨.fact name true, htrue, if_pos hfalse⟩

theorem pairwise_clashes (rules : List Rule) : (clashes rules).Pairwise (· < ·) :=
  pairwise_foldr_insertName _

/-! ### Facts as they are written -/

theorem Entry.rule?_eq_fact_iff {e : Entry} {name : String} {value : Bool} :
    e.rule? = .ok (.fact name value) ↔
      e.kind = .fact ∧ e.subject = some name ∧ name ≠ "" ∧ e.assertedValue = value := by
  cases hk : e.kind with
  | fact =>
    rw [Entry.rule?_of_fact hk]
    constructor
    · rintro ⟨s, hs, hne, hrule⟩
      obtain ⟨rfl, rfl⟩ := Rule.fact.inj hrule
      exact ⟨rfl, hs, hne, rfl⟩
    · rintro ⟨-, hs, hne, rfl⟩
      exact ⟨name, hs, hne, rfl⟩
  | imply => simp [Entry.rule?_of_imply hk]
  | unknown => simp [Entry.rule?_of_unknown hk]

namespace Tally

/-- The value has been noted for the name. -/
def Saw (t : Tally) (name : String) (value : Bool) : Prop :=
  ∃ seen, (name, seen) ∈ t ∧ has value seen = true

section

variable {t : Tally} {a name : String} {b value : Bool} {seen : Bool × Bool} {e : Entry}
  {entries : List Entry}

theorem has_mark : has b (mark value seen) = (b == value || has b seen) := by
  cases b <;> cases value <;> rfl

theorem has_mark_new : has b (mark value (false, false)) = (b == value) := by
  cases b <;> cases value <;> rfl

theorem not_saw_nil : ¬ Saw [] a b := by
  rintro ⟨seen, hmem, -⟩
  exact List.not_mem_nil hmem

theorem saw_cons : Saw ((name, seen) :: t) a b ↔ (a = name ∧ has b seen = true) ∨ t.Saw a b := by
  simp only [Saw, List.mem_cons, Prod.mk.injEq, or_and_right, exists_or, and_assoc,
    exists_and_left, exists_eq_left]

theorem saw_note : (t.note name value).Saw a b ↔ (a = name ∧ b = value) ∨ t.Saw a b := by
  induction t with
  | nil => rw [note, saw_cons, has_mark_new, beq_iff_eq]
  | cons first rest ih =>
    obtain ⟨head, seen⟩ := first
    unfold note
    split_ifs with hlt heq
    · rw [saw_cons, has_mark_new, beq_iff_eq]
    · rw [saw_cons, saw_cons, has_mark, Bool.or_eq_true, beq_iff_eq, heq, and_or_left, or_assoc]
    · rw [saw_cons, saw_cons, ih, or_left_comm]

theorem names_note : (t.note name value).map Prod.fst = insertName name (t.map Prod.fst) := by
  induction t with
  | nil => rfl
  | cons first rest ih =>
    simp only [note, insertName, List.map_cons]
    split_ifs <;> simp only [List.map_cons, ih]

/-- Noting an entry is noting its fact, if it is one. -/
theorem add_eq (t : Tally) (e : Entry) :
    (∃ name value, e.rule? = .ok (.fact name value) ∧ t.add e = t.note name value) ∨
      (∀ name value, e.rule? ≠ .ok (.fact name value)) ∧ t.add e = t := by
  unfold add
  split
  case _ name hkind hsubject =>
    by_cases hempty : name = ""
    · refine .inr ⟨fun s v hrule => ?_, if_pos hempty⟩
      obtain ⟨-, hs, hne, -⟩ := Entry.rule?_eq_fact_iff.mp hrule
      exact hne (Option.some.inj (hs.symm.trans hsubject) ▸ hempty)
    · exact .inl ⟨name, e.assertedValue,
        Entry.rule?_eq_fact_iff.mpr ⟨hkind, hsubject, hempty, rfl⟩, if_neg hempty⟩
  case _ hother =>
    refine .inr ⟨fun s v hrule => ?_, rfl⟩
    obtain ⟨hkind, hs, -, -⟩ := Entry.rule?_eq_fact_iff.mp hrule
    exact hother s hkind hs

theorem saw_add : (t.add e).Saw a b ↔ e.rule? = .ok (.fact a b) ∨ t.Saw a b := by
  rcases add_eq t e with ⟨name, value, hrule, hadd⟩ | ⟨hnone, hadd⟩
  · rw [hadd, hrule, saw_note, Except.ok.injEq, Rule.fact.injEq]
    exact or_congr_left (and_congr eq_comm eq_comm)
  · rw [hadd, or_iff_right (hnone a b)]

theorem pairwise_names_add (h : (t.map Prod.fst).Pairwise (· < ·)) :
    ((t.add e).map Prod.fst).Pairwise (· < ·) := by
  rcases add_eq t e with ⟨name, value, -, hadd⟩ | ⟨-, hadd⟩
  · rw [hadd, names_note]
    exact pairwise_insertName h
  · rw [hadd]
    exact h

theorem saw_foldl :
    (entries.foldl add t).Saw a b ↔ .fact a b ∈ compiled entries ∨ t.Saw a b := by
  induction entries generalizing t with
  | nil => exact (or_iff_right List.not_mem_nil).symm
  | cons e entries ih =>
    rw [List.foldl_cons, ih, saw_add]
    simp only [mem_compiled, List.mem_cons, exists_eq_or_imp]
    rw [or_left_comm, or_assoc]

theorem pairwise_names_foldl (h : (t.map Prod.fst).Pairwise (· < ·)) :
    ((entries.foldl add t).map Prod.fst).Pairwise (· < ·) := by
  induction entries generalizing t with
  | nil => exact h
  | cons e entries ih => exact ih (pairwise_names_add h)

theorem pairwise_both (h : (t.map Prod.fst).Pairwise (· < ·)) : t.both.Pairwise (· < ·) :=
  h.sublist (List.filter_sublist.map Prod.fst)

theorem mem_both (h : (t.map Prod.fst).Pairwise (· < ·)) :
    a ∈ t.both ↔ t.Saw a true ∧ t.Saw a false := by
  simp only [both, List.mem_map, List.mem_filter, Bool.and_eq_true]
  constructor
  · rintro ⟨⟨a, seen⟩, ⟨hmem, htrue, hfalse⟩, rfl⟩
    exact ⟨⟨seen, hmem, htrue⟩, ⟨seen, hmem, hfalse⟩⟩
  · rintro ⟨⟨seen, hmem, htrue⟩, ⟨seen', hmem', hfalse⟩⟩
    -- a name has one place
    obtain rfl : seen = seen' :=
      congrArg Prod.snd (List.inj_on_of_nodup_map h.nodup hmem hmem' rfl)
    exact ⟨(a, seen), ⟨hmem, htrue, hfalse⟩, rfl⟩

end

end Tally

section

variable {entries : List Entry} {name : String}

theorem pairwise_names_ofEntries (entries : List Entry) :
    ((Tally.ofEntries entries).map Prod.fst).Pairwise (· < ·) :=
  Tally.pairwise_names_foldl .nil

/-- The contradictions are the names of which both facts are compiled. -/
theorem mem_contradictions :
    name ∈ contradictions entries ↔
      .fact name true ∈ compiled entries ∧ .fact name false ∈ compiled entries := by
  rw [contradictions, Tally.mem_both (pairwise_names_ofEntries entries), Tally.ofEntries,
    Tally.saw_foldl, Tally.saw_foldl, or_iff_left Tally.not_saw_nil, or_iff_left Tally.not_saw_nil]

theorem pairwise_contradictions (entries : List Entry) :
    (contradictions entries).Pairwise (· < ·) :=
  Tally.pairwise_both (pairwise_names_ofEntries entries)

/-- **Going by the entries and going by the rules finds the same contradictions.** -/
theorem contradictions_eq_clashes (entries : List Entry) :
    contradictions entries = clashes (compiled entries) :=
  (pairwise_contradictions entries).eq_of_mem_iff (pairwise_clashes _) fun _ =>
    mem_contradictions.trans mem_clashes.symm

/-- An entry that is no rule has no part in contradictions. -/
theorem contradictions_skip {e : Entry} {d : Defect} (h : e.rule? = .error d)
    (before after : List Entry) :
    contradictions (before ++ e :: after) = contradictions (before ++ after) := by
  have hadd (t : Tally) : t.add e = t := by
    rcases t.add_eq e with ⟨name, value, hrule, -⟩ | ⟨-, hadd⟩
    · cases h.symm.trans hrule
    · exact hadd
  rw [contradictions, contradictions, Tally.ofEntries, Tally.ofEntries, List.foldl_append,
    List.foldl_cons, hadd, ← List.foldl_append]

theorem not_both_of_eq_nil {sketch : Sketch} (h : contradictions sketch.entries = [])
    (s : String) : ¬ (.fact s true ∈ sketch.rules ∧ .fact s false ∈ sketch.rules) := by
  intro hboth
  have hmem : s ∈ contradictions sketch.entries := mem_contradictions.mpr hboth
  rw [h] at hmem
  exact List.not_mem_nil hmem

end

/-! ### Models -/

section

variable {rules : List Rule} {name : String} {b : Bool}

/-- Rules that give an atom both values have no model. -/
theorem not_exists_holds_of_facts (htrue : .fact name true ∈ rules)
    (hfalse : .fact name false ∈ rules) : ¬ ∃ ρ : Valuation, ∀ r ∈ rules, r.Holds ρ := by
  rintro ⟨ρ, hρ⟩
  have htrue' : ρ name = true := hρ _ htrue
  have hfalse' : ρ name = false := hρ _ hfalse
  exact Bool.false_ne_true (hfalse'.symm.trans htrue')

/-- Facts alone can hold, with a value for a name, unless they give an atom both values or the name
the other value. -/
theorem exists_holds_facts_iff (hfacts : ∀ r ∈ rules, ∃ s v, r = .fact s v) :
    (∃ ρ : Valuation, (∀ r ∈ rules, r.Holds ρ) ∧ ρ name = b) ↔
      (∀ s, ¬ (.fact s true ∈ rules ∧ .fact s false ∈ rules)) ∧ .fact name (!b) ∉ rules := by
  classical
  constructor
  · rintro ⟨ρ, hρ, hname⟩
    refine ⟨fun s hs => not_exists_holds_of_facts hs.1 hs.2 ⟨ρ, hρ⟩, fun hother => ?_⟩
    have hvalue : ρ name = !b := hρ _ hother
    rw [hname] at hvalue
    exact (Bool.eq_not_self b).mp hvalue
  · rintro ⟨hconsistent, hother⟩
    -- true is what a fact makes true, and the name has the value asked for
    let ρ : Valuation := Function.update (fun s => decide (.fact s true ∈ rules)) name b
    refine ⟨ρ, fun r hr => ?_, Function.update_self ..⟩
    obtain ⟨s, v, rfl⟩ := hfacts r hr
    show ρ s = v
    by_cases hs : s = name
    · subst hs
      have hv : v ≠ !b := by
        rintro rfl
        exact hother hr
      rw [Bool.eq_not_of_ne hv, Bool.not_not]
      exact Function.update_self ..
    · have hρ : ρ s = decide (.fact s true ∈ rules) := Function.update_of_ne hs ..
      rw [hρ]
      cases v with
      | true => exact decide_eq_true hr
      | false => exact decide_eq_false fun htrue => hconsistent s ⟨htrue, hr⟩

end

/-! ### Decisions -/

section

variable [SatEngine]

theorem evaluate_contradictions (sketch : Sketch) :
    (sketch.evaluate Solver.fresh).1.report.contradictions = contradictions sketch.entries := rfl

/-- A sketch with contradictions is inconsistent. -/
theorem decision_of_contradictions (correct : SatEngine.Correct) {sketch : Sketch}
    (h : contradictions sketch.entries ≠ []) :
    (sketch.evaluate Solver.fresh).1.decision = .ofOutcomes .unsat .unsat := by
  obtain ⟨s, hs⟩ := List.exists_mem_of_ne_nil _ h
  obtain ⟨htrue, hfalse⟩ := mem_contradictions.mp hs
  have hunsat : ∀ b, (sketch.evaluate Solver.fresh).1.decision.outcome b = .unsat := by
    intro b
    rw [(evaluate_outcome correct sketch b).2]
    rintro ⟨ρ, hρ, -⟩
    exact not_exists_holds_of_facts htrue hfalse ⟨ρ, hρ⟩
  rw [evaluate_eq_ofOutcomes]
  exact congrArg₂ Decision.ofOutcomes (hunsat true) (hunsat false)

/-- Where all rules are facts and none contradict, a check fails just for the value that a fact
denies. -/
theorem outcome_of_facts (correct : SatEngine.Correct) {sketch : Sketch}
    (hfacts : ∀ r ∈ sketch.rules, ∃ s v, r = .fact s v)
    (hnone : contradictions sketch.entries = []) (b : Bool) :
    (sketch.evaluate Solver.fresh).1.decision.outcome b =
      if .fact sketch.query (!b) ∈ sketch.rules then .unsat else .sat := by
  obtain ⟨hsat, hunsat⟩ := evaluate_outcome correct sketch b
  rw [exists_holds_facts_iff hfacts, and_iff_right (not_both_of_eq_nil hnone)] at hsat hunsat
  split_ifs with hother
  · exact hunsat.mpr (not_not_intro hother)
  · exact hsat.mpr hother

/-- The verdict and the reason then are what the facts about the query say. -/
theorem verdict_of_facts (correct : SatEngine.Correct) {sketch : Sketch}
    (hfacts : ∀ r ∈ sketch.rules, ∃ s v, r = .fact s v)
    (hnone : contradictions sketch.entries = []) :
    let d := (sketch.evaluate Solver.fresh).1.decision
    d.reason ≠ .inconsistent ∧
    (d.verdict = .yes ↔ .fact sketch.query true ∈ sketch.rules) ∧
    (d.verdict = .no ↔ .fact sketch.query false ∈ sketch.rules) ∧
    (d.verdict = .unknown ∧ d.reason = .underdetermined ↔
      .fact sketch.query true ∉ sketch.rules ∧ .fact sketch.query false ∉ sketch.rules) := by
  intro d
  have hd : d = .ofOutcomes (if .fact sketch.query false ∈ sketch.rules then .unsat else .sat)
      (if .fact sketch.query true ∈ sketch.rules then .unsat else .sat) :=
    (evaluate_eq_ofOutcomes sketch).trans (congrArg₂ Decision.ofOutcomes
      (outcome_of_facts correct hfacts hnone true) (outcome_of_facts correct hfacts hnone false))
  rw [hd]
  by_cases htrue : .fact sketch.query true ∈ sketch.rules
  · have hfalse : .fact sketch.query false ∉ sketch.rules := fun hfalse =>
      not_both_of_eq_nil hnone sketch.query ⟨htrue, hfalse⟩
    simp [htrue, hfalse, Decision.ofOutcomes, Decision.judge]
  · by_cases hfalse : .fact sketch.query false ∈ sketch.rules <;>
      simp [htrue, hfalse, Decision.ofOutcomes, Decision.judge]

end

/-- **Contradictions are what the decision finds inconsistent.**  The atoms reported are listed in
the order of their bytes.  They are those of which both facts are compiled, and also those for which
entries of the kind `fact` state both values, as the entries are written; either way gives the list
as it is.  If there are any, no query is answered.  Where no rule is an implication, only they are
in the way of a model: otherwise the query is answered as a fact says, or left open if none says
anything. -/
theorem evaluate_of_contradictions [SatEngine] (correct : SatEngine.Correct) (sketch : Sketch) :
    let e := (sketch.evaluate Solver.fresh).1
    let found := e.report.contradictions
    found.Pairwise (fun s t => Text.utf8 s < Text.utf8 t) ∧
    (∀ s, s ∈ found ↔ .fact s true ∈ sketch.rules ∧ .fact s false ∈ sketch.rules) ∧
    found = (Tally.ofEntries sketch.entries).both ∧
    found = clashes sketch.rules ∧
    (found ≠ [] → ∀ query, let d := ({ sketch with query }.evaluate Solver.fresh).1.decision
      d.verdict = .unknown ∧ d.reason = .inconsistent) ∧
    ((∀ ps c v, .implication ps c v ∉ sketch.rules) →
      (e.decision.reason = .inconsistent ↔ found ≠ []) ∧
      (found = [] →
        (e.decision.verdict = .yes ↔ .fact sketch.query true ∈ sketch.rules) ∧
        (e.decision.verdict = .no ↔ .fact sketch.query false ∈ sketch.rules) ∧
        (e.decision.verdict = .unknown ∧ e.decision.reason = .underdetermined ↔
          .fact sketch.query true ∉ sketch.rules ∧ .fact sketch.query false ∉ sketch.rules))) := by
  intro e found
  have hfound : found = contradictions sketch.entries := evaluate_contradictions sketch
  have hunsat : found ≠ [] → e.decision = .ofOutcomes .unsat .unsat := fun h =>
    decision_of_contradictions correct (hfound ▸ h)
  refine ⟨?_, fun s => ?_, hfound, ?_, fun h query => ?_, fun hno => ?_⟩
  · rw [hfound]
    exact (pairwise_contradictions sketch.entries).imp Text.utf8_lt_utf8_iff.mpr
  · rw [hfound]
    exact mem_contradictions
  · rw [hfound]
    exact contradictions_eq_clashes sketch.entries
  · have hd : ({ sketch with query }.evaluate Solver.fresh).1.decision =
        .ofOutcomes .unsat .unsat :=
      decision_of_contradictions correct (hfound ▸ h)
    rw [hd]
    exact ⟨rfl, rfl⟩
  · have hfacts : ∀ r ∈ sketch.rules, ∃ s v, r = .fact s v := by
      intro r hr
      cases r with
      | fact s v => exact ⟨s, v, rfl⟩
      | implication ps c v => exact absurd hr (hno ps c v)
    refine ⟨⟨fun hreason hnone => ?_, fun h => by rw [hunsat h]; rfl⟩, fun hnone => ?_⟩
    · exact (verdict_of_facts correct hfacts (hfound ▸ hnone)).1 hreason
    · exact (verdict_of_facts correct hfacts (hfound ▸ hnone)).2

/-- Facts about two atoms that contradict each other, one with its value left out; facts about an
empty name, which are no rules; and an implication that denies an atom, which is no fact. -/
def disputedSketch : Sketch :=
  { entries := [.fact "q" false, .fact "" true, { kind := .fact, subject := some "q" },
      .fact "p" true, .fact "" false, (Entry.ifThen ["p"] "r").withValue false, .fact "p" false,
      .fact "r" true]
    query := "r" }

/-- The two atoms are found, in order, and they leave the query open. -/
theorem evaluate_disputedSketch :
    SatEngine.search.Correct ∧
    (disputedSketch.evaluate Solver.fresh).1.report.contradictions = ["p", "q"] ∧
    (disputedSketch.evaluate Solver.fresh).1.decision.verdict = .unknown ∧
    (disputedSketch.evaluate Solver.fresh).1.decision.reason = .inconsistent := by
  obtain ⟨-, -, -, -, hopen, -⟩ :=
    evaluate_of_contradictions SatEngine.search_correct disputedSketch
  have hfound : (disputedSketch.evaluate Solver.fresh).1.report.contradictions = ["p", "q"] := by
    rw [evaluate_contradictions]
    decide
  exact ⟨SatEngine.search_correct, hfound, hopen (by rw [hfound]; exact List.cons_ne_nil _ _) "r"⟩

end Entail
