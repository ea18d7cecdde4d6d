/-
Entail/Proofs/Renaming.lean

More rules under other names.

Two sketches may be written in different ways and number their variables differently.  What the
decisions on them have to do with each other depends on their rules alone.  If every rule of the
first, renamed, is among the rules of the second, then a valuation in accord with the second gives
one in accord with the first, by looking names up under their new names
(`exists_holds_of_rename_mem`).  So what the first excludes the second excludes too: rules can be
added, and names may fall together.

The other direction needs the renaming to be injective, and no rule but the renamed ones.  Then a
valuation in accord with the first is carried over to the new names, and what it says of names that
are no new name makes no difference (`exists_holds_rename_iff`).

Main result: `evaluate_of_rename`.
-/
import Entail.Proofs.Entailment
import Mathlib.Logic.Equiv.Basic

namespace Entail

/-- The rule with another name for each of its names. -/
def Rule.rename (f : String → String) : Rule → Rule
  | .fact subject value => .fact (f subject) value
  | .implication premises conclusion value => .implication (premises.map f) (f conclusion) value

section

variable {f : String → String} {rules rules' : List Rule} {name : String} {b : Bool}

/-- A renamed rule says of the new names what the rule says of the old ones. -/
theorem Rule.holds_rename {ρ : Valuation} {r : Rule} :
    (r.rename f).Holds ρ ↔ r.Holds (ρ ∘ f) := by
  cases r with
  | fact subject value => exact Iff.rfl
  | implication premises conclusion value =>
    simp only [Rule.rename, Rule.Holds, List.forall_mem_map, Function.comp_apply]

/-- What is possible under the new names is possible under the old ones. -/
theorem exists_holds_of_rename_mem (hrules : ∀ r ∈ rules, r.rename f ∈ rules')
    (h : ∃ ρ : Valuation, (∀ r ∈ rules', r.Holds ρ) ∧ ρ (f name) = b) :
    ∃ ρ : Valuation, (∀ r ∈ rules, r.Holds ρ) ∧ ρ name = b := by
  obtain ⟨ρ, hρ, hname⟩ := h
  refine ⟨ρ ∘ f, fun r hr => ?_, hname⟩
  exact Rule.holds_rename.mp (hρ _ (hrules r hr))

/-- Where different names have different new names, and the rules are just the renamed ones, the
same is possible under both. -/
theorem exists_holds_rename_iff (hf : Function.Injective f)
    (hrules : ∀ r', r' ∈ rules' ↔ ∃ r ∈ rules, r.rename f = r') :
    (∃ ρ : Valuation, (∀ r ∈ rules', r.Holds ρ) ∧ ρ (f name) = b) ↔
      ∃ ρ : Valuation, (∀ r ∈ rules, r.Holds ρ) ∧ ρ name = b := by
  constructor
  · exact exists_holds_of_rename_mem fun r hr => (hrules _).mpr ⟨r, hr, rfl⟩
  · rintro ⟨ρ, hρ, hname⟩
    -- the valuation carried over; any value will do for a name that is not a new name
    let ρ' : Valuation := Function.extend f ρ fun _ => false
    have hback : ρ' ∘ f = ρ := Function.extend_comp hf ρ _
    refine ⟨ρ', fun r' hr' => ?_, ?_⟩
    · obtain ⟨r, hr, rfl⟩ := (hrules r').mp hr'
      rw [Rule.holds_rename, hback]
      exact hρ r hr
    · rw [← hname]
      exact congrFun hback name

end

section

variable [SatEngine] {sketch sketch' : Sketch} {f : String → String}

/-- A value that the first sketch excludes for its query is excluded by the second. -/
theorem outcome_unsat_of_rename (correct : SatEngine.Correct)
    (hquery : f sketch.query = sketch'.query)
    (hrules : ∀ r ∈ sketch.rules, r.rename f ∈ sketch'.rules) (b : Bool)
    (h : (sketch.evaluate Solver.fresh).1.decision.outcome b = .unsat) :
    (sketch'.evaluate Solver.fresh).1.decision.outcome b = .unsat := by
  rw [(evaluate_outcome correct sketch b).2] at h
  rw [(evaluate_outcome correct sketch' b).2, ← hquery]
  exact mt (exists_holds_of_rename_mem hrules) h

/-- Each check finds the same in both sketches, if they have the same rules but for the names. -/
theorem outcome_eq_of_rename (correct : SatEngine.Correct) (hf : Function.Injective f)
    (hquery : f sketch.query = sketch'.query)
    (hrules : ∀ r', r' ∈ sketch'.rules ↔ ∃ r ∈ sketch.rules, r.rename f = r') (b : Bool) :
    (sketch.evaluate Solver.fresh).1.decision.outcome b =
      (sketch'.evaluate Solver.fresh).1.decision.outcome b := by
  obtain ⟨hsat, hunsat⟩ := evaluate_outcome correct sketch b
  obtain ⟨hsat', hunsat'⟩ := evaluate_outcome correct sketch' b
  rw [← hquery, exists_holds_rename_iff hf hrules] at hsat' hunsat'
  exact Outcome.eq_of_iff hsat hunsat hsat' hunsat'

end

/-- **More rules can only strengthen a decision, and nothing but the rules matters.**  Let every
rule of a sketch, renamed, be among the rules of a second one that asks for the renamed query.  How
often and in which order the rules are there, how their entries are written, which entries are no
rules and which atoms are declared is all the same.  A check that fails for the first sketch fails
for the second.  So what is inconsistent stays so, and an answer stays or the second sketch is
inconsistent.  If different names stay different and the second sketch has no other rules, the
decisions are equal. -/
theorem evaluate_of_rename [SatEngine] (correct : SatEngine.Correct) {sketch sketch' : Sketch}
    {f : String → String} (hquery : f sketch.query = sketch'.query)
    (hrules : ∀ r ∈ sketch.rules, r.rename f ∈ sketch'.rules) :
    let d := (sketch.evaluate Solver.fresh).1.decision
    let d' := (sketch'.evaluate Solver.fresh).1.decision
    (d.assumeTrue = .unsat → d'.assumeTrue = .unsat) ∧
    (d.assumeFalse = .unsat → d'.assumeFalse = .unsat) ∧
    (d.reason = .inconsistent → d'.reason = .inconsistent) ∧
    (d.verdict = .yes → d'.verdict = .yes ∨ d'.reason = .inconsistent) ∧
    (d.verdict = .no → d'.verdict = .no ∨ d'.reason = .inconsistent) ∧
    (Function.Injective f → (∀ r' ∈ sketch'.rules, ∃ r ∈ sketch.rules, r.rename f = r') →
      d = d') := by
  intro d d'
  have hd : d = .ofOutcomes d.assumeTrue d.assumeFalse := evaluate_eq_ofOutcomes sketch
  have hd' : d' = .ofOutcomes d'.assumeTrue d'.assumeFalse := evaluate_eq_ofOutcomes sketch'
  have htrue : d.assumeTrue = .unsat → d'.assumeTrue = .unsat :=
    outcome_unsat_of_rename correct hquery hrules true
  have hfalse : d.assumeFalse = .unsat → d'.assumeFalse = .unsat :=
    outcome_unsat_of_rename correct hquery hrules false
  refine ⟨htrue, hfalse, ?_, ?_, ?_, ?_⟩
  · rw [hd, hd', Decision.reason_eq_inconsistent_iff, Decision.reason_eq_inconsistent_iff]
    exact And.imp htrue hfalse
  · rw [hd, hd', Decision.verdict_eq_yes_iff, Decision.verdict_eq_yes_iff,
      Decision.reason_eq_inconsistent_iff, ← or_and_right]
    rintro ⟨-, hexcluded⟩
    exact ⟨evaluate_answered correct sketch' true, hfalse hexcluded⟩
  · rw [hd, hd', Decision.verdict_eq_no_iff, Decision.verdict_eq_no_iff,
      Decision.reason_eq_inconsistent_iff, ← and_or_left]
    rintro ⟨hexcluded, -⟩
    exact ⟨htrue hexcluded, evaluate_answered correct sketch' false⟩
  · intro hf honly
    have hsame : ∀ r', r' ∈ sketch'.rules ↔ ∃ r ∈ sketch.rules, r.rename f = r' := by
      refine fun r' => ⟨honly r', ?_⟩
      rintro ⟨r, hr, rfl⟩
      exact hrules r hr
    exact Decision.eq_of_outcome (outcome_eq_of_rename correct hf hquery hsame)

/-- A fact and an implication in if/then form, which answer their query. -/
def forwardSketch : Sketch :=
  { entries := [.fact "p" true, .ifThen ["p"] "q"], query := "q" }

/-- The same with the names exchanged, the implication twice and in other forms, the rules in
another order, an entry that is no rule among them, and more atoms. -/
def backwardSketch : Sketch :=
  { declared := ["r", "p"]
    entries := [.subjectObject "q" "p", .fact "" false,
      { kind := .imply, premises := some (.many ["q"]), conclusion := some "p" },
      { kind := .fact, subject := some "q" }]
    query := "p" }

/-- Exchanging names is injective, so both sketches lead to the same decision. -/
theorem evaluate_backwardSketch :
    SatEngine.search.Correct ∧
    Equiv.swap "p" "q" forwardSketch.query = backwardSketch.query ∧
    (∀ r ∈ forwardSketch.rules, r.rename (Equiv.swap "p" "q") ∈ backwardSketch.rules) ∧
    (forwardSketch.evaluate Solver.fresh).1.decision =
      (backwardSketch.evaluate Solver.fresh).1.decision := by
  have hforward : forwardSketch.rules = [.fact "p" true, .implication ["p"] "q" true] := rfl
  have hbackward : backwardSketch.rules =
      [.implication ["q"] "p" true, .implication ["q"] "p" true, .fact "q" true] := rfl
  have hquery : Equiv.swap "p" "q" forwardSketch.query = backwardSketch.query :=
    Equiv.swap_apply_right "p" "q"
  have hrules : ∀ r ∈ forwardSketch.rules,
      r.rename (Equiv.swap "p" "q") ∈ backwardSketch.rules := by
    simp [hforward, hbackward, Rule.rename]
  have honly : ∀ r' ∈ backwardSketch.rules,
      ∃ r ∈ forwardSketch.rules, r.rename (Equiv.swap "p" "q") = r' := by
    simp [hforward, hbackward, Rule.rename]
  obtain ⟨-, -, -, -, -, hsame⟩ := evaluate_of_rename SatEngine.search_correct hquery hrules
  exact ⟨SatEngine.search_correct, hquery, hrules,
    hsame (Equiv.injective (Equiv.swap "p" "q")) honly⟩

end Entail
