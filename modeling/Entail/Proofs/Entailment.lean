/-
Entail/Proofs/Entailment.lean

A decision is entailment by the sketch.

The two checks of a decision ask whether the rules can hold together with the query being true, and
with it being false (`evaluate_outcome`).  Given an engine to rely on, each check is answered, and
the answer is right for every sketch (`evaluate_sat_iff_model`): its declared atoms, the order and
the repetition of its entries, and the entries that are no rules make no difference.  So a sketch
answers yes exactly when it has a model and its query is true in all of them.
-/
import Entail.Decision
import Entail.Proofs.Compilation

namespace Entail

/-! ### Decisions and their checks -/

/-- An outcome that tells whether something is possible is not unknown. -/
theorem Outcome.ne_unknown {o : Outcome} {p : Prop} (hsat : o = .sat ↔ p)
    (hunsat : o = .unsat ↔ ¬ p) : o ≠ .unknown := by
  rintro rfl
  exact Outcome.noConfusion (hunsat.mpr fun hp => Outcome.noConfusion (hsat.mpr hp))

/-- Outcomes that tell of the same thing are the same. -/
theorem Outcome.eq_of_iff {o o' : Outcome} {q : Prop} (hsat : o = .sat ↔ q)
    (hunsat : o = .unsat ↔ ¬ q) (hsat' : o' = .sat ↔ q) (hunsat' : o' = .unsat ↔ ¬ q) : o = o' := by
  by_cases hq : q
  · exact (hsat.mpr hq).trans (hsat'.mpr hq).symm
  · exact (hunsat.mpr hq).trans (hunsat'.mpr hq).symm

namespace Decision

/-- The outcome of the check that assumes the atom to have a value. -/
def outcome (d : Decision) : Bool → Outcome
  | true => d.assumeTrue
  | false => d.assumeFalse

variable {a b : Outcome}

theorem verdict_eq_yes_iff : (ofOutcomes a b).verdict = .yes ↔ a = .sat ∧ b = .unsat := by
  cases a <;> cases b <;> decide

theorem verdict_eq_no_iff : (ofOutcomes a b).verdict = .no ↔ a = .unsat ∧ b = .sat := by
  cases a <;> cases b <;> decide

theorem reason_eq_inconsistent_iff :
    (ofOutcomes a b).reason = .inconsistent ↔ a = .unsat ∧ b = .unsat := by
  cases a <;> cases b <;> decide

/-- Decisions whose checks found the same are the same. -/
theorem eq_of_outcome {a' b' : Outcome}
    (h : ∀ c, (ofOutcomes a b).outcome c = (ofOutcomes a' b').outcome c) :
    ofOutcomes a b = ofOutcomes a' b' := by
  obtain rfl : a = a' := h true
  obtain rfl : b = b' := h false
  rfl

end Decision

namespace Theory

/-- Deciding a variable leaves the theory as it was, and each of its checks tells whether the
variable can have the value that is assumed. -/
theorem Asserts.decide [SatEngine] (correct : SatEngine.Correct) {t : Theory Solver}
    {fs : List Formula} (h : t.Asserts fs) {i : Nat} (hi : i ∈ t.atoms.map Prod.snd) :
    (t.decide i).2.Asserts fs ∧ ∀ b : Bool,
      ((t.decide i).1.outcome b = .sat ↔ Satisfiable (Formula.literal i b :: fs)) ∧
      ((t.decide i).1.outcome b = .unsat ↔ ¬ Satisfiable (Formula.literal i b :: fs)) := by
  have hvars : ∀ b, ∀ j ∈ (Formula.literal i b).vars, j ∈ t.atoms.map Prod.snd := by
    intro b
    rw [Formula.vars_literal, List.forall_mem_singleton]
    exact hi
  obtain ⟨htrue, hsat⟩ := h.assuming correct (hvars true)
  obtain ⟨hfalse, hunsat⟩ := htrue.assuming correct (hvars false)
  refine ⟨hfalse, fun b => ?_⟩
  cases b with
  | true => exact hsat
  | false => exact hunsat

end Theory

/-! ### Evaluating a sketch -/

section

variable [SatEngine]

theorem evaluate_eq_ofOutcomes (sketch : Sketch) :
    (sketch.evaluate Solver.fresh).1.decision =
      .ofOutcomes (sketch.evaluate Solver.fresh).1.decision.assumeTrue
        (sketch.evaluate Solver.fresh).1.decision.assumeFalse := rfl

/-- Each check tells whether the rules can hold with the query having the value assumed. -/
theorem evaluate_outcome (correct : SatEngine.Correct) (sketch : Sketch) (b : Bool) :
    ((sketch.evaluate Solver.fresh).1.decision.outcome b = .sat ↔
      ∃ ρ : Valuation, (∀ r ∈ sketch.rules, r.Holds ρ) ∧ ρ sketch.query = b) ∧
    ((sketch.evaluate Solver.fresh).1.decision.outcome b = .unsat ↔
      ¬ ∃ ρ : Valuation, (∀ r ∈ sketch.rules, r.Holds ρ) ∧ ρ sketch.query = b) := by
  obtain ⟨fs, hfs, hmean, hquery⟩ := Theory.asserts_fresh.compile sketch
  rw [List.append_nil] at hfs
  have hdecide := (hfs.decide correct (List.mem_map_of_mem hquery)).2 b
  rw [hfs.satisfiable_literal_iff hmean hquery b] at hdecide
  exact hdecide

/-- No check stays unknown. -/
theorem evaluate_answered (correct : SatEngine.Correct) (sketch : Sketch) (b : Bool) :
    (sketch.evaluate Solver.fresh).1.decision.outcome b = .sat ∨
      (sketch.evaluate Solver.fresh).1.decision.outcome b = .unsat := by
  obtain ⟨hsat, hunsat⟩ := evaluate_outcome correct sketch b
  exact (em _).imp hsat.mpr hunsat.mpr

end

/-- Only one value is possible for a name exactly where something is possible and forces it. -/
theorem forced_iff {p : Valuation → Prop} {name : String} (b : Bool) :
    ((∃ ρ, p ρ ∧ ρ name = b) ∧ ¬ ∃ ρ, p ρ ∧ ρ name = !b) ↔
      (∃ ρ, p ρ) ∧ ∀ ρ, p ρ → ρ name = b := by
  constructor
  · rintro ⟨⟨ρ, hρ, -⟩, hother⟩
    refine ⟨⟨ρ, hρ⟩, fun ρ' hρ' => ?_⟩
    by_contra hne
    exact hother ⟨ρ', hρ', Bool.eq_not_of_ne hne⟩
  · rintro ⟨⟨ρ, hρ⟩, hall⟩
    refine ⟨⟨ρ, hρ, hall ρ hρ⟩, ?_⟩
    rintro ⟨ρ', hρ', hother⟩
    rw [hall ρ' hρ'] at hother
    exact (Bool.eq_not_self b).mp hother

/-- Nothing is possible exactly where no value is possible for a name. -/
theorem impossible_iff {p : Valuation → Prop} (name : String) :
    ((¬ ∃ ρ, p ρ ∧ ρ name = true) ∧ ¬ ∃ ρ, p ρ ∧ ρ name = false) ↔ ¬ ∃ ρ, p ρ := by
  rw [← not_or, ← exists_or, not_iff_not]
  refine exists_congr fun ρ => ?_
  rw [← and_or_left, and_iff_left (Bool.dichotomy (ρ name)).symm]

/-- **Evaluation is sound and complete.**  Each check answers sat exactly when some valuation is in
accord with every entry and gives the query the value assumed, and no check stays unknown.  So yes
and no are answered exactly where a sketch that has a model forces the value of its query, and it
is inconsistent exactly where it has none. -/
theorem evaluate_sat_iff_model [SatEngine] (correct : SatEngine.Correct) (sketch : Sketch) :
    let d := (sketch.evaluate Solver.fresh).1.decision
    (d.assumeTrue = .sat ↔ ∃ ρ, sketch.Models ρ ∧ ρ sketch.query = true) ∧
    (d.assumeFalse = .sat ↔ ∃ ρ, sketch.Models ρ ∧ ρ sketch.query = false) ∧
    d.assumeTrue ≠ .unknown ∧ d.assumeFalse ≠ .unknown ∧
    (d.verdict = .yes ↔ (∃ ρ, sketch.Models ρ) ∧ ∀ ρ, sketch.Models ρ → ρ sketch.query = true) ∧
    (d.verdict = .no ↔ (∃ ρ, sketch.Models ρ) ∧ ∀ ρ, sketch.Models ρ → ρ sketch.query = false) ∧
    (d.reason = .inconsistent ↔ ¬ ∃ ρ, sketch.Models ρ) := by
  intro d
  obtain ⟨htrue, htrue'⟩ := evaluate_outcome correct sketch true
  obtain ⟨hfalse, hfalse'⟩ := evaluate_outcome correct sketch false
  simp only [← Sketch.models_iff] at htrue htrue' hfalse hfalse'
  have hd : d = .ofOutcomes d.assumeTrue d.assumeFalse := evaluate_eq_ofOutcomes sketch
  refine ⟨htrue, hfalse, Outcome.ne_unknown htrue htrue', Outcome.ne_unknown hfalse hfalse',
    ?_, ?_, ?_⟩
  · rw [hd, Decision.verdict_eq_yes_iff, ← forced_iff true]
    exact and_congr htrue hfalse'
  · rw [hd, Decision.verdict_eq_no_iff, ← forced_iff false, and_comm]
    exact and_congr hfalse htrue'
  · rw [hd, Decision.reason_eq_inconsistent_iff, ← impossible_iff sketch.query]
    exact and_congr htrue' hfalse'

/-- Names that are empty or stand twice, a conclusion among its premises, and entries that say
nothing. -/
def tangledSketch : Sketch :=
  { declared := ["p", "p", ""]
    entries := [.fact "" false, .fact "p" true, .ifThen [] "r", .ifThen ["p", "p", ""] "q",
      .subjectObject "p" "", .ifThen ["q", "p"] "q"]
    query := "q" }

/-- The tangled sketch has a model, and all its models make the query true. -/
theorem evaluate_tangledSketch :
    SatEngine.search.Correct ∧
    (tangledSketch.evaluate Solver.fresh).1.decision.verdict = .yes := by
  refine ⟨SatEngine.search_correct, ?_⟩
  obtain ⟨-, -, -, -, hyes, -⟩ := evaluate_sat_iff_model SatEngine.search_correct tangledSketch
  have hrules : tangledSketch.rules = [.fact "p" true, .implication ["p", "p", ""] "q" true,
      .implication ["p"] "" true, .implication ["q", "p"] "q" true] := rfl
  refine hyes.mpr ⟨⟨fun _ => true, Sketch.models_iff.mpr ?_⟩, fun ρ hρ => ?_⟩
  · rw [hrules]
    simp [Rule.Holds]
  · rw [Sketch.models_iff, hrules] at hρ
    simp only [List.forall_mem_cons, List.not_mem_nil, false_implies, implies_true, and_true,
      Rule.Holds] at hρ
    obtain ⟨hp, hq, hempty, -⟩ := hρ
    exact hq ⟨hp, hp, hempty hp⟩

end Entail
