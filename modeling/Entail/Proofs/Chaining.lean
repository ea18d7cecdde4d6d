/-
Entail/Proofs/Chaining.lean

Deciding by search is forward chaining.

Every rule is a Horn clause.  A rule that asserts its conclusion derives a name from others, and
one that denies it only forbids some names to stand together.  So the names that chaining derives
(`derivable`) are the least way to satisfy the rules that assert (`isLeast_derivable`), and all
rules can be satisfied exactly when this least way violates no rule that denies
(`exists_trues_eq_derivable_iff`).

Transported through the checks of a decision (`evaluate_outcome`), this describes every decision
without any search (`evaluate_sat_iff_derivable`), however the implications refer to each other.
-/
import Mathlib.Order.Bounds.Defs
import Mathlib.Data.Set.Basic
import Entail.Proofs.Entailment

namespace Entail

/-- The value a rule gives its name. -/
def Rule.value : Rule → Bool
  | .fact _ value => value
  | .implication _ _ value => value

/-- The names that are true. -/
def Valuation.trues (ρ : Valuation) : Set String := {a | ρ a = true}

/-! ### Chaining -/

section

variable {rules : List Rule} {start names names' : Set String}

/-- A name is derived if it stands at the start, if a fact asserts it, or if an implication asserts
it and all its premises are derived. -/
inductive Derives (rules : List Rule) (start : Set String) : String → Prop
  | assumed {a : String} (h : a ∈ start) : Derives rules start a
  | stated {a : String} (h : .fact a true ∈ rules) : Derives rules start a
  | chained {ps : List String} {c : String} (h : .implication ps c true ∈ rules)
      (hps : ∀ p ∈ ps, Derives rules start p) : Derives rules start c

/-- The names that chaining the rules derives. -/
def derivable (rules : List Rule) (start : Set String) : Set String := {a | Derives rules start a}

/-- Chaining the rules derives no further name. -/
structure ClosedUnder (rules : List Rule) (names : Set String) : Prop where
  stated : ∀ a, .fact a true ∈ rules → a ∈ names
  chained : ∀ ps c, .implication ps c true ∈ rules → (∀ p ∈ ps, p ∈ names) → c ∈ names

/-- A rule denies one of the names: a fact does, or an implication whose premises are all there. -/
def Violates (rules : List Rule) (names : Set String) : Prop :=
  (∃ a ∈ names, .fact a false ∈ rules) ∨
    ∃ ps, ∃ c ∈ names, (∀ p ∈ ps, p ∈ names) ∧ .implication ps c false ∈ rules

theorem closed_derivable (rules : List Rule) (start : Set String) :
    ClosedUnder rules (derivable rules start) :=
  ⟨fun _ h => .stated h, fun _ _ h hps => .chained h hps⟩

theorem ClosedUnder.derivable_subset (hclosed : ClosedUnder rules names) (hstart : start ⊆ names) :
    derivable rules start ⊆ names := by
  intro a ha
  induction ha with
  | assumed h => exact hstart h
  | stated h => exact hclosed.stated _ h
  | chained h _ ih => exact hclosed.chained _ _ h ih

/-- **Chaining derives the least names** that contain the start and are closed. -/
theorem isLeast_derivable (rules : List Rule) (start : Set String) :
    IsLeast {names | start ⊆ names ∧ ClosedUnder rules names} (derivable rules start) :=
  ⟨⟨fun _ h => .assumed h, closed_derivable rules start⟩, fun _ h => h.2.derivable_subset h.1⟩

theorem Violates.mono (h : Violates rules names) (hsub : names ⊆ names') :
    Violates rules names' := by
  rcases h with ⟨a, ha, hr⟩ | ⟨ps, c, hc, hps, hr⟩
  · exact .inl ⟨a, hsub ha, hr⟩
  · exact .inr ⟨ps, c, hsub hc, fun p hp => hsub (hps p hp), hr⟩

/-- Without a rule that denies, nothing is violated. -/
theorem not_violates_of_value (h : ∀ r ∈ rules, r.value = true) : ¬ Violates rules names := by
  rintro (⟨a, -, hr⟩ | ⟨ps, c, -, -, hr⟩)
  · exact Bool.false_ne_true (h _ hr)
  · exact Bool.false_ne_true (h _ hr)

/-! ### Models -/

/-- Rules hold where the true names are closed and violate none. -/
theorem forall_holds_iff {ρ : Valuation} :
    (∀ r ∈ rules, r.Holds ρ) ↔ ClosedUnder rules ρ.trues ∧ ¬ Violates rules ρ.trues := by
  constructor
  · intro h
    refine ⟨⟨fun a hr => h _ hr, fun ps c hr hps => h _ hr hps⟩, ?_⟩
    rintro (⟨a, ha, hr⟩ | ⟨ps, c, hc, hps, hr⟩)
    · exact Bool.false_ne_true ((h _ hr).symm.trans ha)
    · exact Bool.false_ne_true ((h _ hr hps).symm.trans hc)
  · rintro ⟨hclosed, hviolates⟩ r hr
    cases r with
    | fact a value =>
      cases value with
      | true => exact hclosed.stated a hr
      | false =>
        rw [Rule.Holds, Bool.eq_false_iff]
        exact fun ha => hviolates (.inl ⟨a, ha, hr⟩)
    | implication ps c value =>
      intro hps
      cases value with
      | true => exact hclosed.chained ps c hr hps
      | false =>
        rw [Bool.eq_false_iff]
        exact fun hc => hviolates (.inr ⟨ps, c, hc, hps, hr⟩)

theorem exists_trues_eq (names : Set String) : ∃ ρ : Valuation, ρ.trues = names := by
  classical
  exact ⟨fun a => decide (a ∈ names), Set.ext fun a => decide_eq_true_iff⟩

/-- What chaining derives from names that are true is true. -/
theorem derivable_subset_trues {ρ : Valuation} (hρ : ∀ r ∈ rules, r.Holds ρ)
    (hstart : start ⊆ ρ.trues) : derivable rules start ⊆ ρ.trues :=
  (isLeast_derivable rules start).2 ⟨hstart, (forall_holds_iff.mp hρ).1⟩

/-- **The least model.**  Rules that can hold where the start is true also hold where nothing else
is true than what chaining derives from it. -/
theorem holds_derivable_iff :
    (∃ ρ : Valuation, (∀ r ∈ rules, r.Holds ρ) ∧ start ⊆ ρ.trues) ↔
      ∃ ρ : Valuation, (∀ r ∈ rules, r.Holds ρ) ∧ ρ.trues = derivable rules start := by
  constructor
  · rintro ⟨ρ, hρ, hstart⟩
    have hmodel := (forall_holds_iff.mp hρ).2
    obtain ⟨ρ', hρ'⟩ := exists_trues_eq (derivable rules start)
    refine ⟨ρ', forall_holds_iff.mpr ?_, hρ'⟩
    rw [hρ']
    exact ⟨closed_derivable rules start,
      fun hviolates => hmodel (hviolates.mono (derivable_subset_trues hρ hstart))⟩
  · rintro ⟨ρ, hρ, heq⟩
    refine ⟨ρ, hρ, ?_⟩
    rw [heq]
    exact (isLeast_derivable rules start).1.1

/-- The derived names are a model exactly when they violate no rule. -/
theorem exists_trues_eq_derivable_iff :
    (∃ ρ : Valuation, (∀ r ∈ rules, r.Holds ρ) ∧ ρ.trues = derivable rules start) ↔
      ¬ Violates rules (derivable rules start) := by
  constructor
  · rintro ⟨ρ, hρ, heq⟩
    rw [← heq]
    exact (forall_holds_iff.mp hρ).2
  · intro hviolates
    obtain ⟨ρ, heq⟩ := exists_trues_eq (derivable rules start)
    refine ⟨ρ, forall_holds_iff.mpr ?_, heq⟩
    rw [heq]
    exact ⟨closed_derivable rules start, hviolates⟩

/-- A name can be true exactly when chaining from it violates no rule. -/
theorem exists_holds_true_iff {name : String} :
    (∃ ρ : Valuation, (∀ r ∈ rules, r.Holds ρ) ∧ ρ name = true) ↔
      ¬ Violates rules (derivable rules {name}) := by
  rw [← exists_trues_eq_derivable_iff, ← holds_derivable_iff]
  simp only [Set.singleton_subset_iff]
  rfl

/-- A name can be false exactly when chaining violates no rule and does not derive the name. -/
theorem exists_holds_false_iff {name : String} :
    (∃ ρ : Valuation, (∀ r ∈ rules, r.Holds ρ) ∧ ρ name = false) ↔
      ¬ Violates rules (derivable rules ∅) ∧ name ∉ derivable rules ∅ := by
  rw [← exists_trues_eq_derivable_iff]
  constructor
  · rintro ⟨ρ, hρ, hname⟩
    refine ⟨holds_derivable_iff.mp ⟨ρ, hρ, Set.empty_subset _⟩, fun hderived => ?_⟩
    exact Bool.false_ne_true
      (hname.symm.trans (derivable_subset_trues hρ (Set.empty_subset _) hderived))
  · rintro ⟨⟨ρ, hρ, heq⟩, hderived⟩
    refine ⟨ρ, hρ, ?_⟩
    rw [← heq] at hderived
    exact Bool.eq_false_of_not_eq_true hderived

end

/-! ### Decisions -/

/-- **Deciding is chaining.**  The query can be true exactly when chaining from it violates no rule
that denies, and false exactly when chaining from nothing neither violates one nor derives the
query.  So where no rule denies, nothing is inconsistent or answered no, and yes is the answer
exactly for a query that chaining derives. -/
theorem evaluate_sat_iff_derivable [SatEngine] (correct : SatEngine.Correct) (sketch : Sketch) :
    let d := (sketch.evaluate Solver.fresh).1.decision
    let closure := derivable sketch.rules
    (d.assumeTrue = .sat ↔ ¬ Violates sketch.rules (closure {sketch.query})) ∧
    (d.assumeFalse = .sat ↔
      ¬ Violates sketch.rules (closure ∅) ∧ sketch.query ∉ closure ∅) ∧
    ((∀ r ∈ sketch.rules, r.value = true) →
      d.reason ≠ .inconsistent ∧ d.verdict ≠ .no ∧
      (d.verdict = .yes ↔ sketch.query ∈ closure ∅)) := by
  intro d closure
  obtain ⟨htrue, htrue'⟩ := evaluate_outcome correct sketch true
  obtain ⟨hfalse, hfalse'⟩ := evaluate_outcome correct sketch false
  rw [exists_holds_true_iff] at htrue htrue'
  rw [exists_holds_false_iff] at hfalse hfalse'
  refine ⟨htrue, hfalse, fun hvalue => ?_⟩
  have hsat : d.assumeTrue = .sat := htrue.mpr (not_violates_of_value hvalue)
  have hd : d = .ofOutcomes d.assumeTrue d.assumeFalse := evaluate_eq_ofOutcomes sketch
  rw [hd, Ne, Ne, Decision.reason_eq_inconsistent_iff, Decision.verdict_eq_no_iff,
    Decision.verdict_eq_yes_iff, hsat]
  refine ⟨fun h => Outcome.noConfusion h.1, fun h => Outcome.noConfusion h.1, ?_⟩
  rw [and_iff_right rfl]
  refine hfalse'.trans ?_
  rw [and_iff_right (not_violates_of_value hvalue), not_not]

/-- Implications in a circle, and one that denies its conclusion. -/
def circularSketch : Sketch :=
  { entries := [.fact "p" true, .ifThen ["p"] "q", .ifThen ["q"] "p",
      (Entry.ifThen ["p", "q"] "r").withValue false]
    query := "r" }

/-- Chaining goes round the circle and derives nothing else, so the query is denied. -/
theorem evaluate_circularSketch :
    SatEngine.search.Correct ∧
    (circularSketch.evaluate Solver.fresh).1.decision.assumeTrue ≠ .sat ∧
    (circularSketch.evaluate Solver.fresh).1.decision.assumeFalse = .sat := by
  obtain ⟨htrue, hfalse, -⟩ := evaluate_sat_iff_derivable SatEngine.search_correct circularSketch
  have hrules : circularSketch.rules = [.fact "p" true, .implication ["p"] "q" true,
      .implication ["q"] "p" true, .implication ["p", "q"] "r" false] := rfl
  have hclosed : ClosedUnder circularSketch.rules {"p", "q"} := by
    rw [hrules]
    refine ⟨by simp, fun ps c hr _ => ?_⟩
    have hc : c = "q" ∨ c = "p" := by
      simp only [List.mem_cons, Rule.implication.injEq, reduceCtorEq, List.not_mem_nil] at hr
      tauto
    exact hc.symm
  have hsub := hclosed.derivable_subset (Set.empty_subset _)
  refine ⟨SatEngine.search_correct, ?_, hfalse.mpr ⟨fun h => ?_, fun h => ?_⟩⟩
  · rw [Ne, htrue, not_not, hrules]
    have hp : "p" ∈ derivable circularSketch.rules {"r"} := .stated (by simp [hrules])
    have hq : "q" ∈ derivable circularSketch.rules {"r"} :=
      .chained (List.mem_cons_of_mem _ List.mem_cons_self) (List.forall_mem_singleton.mpr hp)
    rw [hrules] at hp hq
    refine .inr ⟨["p", "q"], "r", .assumed rfl, ?_, by simp⟩
    exact List.forall_mem_cons.mpr ⟨hp, List.forall_mem_singleton.mpr hq⟩
  · have hbad := h.mono hsub
    simp [Violates, hrules] at hbad
  · simpa [circularSketch] using hsub h

end Entail
