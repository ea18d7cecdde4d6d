/-
Entail/Proofs/Independence.lean

Rules that have nothing to do with the query.

What a rule says depends on the values of its own names only (`Rule.holds_congr`).  So where two
lists of rules have no name in common, a valuation in accord with the one and a valuation in accord
with the other can be put together (`Valuation.override`), and nothing that is possible for the one
list is excluded by the other, unless the other has no model at all (`exists_holds_append_iff`).

The numbers of the variables, the switches and the connectives of a solver are all different where
the rules stand together.  None of that shows, since each check of a decision tells what is possible
for the names (`evaluate_outcome`).

Main result: `evaluate_of_disjoint`.
-/
import Entail.Proofs.Calls

namespace Entail

/-- The names that rules mention. -/
def mentioned (rules : List Rule) : List String := rules.flatMap Rule.names

/-- The valuation with other values for some names. -/
def Valuation.override (ρ ρ' : Valuation) (names : List String) : Valuation := fun name =>
  if name ∈ names then ρ' name else ρ name

section

variable {ρ ρ' : Valuation} {rules rules' : List Rule} {names : List String} {name : String}
  {b : Bool}

theorem Valuation.override_of_mem (h : name ∈ names) : ρ.override ρ' names name = ρ' name :=
  if_pos h

theorem Valuation.override_of_not_mem (h : name ∉ names) : ρ.override ρ' names name = ρ name :=
  if_neg h

/-- What a rule says depends on the values of its names only. -/
theorem Rule.holds_congr {r : Rule} (h : ∀ name ∈ r.names, ρ name = ρ' name) :
    r.Holds ρ ↔ r.Holds ρ' := by
  cases r with
  | fact subject value =>
    have hsubject : ρ subject = ρ' subject := h subject List.mem_cons_self
    rw [Holds, Holds, hsubject]
  | implication premises conclusion value =>
    simp only [names, List.forall_mem_append, List.forall_mem_singleton] at h
    obtain ⟨hpremises, hconclusion⟩ := h
    have hall : (∀ p ∈ premises, ρ p = true) ↔ ∀ p ∈ premises, ρ' p = true :=
      forall₂_congr fun p hp => by rw [hpremises p hp]
    rw [Holds, Holds, hall, hconclusion]

theorem forall_holds_congr (h : ∀ name ∈ mentioned rules, ρ name = ρ' name) :
    (∀ r ∈ rules, r.Holds ρ) ↔ ∀ r ∈ rules, r.Holds ρ' :=
  forall₂_congr fun r hr =>
    Rule.holds_congr fun name hname => h name (List.mem_flatMap.mpr ⟨r, hr, hname⟩)

/-- **Rules without a common name do not interfere.**  Together they allow a name of the first ones
a value exactly if the first ones do and the other ones allow anything at all. -/
theorem exists_holds_append_iff (hdisjoint : (mentioned rules).Disjoint (mentioned rules'))
    (hname : name ∉ mentioned rules') :
    (∃ ρ : Valuation, (∀ r ∈ rules ++ rules', r.Holds ρ) ∧ ρ name = b) ↔
      (∃ ρ : Valuation, (∀ r ∈ rules, r.Holds ρ) ∧ ρ name = b) ∧
        ∃ ρ : Valuation, ∀ r ∈ rules', r.Holds ρ := by
  simp only [List.forall_mem_append]
  constructor
  · rintro ⟨ρ, ⟨hρ, hρ'⟩, hb⟩
    exact ⟨⟨ρ, hρ, hb⟩, ρ, hρ'⟩
  · rintro ⟨⟨ρ, hρ, hb⟩, ρ', hρ'⟩
    -- the first valuation, but for the names of the other rules
    refine ⟨ρ.override ρ' (mentioned rules'), ⟨?_, ?_⟩, ?_⟩
    · rw [forall_holds_congr fun n hn => Valuation.override_of_not_mem (hdisjoint hn)]
      exact hρ
    · rw [forall_holds_congr fun n hn => Valuation.override_of_mem hn]
      exact hρ'
    · rw [Valuation.override_of_not_mem hname]
      exact hb

end

/-- The rules of entries do not depend on where the entries stand, but for their order. -/
theorem compiled_perm {entries first second : List Entry} (h : entries.Perm (first ++ second)) :
    (compiled entries).Perm (compiled first ++ compiled second) := by
  rw [compiled, compiled, compiled, ← List.filterMap_append]
  exact h.filterMap _

/-! ### Decisions -/

section

variable [SatEngine]

/-- The decision on a sketch settles its query by its rules. -/
theorem settles_evaluate (correct : SatEngine.Correct) (sketch : Sketch) :
    (sketch.evaluate Solver.fresh).1.decision.Settles (fun ρ => ∀ r ∈ sketch.rules, r.Holds ρ)
      sketch.query :=
  Decision.settles_ofOutcomes (fun b => (evaluate_outcome correct sketch b).1)
    fun b => (evaluate_outcome correct sketch b).2

variable {relevant other whole : Sketch}

/-- Each check on the whole tells what is possible for the relevant rules, if the others have a
model. -/
theorem outcome_of_disjoint (correct : SatEngine.Correct)
    (hentries : whole.entries.Perm (relevant.entries ++ other.entries))
    (hdisjoint : (mentioned relevant.rules).Disjoint (mentioned other.rules))
    (hquery : whole.query ∉ mentioned other.rules) (b : Bool) :
    let d := (whole.evaluate Solver.fresh).1.decision
    let possible := (∃ ρ : Valuation, (∀ r ∈ relevant.rules, r.Holds ρ) ∧ ρ whole.query = b) ∧
      ∃ ρ : Valuation, ∀ r ∈ other.rules, r.Holds ρ
    (d.outcome b = .sat ↔ possible) ∧ (d.outcome b = .unsat ↔ ¬ possible) := by
  intro d possible
  have hrules (ρ : Valuation) :
      (∀ r ∈ whole.rules, r.Holds ρ) ↔ ∀ r ∈ relevant.rules ++ other.rules, r.Holds ρ :=
    forall_congr' fun r => imp_congr_left (compiled_perm hentries).mem_iff
  obtain ⟨hsat, hunsat⟩ := evaluate_outcome correct whole b
  simp only [hrules, exists_holds_append_iff hdisjoint hquery] at hsat hunsat
  exact ⟨hsat, hunsat⟩

end

/-- **Rules that have nothing to do with the query cannot change its decision.**  Let the entries of
two sketches stand together in one, in any order, and let no name be mentioned by rules of both, nor
the query by a rule of the second.  Which atoms are declared is all the same, and so is the query of
the second sketch.  If the second sketch is not inconsistent, the decision is that on the first one
alone.  If it is inconsistent, so is the whole. -/
theorem evaluate_of_disjoint [SatEngine] (correct : SatEngine.Correct)
    {relevant other whole : Sketch}
    (hentries : whole.entries.Perm (relevant.entries ++ other.entries))
    (hsame : relevant.query = whole.query)
    (hdisjoint : (mentioned relevant.rules).Disjoint (mentioned other.rules))
    (hquery : whole.query ∉ mentioned other.rules) :
    let decision (sketch : Sketch) := (sketch.evaluate Solver.fresh).1.decision
    ((decision other).reason ≠ .inconsistent → decision whole = decision relevant) ∧
    ((decision other).reason = .inconsistent →
      (decision whole).reason = .inconsistent ∧ (decision whole).verdict = .unknown) := by
  intro decision
  have hwhole := outcome_of_disjoint correct hentries hdisjoint hquery
  rw [Ne, (settles_evaluate correct other).inconsistent_iff, not_not]
  constructor
  · intro hmodel
    refine Decision.eq_of_outcome fun b => ?_
    obtain ⟨hsat, hunsat⟩ := evaluate_outcome correct relevant b
    have hpossible := and_iff_left (a := ∃ ρ : Valuation,
      (∀ r ∈ relevant.rules, r.Holds ρ) ∧ ρ whole.query = b) hmodel
    rw [hsame] at hsat hunsat
    exact Outcome.eq_of_iff ((hwhole b).1.trans hpossible)
      ((hwhole b).2.trans (not_congr hpossible)) hsat hunsat
  · intro hnone
    have hunsat (b : Bool) : (decision whole).outcome b = .unsat :=
      (hwhole b).2.mpr fun hpossible => hnone hpossible.2
    have hdecision : decision whole = .ofOutcomes .unsat .unsat :=
      congrArg₂ Decision.ofOutcomes (hunsat true) (hunsat false)
    rw [hdecision]
    exact ⟨rfl, rfl⟩

/-- A question about a chain of implications. -/
def relevantSketch : Sketch :=
  { entries := [.fact "p" true, .subjectObject "p" "q", .ifThen ["p", "q"] "r"], query := "r" }

/-- Rules about other names, which have a model.  One entry is no rule, and mentions nothing. -/
def otherSketch : Sketch :=
  { declared := ["p"]
    entries :=
      [.ifThen ["x"] "y", { subject := some "p" }, (Entry.ifThen ["y"] "x").withValue false]
    query := "x" }

/-- Rules about other names, which have no model. -/
def brokenSketch : Sketch :=
  { entries := [.fact "x" true, .ifThen ["x"] "y", .fact "y" false], query := "p" }

/-- The entries of the first sketch with those of another one between them. -/
def interleavedSketch (other : Sketch) : Sketch :=
  { declared := ["x", "q"]
    entries := relevantSketch.entries.take 1 ++ other.entries.take 2 ++
      relevantSketch.entries.drop 1 ++ other.entries.drop 2
    query := "r" }

/-- The other rules leave the decision as it is, and the broken ones leave none. -/
theorem evaluate_interleavedSketch :
    SatEngine.search.Correct ∧
    (∀ other ∈ [otherSketch, brokenSketch],
      (interleavedSketch other).entries.Perm (relevantSketch.entries ++ other.entries) ∧
      (mentioned relevantSketch.rules).Disjoint (mentioned other.rules) ∧
      (interleavedSketch other).query ∉ mentioned other.rules) ∧
    ((interleavedSketch otherSketch).evaluate Solver.fresh).1.decision =
      (relevantSketch.evaluate Solver.fresh).1.decision ∧
    ((interleavedSketch brokenSketch).evaluate Solver.fresh).1.decision.reason = .inconsistent := by
  have happly (other : Sketch) (hother : other ∈ [otherSketch, brokenSketch]) :
      (interleavedSketch other).entries.Perm (relevantSketch.entries ++ other.entries) ∧
      (mentioned relevantSketch.rules).Disjoint (mentioned other.rules) ∧
      (interleavedSketch other).query ∉ mentioned other.rules := by
    have hapart : ∀ other ∈ [otherSketch, brokenSketch],
        ∀ name ∈ mentioned relevantSketch.rules, name ∉ mentioned other.rules := by decide
    rw [List.mem_pair] at hother
    refine ⟨?_, fun name hname => hapart other ?_ name hname, ?_⟩
    · rcases hother with rfl | rfl <;> decide
    · exact List.mem_pair.mpr hother
    · rcases hother with rfl | rfl <;> decide
  obtain ⟨hentries, hdisjoint, hquery⟩ := happly otherSketch (by decide)
  obtain ⟨hentries', hdisjoint', hquery'⟩ := happly brokenSketch (by decide)
  refine ⟨SatEngine.search_correct, happly, ?_, ?_⟩
  · refine (evaluate_of_disjoint SatEngine.search_correct hentries rfl hdisjoint hquery).1 ?_
    rw [Ne, (settles_evaluate SatEngine.search_correct otherSketch).inconsistent_iff, not_not]
    have hrules : otherSketch.rules =
        [.implication ["x"] "y" true, .implication ["y"] "x" false] := rfl
    exact ⟨fun _ => false, by simp [hrules, Rule.Holds]⟩
  · refine ((evaluate_of_disjoint SatEngine.search_correct hentries' rfl hdisjoint' hquery').2 ?_).1
    rw [(settles_evaluate SatEngine.search_correct brokenSketch).inconsistent_iff]
    have hrules : brokenSketch.rules =
        [.fact "x" true, .implication ["x"] "y" true, .fact "y" false] := rfl
    rintro ⟨ρ, hρ⟩
    rw [hrules] at hρ
    have hx : ρ "x" = true := hρ (.fact "x" true) (by simp)
    have hy : ρ "y" = true := hρ (.implication ["x"] "y" true) (by simp) (by simp [hx])
    have hnot : ρ "y" = false := hρ (.fact "y" false) (by simp)
    exact Bool.false_ne_true (hnot.symm.trans hy)

end Entail
