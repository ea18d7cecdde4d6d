/-
Entail/Proofs/Meaning.lean

What a sketch says about its atoms.

A valuation gives every name a truth value.  `Entry.Means` says when a valuation is in accord with
an entry, read off the fields of the entry as they are written.  `Rule.Holds` says it of a
canonical rule.  Bringing an entry to canonical form loses nothing and adds nothing, and an entry
that is no rule asks for nothing (`Entry.means_iff`), so a sketch means what the rules compiled
from it mean (`Sketch.models_iff`).
-/
import Entail.Rule

namespace Entail

/-- A truth value for every name. -/
abbrev Valuation := String → Bool

/-- The valuation is in accord with the rule. -/
def Rule.Holds (ρ : Valuation) : Rule → Prop
  | .fact subject value => ρ subject = value
  | .implication premises conclusion value =>
    (∀ p ∈ premises, ρ p = true) → ρ conclusion = value

/-- The valuation is in accord with the entry.  A fact with a subject that is not empty gives the
subject a value.  An implication with a complete if/then pair gives the conclusion a value wherever
all premises are true, unless it names no premise.  One without a complete if/then pair does so
with its subject and object, if both are there.  Every other entry says nothing. -/
def Entry.Means (ρ : Valuation) (e : Entry) : Prop :=
  match e.kind with
  | .fact => ∀ s, e.subject = some s → s ≠ "" → ρ s = (e.value != some false)
  | .imply =>
    (∀ ps c, e.premises = some ps → e.conclusion = some c → ps.names ≠ [] →
      (∀ p ∈ ps.names, ρ p = true) → ρ c = (e.value != some false)) ∧
    (∀ s o, e.premises = none ∨ e.conclusion = none → e.subject = some s → e.object = some o →
      ρ s = true → ρ o = (e.value != some false))
  | .unknown => True

/-- The rules that the entries of a list compile to, in order. -/
def compiled (entries : List Entry) : List Rule := entries.filterMap fun e => e.rule?.toOption

/-- The rules a sketch compiles to. -/
def Sketch.rules (s : Sketch) : List Rule := compiled s.entries

/-- The valuation is in accord with every entry. -/
def Sketch.Models (ρ : Valuation) (s : Sketch) : Prop := ∀ e ∈ s.entries, e.Means ρ

/-! ### Canonical form keeps the meaning -/

namespace Entry

variable {ρ : Valuation} {e : Entry} {r : Rule}

theorem implication?_eq_ok_iff {premises : List String} {conclusion : String} :
    rule?.implication? e premises conclusion = .ok r ↔
      premises ≠ [] ∧ r = .implication premises conclusion e.assertedValue := by
  cases premises with
  | nil => simp [rule?.implication?]
  | cons p ps =>
    simp only [rule?.implication?, List.isEmpty_cons, Bool.false_eq_true, if_false,
      Except.ok.injEq, ne_eq, reduceCtorEq, not_false_eq_true, true_and]
    exact eq_comm

theorem rule?_of_fact (hk : e.kind = .fact) :
    e.rule? = .ok r ↔ ∃ s, e.subject = some s ∧ s ≠ "" ∧ r = .fact s e.assertedValue := by
  cases hs : e.subject with
  | none => simp [rule?, hk, hs]
  | some s =>
    by_cases hempty : s = ""
    · simp [rule?, hk, hs, hempty]
    · simp only [rule?, hk, hs, String.isEmpty_iff, hempty, if_false, Except.ok.injEq,
        Option.some.injEq, exists_eq_left', ne_eq, not_false_eq_true, true_and]
      exact eq_comm

theorem rule?_of_imply (hk : e.kind = .imply) :
    e.rule? = .ok r ↔
      (∃ ps c, e.premises = some ps ∧ e.conclusion = some c ∧ ps.names ≠ [] ∧
        r = .implication ps.names c e.assertedValue) ∨
      (∃ s o, (e.premises = none ∨ e.conclusion = none) ∧ e.subject = some s ∧
        e.object = some o ∧ r = .implication [s] o e.assertedValue) := by
  cases hp : e.premises <;> cases hc : e.conclusion <;> cases hs : e.subject <;>
    cases ho : e.object <;> simp [rule?, hk, hp, hc, hs, ho, implication?_eq_ok_iff]

theorem rule?_of_unknown (hk : e.kind = .unknown) : e.rule? ≠ .ok r := by
  simp [rule?, hk]

/-- **Canonical form keeps the meaning.** -/
theorem means_iff : e.Means ρ ↔ ∀ r, e.rule? = .ok r → r.Holds ρ := by
  cases hk : e.kind with
  | fact =>
    simp only [Means, hk, rule?_of_fact hk]
    constructor
    · rintro h r ⟨s, hs, hne, rfl⟩
      exact h s hs hne
    · intro h s hs hne
      exact h _ ⟨s, hs, hne, rfl⟩
  | imply =>
    simp only [Means, hk, rule?_of_imply hk]
    constructor
    · rintro ⟨hpair, hlegacy⟩ r (⟨ps, c, hps, hc, hne, rfl⟩ | ⟨s, o, hnone, hs, ho, rfl⟩)
      · exact hpair ps c hps hc hne
      · exact fun hprem => hlegacy s o hnone hs ho (hprem s List.mem_cons_self)
    · intro h
      refine ⟨fun ps c hps hc hne => ?_, fun s o hnone hs ho htrue => ?_⟩
      · exact h _ (.inl ⟨ps, c, hps, hc, hne, rfl⟩)
      · refine h _ (.inr ⟨s, o, hnone, hs, ho, rfl⟩) fun p hp => ?_
        rw [List.mem_singleton.mp hp]
        exact htrue
  | unknown =>
    simp only [Means, hk, true_iff]
    exact fun r hr => absurd hr (rule?_of_unknown hk)

end Entry

theorem compiled_cons_of_error {e : Entry} {d : Defect} (h : e.rule? = .error d)
    (es : List Entry) : compiled (e :: es) = compiled es := by
  simp [compiled, h, Except.toOption]

theorem compiled_cons_of_ok {e : Entry} {r : Rule} (h : e.rule? = .ok r) (es : List Entry) :
    compiled (e :: es) = r :: compiled es := by
  simp [compiled, h, Except.toOption]

theorem mem_compiled {entries : List Entry} {r : Rule} :
    r ∈ compiled entries ↔ ∃ e ∈ entries, e.rule? = .ok r := by
  rw [compiled, List.mem_filterMap]
  refine exists_congr fun e => and_congr_right fun _ => ?_
  cases e.rule? <;> simp [Except.toOption]

/-- A sketch means what its rules mean. -/
theorem Sketch.models_iff {ρ : Valuation} {s : Sketch} :
    s.Models ρ ↔ ∀ r ∈ s.rules, r.Holds ρ := by
  simp only [Models, Entry.means_iff, rules, mem_compiled]
  constructor
  · rintro h r ⟨e, he, hr⟩
    exact h e he r hr
  · intro h e he r hr
    exact h r ⟨e, he, hr⟩

end Entail
