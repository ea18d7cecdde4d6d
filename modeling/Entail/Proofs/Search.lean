/-
Entail/Proofs/Search.lean

The search for a satisfying assignment finds one exactly where there is one.

Committing to a literal neither gains nor loses a solution in which the literal holds
(`allHold_assign`), and since its variable is gone from the clauses that are left, every solution
of those can be changed into one that holds the literal (`exists_allHold_assign`).  So the search,
which tries a literal and then its negation, misses nothing (`satisfiable_iff`).

`SatEngine.Correct` is all that the rest of the theory asks of an engine.  The search provides it
(`SatEngine.search_correct`).
-/
import Entail.Clause
import Mathlib.Logic.Function.Basic

namespace Entail

namespace Clause

/-! ### Clauses that hold -/

@[simp] theorem holds_nil (v : Assignment) : Clause.holds v [] = false := rfl

@[simp] theorem holds_cons (v : Assignment) (l : Literal) (c : Clause) :
    Clause.holds v (l :: c) = (l.holds v || c.holds v) := rfl

/-- The clause of the negated literals says that not all of them hold. -/
theorem holds_map_negate (v : Assignment) (ls : List Literal) :
    Clause.holds v (ls.map Literal.negate) = !ls.all (Literal.holds v) := by
  induction ls with
  | nil => rfl
  | cons l ls ih => simp [ih, Literal.holds_negate]

theorem holds_eq_true_iff {v : Assignment} {c : Clause} :
    c.holds v = true ↔ ∃ l ∈ c, l.holds v = true := by
  simp [Clause.holds]

/-- Every clause of the list holds. -/
def AllHold (v : Assignment) (cs : List Clause) : Prop := ∀ c ∈ cs, c.holds v = true

/-! ### What is left after committing to a literal -/

theorem mem_assign {l : Literal} {cs : List Clause} {c' : Clause} :
    c' ∈ assign l cs ↔ ∃ c ∈ cs, l ∉ c ∧ c' = c.filter fun k => k != l.negate := by
  simp only [assign, List.mem_map, List.mem_filter, Bool.not_eq_true', List.contains_eq_mem,
    decide_eq_false_iff_not]
  constructor
  · rintro ⟨c, ⟨hc, hl⟩, rfl⟩
    exact ⟨c, hc, hl, rfl⟩
  · rintro ⟨c, hc, hl, rfl⟩
    exact ⟨c, ⟨hc, hl⟩, rfl⟩

theorem allHold_assign {v : Assignment} {l : Literal} (hl : l.holds v = true)
    (cs : List Clause) : AllHold v (assign l cs) ↔ AllHold v cs := by
  constructor
  · intro h c hc
    by_cases hmem : l ∈ c
    · exact holds_eq_true_iff.mpr ⟨l, hmem, hl⟩
    · obtain ⟨k, hk, hkv⟩ := holds_eq_true_iff.mp (h _ (mem_assign.mpr ⟨c, hc, hmem, rfl⟩))
      exact holds_eq_true_iff.mpr ⟨k, (List.mem_filter.mp hk).1, hkv⟩
  · intro h c' hc'
    obtain ⟨c, hc, -, rfl⟩ := mem_assign.mp hc'
    obtain ⟨k, hk, hkv⟩ := holds_eq_true_iff.mp (h c hc)
    -- the literal that holds the clause is not the one that was struck out
    have hne : k ≠ l.negate := by
      rintro rfl
      simp [Literal.holds_negate, hl] at hkv
    exact holds_eq_true_iff.mpr ⟨k, List.mem_filter.mpr ⟨hk, by simpa using hne⟩, hkv⟩

theorem index_ne_of_mem_assign {l k : Literal} {cs : List Clause} {c : Clause}
    (hc : c ∈ assign l cs) (hk : k ∈ c) : k.index ≠ l.index := by
  obtain ⟨c, -, hl, rfl⟩ := mem_assign.mp hc
  obtain ⟨hkc, hneg⟩ := List.mem_filter.mp hk
  intro he
  obtain ⟨i, p⟩ := k
  obtain ⟨j, q⟩ := l
  obtain rfl : i = j := he
  have hpq : p ≠ q := by
    rintro rfl
    exact hl hkc
  simp only [Literal.negate, bne_iff_ne, ne_eq, Literal.mk.injEq, true_and] at hneg
  exact hneg (Bool.eq_not.mpr hpq)

theorem exists_allHold_assign (l : Literal) (cs : List Clause) :
    (∃ v, AllHold v (assign l cs)) ↔ ∃ v, l.holds v = true ∧ AllHold v cs := by
  constructor
  · rintro ⟨v, hv⟩
    have hl : l.holds (Function.update v l.index l.positive) = true := by
      simp [Literal.holds]
    refine ⟨Function.update v l.index l.positive, hl, (allHold_assign hl cs).mp ?_⟩
    intro c hc
    obtain ⟨k, hk, hkv⟩ := holds_eq_true_iff.mp (hv c hc)
    refine holds_eq_true_iff.mpr ⟨k, hk, ?_⟩
    rw [Literal.holds, Function.update_of_ne (index_ne_of_mem_assign hc hk)]
    exact hkv
  · rintro ⟨v, hl, hv⟩
    exact ⟨v, (allHold_assign hl cs).mpr hv⟩

/-! ### The search -/

theorem shortest_eq_none_iff {cs : List Clause} : shortest cs = none ↔ cs = [] := by
  cases cs <;> simp [shortest]

/-- The search finds a solution exactly where there is one. -/
theorem satisfiable_iff (cs : List Clause) : satisfiable cs = true ↔ ∃ v, AllHold v cs := by
  fun_induction satisfiable cs with
  | case1 cs hnone =>
    obtain rfl := shortest_eq_none_iff.mp hnone
    exact iff_of_true rfl ⟨fun _ => true, fun c hc => absurd hc (List.not_mem_nil)⟩
  | case2 cs hempty =>
    refine iff_of_false Bool.false_ne_true ?_
    rintro ⟨v, hv⟩
    exact Bool.false_ne_true (hv [] (mem_of_shortest hempty))
  | case3 cs l rest hshort ihpos ihneg =>
    rw [Bool.or_eq_true, ihpos, ihneg, exists_allHold_assign, exists_allHold_assign]
    constructor
    · rintro (⟨v, -, hv⟩ | ⟨v, -, hv⟩) <;> exact ⟨v, hv⟩
    · rintro ⟨v, hv⟩
      cases hl : l.holds v with
      | true => exact .inl ⟨v, hl, hv⟩
      | false => exact .inr ⟨v, by rw [Literal.holds_negate, hl]; rfl, hv⟩

end Clause

/-! ### Engines to rely on -/

/-- The engine never fails, and it answers yes exactly where some assignment makes all clauses and
all assumed literals hold. -/
def SatEngine.Correct [SatEngine] : Prop :=
  ∀ clauses assumed, ∃ answer, SatEngine.solve clauses assumed = some answer ∧
    (answer = true ↔
      ∃ v, Clause.AllHold v clauses ∧ ∀ l ∈ assumed, Literal.holds v l = true)

theorem SatEngine.search_correct : SatEngine.search.Correct := by
  intro clauses assumed
  refine ⟨_, rfl, ?_⟩
  rw [Clause.satisfiable_iff]
  refine exists_congr fun v => ?_
  simp only [Clause.AllHold, List.mem_append, List.mem_map, or_imp, forall_and,
    forall_exists_index, and_imp, forall_apply_eq_imp_iff₂, Clause.holds_cons, Clause.holds_nil,
    Bool.or_false]
  exact and_comm

end Entail
