/-
Entail/Proofs/Compilation.lean

What a theory over a solver knows, and what compiling a sketch adds to it.

Names and variables correspond one to one (`Theory.Asserts`), so assignments of the variables and
valuations of the names can be exchanged (`exists_agrees_valuation`, `exists_agrees_assignment`).
Along that correspondence the constraint of a rule says what the rule says
(`Theory.eval_formulaOf`), and the constraints that compiling a sketch adds say what all its rules
say (`Theory.Asserts.compile`).

Checking under an assumption answers whether the assumption can hold together with all constraints,
and leaves the theory as it was (`Theory.Asserts.assuming`).
-/
import Entail.Theory
import Entail.Proofs.Meaning
import Entail.Proofs.Scopes

namespace Entail

/-! ### Names and variables -/

/-- The assignment gives the variables the values that the valuation gives their names. -/
def Agrees (atoms : List (String × Nat)) (ρ : Valuation) (v : Assignment) : Prop :=
  ∀ a ∈ atoms, v a.2 = ρ a.1

theorem Agrees.of_suffix {atoms atoms' : List (String × Nat)} {ρ : Valuation} {v : Assignment}
    (h : Agrees atoms' ρ v) (hs : atoms <:+ atoms') : Agrees atoms ρ v :=
  fun a ha => h a (hs.subset ha)

/-- Values may be prescribed for keys that differ. -/
theorem exists_forall_key_eq {α γ : Type} [DecidableEq α] {key : γ → α} {l : List γ}
    (h : (l.map key).Nodup) (value : γ → Bool) : ∃ f : α → Bool, ∀ a ∈ l, f (key a) = value a := by
  induction l with
  | nil => exact ⟨fun _ => false, fun a ha => absurd ha List.not_mem_nil⟩
  | cons a l ih =>
    rw [List.map_cons, List.nodup_cons] at h
    obtain ⟨f, hf⟩ := ih h.2
    refine ⟨Function.update f (key a) (value a), List.forall_mem_cons.mpr ⟨?_, fun b hb => ?_⟩⟩
    · exact Function.update_self ..
    · rw [Function.update_of_ne (ne_of_mem_of_not_mem (List.mem_map_of_mem hb) h.1), hf b hb]

theorem exists_agrees_valuation {atoms : List (String × Nat)}
    (h : (atoms.map Prod.fst).Nodup) (v : Assignment) : ∃ ρ, Agrees atoms ρ v := by
  obtain ⟨ρ, hρ⟩ := exists_forall_key_eq h fun a => v a.2
  exact ⟨ρ, fun a ha => (hρ a ha).symm⟩

theorem exists_agrees_assignment {atoms : List (String × Nat)}
    (h : (atoms.map Prod.snd).Nodup) (ρ : Valuation) : ∃ v, Agrees atoms ρ v :=
  exists_forall_key_eq h fun a => ρ a.1

/-- A name without a variable is none of those that have one. -/
theorem lookup_eq_none_iff_not_mem {atoms : List (String × Nat)} {name : String} :
    atoms.lookup name = none ↔ name ∉ atoms.map Prod.fst := by
  simp only [List.lookup_eq_none_iff, bne_iff_ne, List.mem_map, not_exists, not_and]
  exact forall₂_congr fun a _ => ne_comm

/-- The formulas say of the variables what the rules say of their names. -/
def Says (atoms : List (String × Nat)) (fs : List Formula) (rules : List Rule) : Prop :=
  ∀ ρ v, Agrees atoms ρ v → ((∀ f ∈ fs, f.eval v = true) ↔ ∀ r ∈ rules, r.Holds ρ)

namespace Theory

section

variable {σ : Type} [Incremental σ]

/-! ### Atoms -/

theorem atoms_suffix_ensure (name : String) (t : Theory σ) :
    t.atoms <:+ (t.ensure name).2.atoms := by
  unfold ensure
  split
  · exact List.suffix_rfl
  · exact List.suffix_cons _ _

theorem mem_atoms_ensure (name : String) (t : Theory σ) :
    (name, (t.ensure name).1) ∈ (t.ensure name).2.atoms := by
  unfold ensure
  split
  case _ i hi =>
    obtain ⟨before, after, heq, -⟩ := List.lookup_eq_some_iff.mp hi
    rw [heq]
    exact List.mem_append_right _ List.mem_cons_self
  case _ => exact List.mem_cons_self

theorem atoms_suffix_ensureAll (names : List String) (t : Theory σ) :
    t.atoms <:+ (t.ensureAll names).2.atoms := by
  induction names generalizing t with
  | nil => exact List.suffix_rfl
  | cons name names ih => exact (atoms_suffix_ensure name t).trans (ih _)

/-- The variables of several names take the values of the names, in order. -/
theorem map_ensureAll (names : List String) (t : Theory σ) {ρ : Valuation} {v : Assignment}
    (h : Agrees (t.ensureAll names).2.atoms ρ v) : (t.ensureAll names).1.map v = names.map ρ := by
  induction names generalizing t with
  | nil => rfl
  | cons name names ih =>
    have hname := h.of_suffix (atoms_suffix_ensureAll names _) _ (mem_atoms_ensure name t)
    have hrest := ih (t.ensure name).2 h
    simp only [ensureAll, List.map_cons, hname, hrest]

theorem mem_handles_ensureAll (names : List String) (t : Theory σ) :
    ∀ i ∈ (t.ensureAll names).1, i ∈ (t.ensureAll names).2.atoms.map Prod.snd := by
  induction names generalizing t with
  | nil => exact fun i hi => absurd hi List.not_mem_nil
  | cons name names ih =>
    refine List.forall_mem_cons.mpr ⟨?_, ih _⟩
    exact List.mem_map_of_mem ((atoms_suffix_ensureAll names _).subset (mem_atoms_ensure name t))

/-! ### The constraint of a rule -/

theorem atoms_suffix_formulaOf (r : Rule) (t : Theory σ) :
    t.atoms <:+ (t.formulaOf r).2.atoms := by
  cases r with
  | fact subject value => exact atoms_suffix_ensure subject t
  | implication premises conclusion value =>
    exact (atoms_suffix_ensureAll premises t).trans (atoms_suffix_ensure conclusion _)

/-- The atoms of a rule are there before its constraint is. -/
theorem vars_formulaOf (r : Rule) (t : Theory σ) :
    ∀ i ∈ (t.formulaOf r).1.vars, i ∈ (t.formulaOf r).2.atoms.map Prod.snd := by
  cases r with
  | fact subject value =>
    simp only [formulaOf, Formula.vars_literal, List.forall_mem_singleton]
    exact List.mem_map_of_mem (mem_atoms_ensure subject t)
  | implication premises conclusion value =>
    simp only [formulaOf, Formula.vars_implies, Formula.vars_conjoin, Formula.vars_literal,
      List.forall_mem_append, Formula.forall_mem_varsAll, List.forall_mem_map, Formula.vars,
      List.forall_mem_singleton]
    refine ⟨fun i hi => ?_, List.mem_map_of_mem (mem_atoms_ensure conclusion _)⟩
    exact ((atoms_suffix_ensure conclusion _).map _).subset (mem_handles_ensureAll premises t i hi)

/-- **The constraint of a rule says what the rule says.** -/
theorem eval_formulaOf (r : Rule) (t : Theory σ) {ρ : Valuation} {v : Assignment}
    (h : Agrees (t.formulaOf r).2.atoms ρ v) : (t.formulaOf r).1.eval v = true ↔ r.Holds ρ := by
  cases r with
  | fact subject value =>
    have hs := h _ (mem_atoms_ensure subject t)
    simp only [formulaOf, Formula.eval_literal, Rule.Holds, beq_iff_eq, hs]
  | implication premises conclusion value =>
    have hc := h _ (mem_atoms_ensure conclusion _)
    have hps := map_ensureAll premises t (h.of_suffix (atoms_suffix_ensure conclusion _))
    have hall : (t.ensureAll premises).1.all v = premises.all ρ := by
      rw [← Function.id_comp v, ← List.all_map, hps, List.all_map, Function.id_comp]
    simp only [formulaOf, Formula.eval_implies, Formula.eval_conjoin, Formula.eval_literal,
      List.all_map, Function.comp_def, Formula.eval, hc, hall, Rule.Holds, Bool.or_eq_true,
      Bool.not_eq_true', beq_iff_eq, ← List.all_eq_true, Bool.eq_false_iff]
    exact imp_iff_not_or.symm

end

/-! ### Theories over a solver -/

variable {t : Theory Solver} {fs : List Formula}

/-- The constraints of the theory, besides what its solver makes of them: its atoms are the
handles, no name has two, and no scope is open. -/
structure Asserts (t : Theory Solver) (fs : List Formula) : Prop where
  refines : t.engine.Refines ⟨t.atoms.map Prod.snd, fs, []⟩
  names_nodup : (t.atoms.map Prod.fst).Nodup

theorem asserts_fresh : Asserts ⟨Solver.fresh, []⟩ [] := ⟨Solver.refines_fresh, List.nodup_nil⟩

theorem Asserts.handles_nodup (h : t.Asserts fs) : (t.atoms.map Prod.snd).Nodup := by
  have hvisible : (0 :: (t.engine.scopes ++ t.atoms.map Prod.snd)).Nodup := h.refines.nodup
  exact (List.nodup_append.mp (List.nodup_cons.mp hvisible).2).2.1

theorem Asserts.ensure [SatEngine] (h : t.Asserts fs) (name : String) :
    (t.ensure name).2.Asserts fs := by
  unfold Theory.ensure
  split
  · exact h
  · case _ hnone =>
    refine ⟨h.refines.declare, List.nodup_cons.mpr ⟨?_, h.names_nodup⟩⟩
    intro hmem
    obtain ⟨a, ha, rfl⟩ := List.mem_map.mp hmem
    exact absurd (beq_self_eq_true a.1) (by simpa using List.lookup_eq_none_iff.mp hnone a ha)

theorem Asserts.ensureAll [SatEngine] (h : t.Asserts fs) (names : List String) :
    (t.ensureAll names).2.Asserts fs := by
  induction names generalizing t with
  | nil => exact h
  | cons name names ih => exact ih (h.ensure name)

theorem Asserts.formulaOf [SatEngine] (h : t.Asserts fs) (r : Rule) :
    (t.formulaOf r).2.Asserts fs := by
  cases r with
  | fact subject value => exact h.ensure subject
  | implication premises conclusion value => exact (h.ensureAll premises).ensure conclusion

theorem Asserts.require [SatEngine] (h : t.Asserts fs) {f : Formula}
    (hf : ∀ i ∈ f.vars, i ∈ t.atoms.map Prod.snd) : (t.require f).Asserts (f :: fs) :=
  ⟨h.refines.add hf, h.names_nodup⟩

/-! ### Compiling -/

section

variable {σ : Type} [Incremental σ] {e : Entry} {es : List Entry} {n : Nat}

theorem compileEntries_of_error {d : Defect} (h : e.rule? = .error d) (t : Theory σ) :
    (t.compileEntries n (e :: es)).2 = (t.compileEntries (n + 1) es).2 := by
  simp only [compileEntries, h]

theorem compileEntries_of_ok {r : Rule} (h : e.rule? = .ok r) (t : Theory σ) :
    (t.compileEntries n (e :: es)).2 =
      (((t.formulaOf r).2.require (t.formulaOf r).1).compileEntries (n + 1) es).2 := by
  simp only [compileEntries, h]

theorem report_of_error {d : Defect} (h : e.rule? = .error d) (t : Theory σ) :
    (t.compileEntries n (e :: es)).1 =
      ((n, d) :: (t.compileEntries (n + 1) es).1.1, (t.compileEntries (n + 1) es).1.2) := by
  simp only [compileEntries, h]

theorem report_of_ok {r : Rule} (h : e.rule? = .ok r) (t : Theory σ) :
    (t.compileEntries n (e :: es)).1 =
      ((((t.formulaOf r).2.require (t.formulaOf r).1).compileEntries (n + 1) es).1.1,
        (((t.formulaOf r).2.require (t.formulaOf r).1).compileEntries (n + 1) es).1.2 + 1) := by
  simp only [compileEntries, h]

theorem atoms_suffix_compileEntries (n : Nat) (es : List Entry) (t : Theory σ) :
    t.atoms <:+ (t.compileEntries n es).2.atoms := by
  induction es generalizing n t with
  | nil => exact List.suffix_rfl
  | cons e es ih =>
    cases he : e.rule? with
    | error d =>
      rw [compileEntries_of_error he]
      exact ih (n + 1) t
    | ok r =>
      rw [compileEntries_of_ok he]
      exact (atoms_suffix_formulaOf r t).trans
        (ih (n + 1) ((t.formulaOf r).2.require (t.formulaOf r).1))

end

/-- Compiling entries adds constraints that say what the rules among them say. -/
theorem Asserts.compileEntries [SatEngine] (h : t.Asserts fs) (n : Nat) (es : List Entry) :
    ∃ gs, (t.compileEntries n es).2.Asserts (gs ++ fs) ∧
      Says (t.compileEntries n es).2.atoms gs (compiled es) := by
  induction es generalizing n t fs with
  | nil => exact ⟨[], h, fun ρ v _ => by simp [compiled]⟩
  | cons e es ih =>
    cases he : e.rule? with
    | error d =>
      rw [compileEntries_of_error he, compiled_cons_of_error he]
      exact ih h (n + 1)
    | ok r =>
      obtain ⟨gs, hgs, hmean⟩ :=
        ih ((h.formulaOf r).require (vars_formulaOf r t)) (n + 1)
      rw [compileEntries_of_ok he, compiled_cons_of_ok he]
      refine ⟨gs ++ [(t.formulaOf r).1], by simpa using hgs, fun ρ v hag => ?_⟩
      have hr := eval_formulaOf r t (hag.of_suffix (atoms_suffix_compileEntries (n + 1) es
        ((t.formulaOf r).2.require (t.formulaOf r).1)))
      rw [List.forall_mem_append, hmean ρ v hag, List.forall_mem_singleton, hr,
        List.forall_mem_cons, and_comm]

/-- **Compiling a sketch** adds constraints that say what its rules say, and gives the variable of
the query. -/
theorem Asserts.compile [SatEngine] (h : t.Asserts fs) (sketch : Sketch) :
    ∃ gs, (t.compile sketch).2.Asserts (gs ++ fs) ∧
      Says (t.compile sketch).2.atoms gs sketch.rules ∧
      (sketch.query, (t.compile sketch).1.1) ∈ (t.compile sketch).2.atoms := by
  obtain ⟨gs, hgs, hmean⟩ := (h.ensureAll sketch.declared).compileEntries 0 sketch.entries
  refine ⟨gs, hgs.ensure sketch.query, fun ρ v hag => ?_, mem_atoms_ensure sketch.query _⟩
  exact hmean ρ v (hag.of_suffix (atoms_suffix_ensure sketch.query _))

/-! ### Checking under an assumption -/

/-- Variables can satisfy the constraints exactly as names can satisfy the rules. -/
theorem Asserts.satisfiable_literal_iff (h : t.Asserts fs) {rules : List Rule}
    (hmean : Says t.atoms fs rules) {name : String} {i : Nat} (hi : (name, i) ∈ t.atoms)
    (b : Bool) :
    Satisfiable (Formula.literal i b :: fs) ↔
      ∃ ρ : Valuation, (∀ r ∈ rules, r.Holds ρ) ∧ ρ name = b := by
  have hvalue : ∀ ρ v, Agrees t.atoms ρ v →
      ((∀ f ∈ Formula.literal i b :: fs, f.eval v = true) ↔
        (∀ r ∈ rules, r.Holds ρ) ∧ ρ name = b) := by
    intro ρ v hag
    have hname : v i = ρ name := hag _ hi
    rw [List.forall_mem_cons, hmean ρ v hag, Formula.eval_literal, beq_iff_eq, hname, and_comm]
  constructor
  · rintro ⟨v, hv⟩
    obtain ⟨ρ, hag⟩ := exists_agrees_valuation h.names_nodup v
    exact ⟨ρ, (hvalue ρ v hag).mp hv⟩
  · rintro ⟨ρ, hρ⟩
    obtain ⟨v, hag⟩ := exists_agrees_assignment h.handles_nodup ρ
    exact ⟨v, (hvalue ρ v hag).mpr hρ⟩

/-- An assumption is checked together with all constraints, and then it is gone. -/
theorem Asserts.assuming [SatEngine] (correct : SatEngine.Correct) (h : t.Asserts fs)
    {f : Formula} (hf : ∀ i ∈ f.vars, i ∈ t.atoms.map Prod.snd) :
    (t.assuming f).2.Asserts fs ∧
      ((t.assuming f).1 = .sat ↔ Satisfiable (f :: fs)) ∧
      ((t.assuming f).1 = .unsat ↔ ¬ Satisfiable (f :: fs)) := by
  have hadd := h.refines.push.add hf
  have hforce : Satisfiable (((Ledger.mk (t.atoms.map Prod.snd) fs []).push.add f).inForce) ↔
      Satisfiable (f :: fs) :=
    exists_congr fun v => by
      simp [Ledger.push, Ledger.add, Ledger.inForce, or_comm, forall_and, or_imp]
  have hcheck := hadd.check correct
  rw [hforce] at hcheck
  exact ⟨⟨hadd.pop, h.names_nodup⟩, hcheck⟩

end Theory

end Entail
