/-
Entail/Proofs/Builders.lean

Formulas that are put together with the builders.

A `Recipe` says which builder is applied to what: those that keep formulas small, and also the bare
negation and conjunction, which simplify nothing.  It has a meaning of its own (`Recipe.value`), in
which no formula occurs.

The builders undo each other's work.  A conjunction of one operand is that operand, which may be a
negation, and then the negation around it takes it off.  So what a builder returns need not have the
connective of the builder at its top, and both results are carried through the whole recipe: the
formula means what the recipe says (`Recipe.eval_build`), and where no bare constructor is used
nothing in it could be made smaller (`Recipe.reduced_build`).
-/
import Entail.Formula
import Mathlib.Logic.Basic

namespace Entail

/-! ### Formulas that cannot be made smaller -/

namespace Formula

/-- The formula stands somewhere in another one, or is that one. -/
inductive Part (g : Formula) : Formula → Prop
  | self : Part g g
  | not {f : Formula} (h : Part g f) : Part g (.not f)
  | and {fs : List Formula} {f : Formula} (hf : f ∈ fs) (h : Part g f) : Part g (.and fs)
  | or {fs : List Formula} {f : Formula} (hf : f ∈ fs) (h : Part g f) : Part g (.or fs)

/-- The formula says the same as a smaller one that stands in it. -/
inductive Redundant : Formula → Prop
  | not_not (f : Formula) : Redundant (.not (.not f))
  | and_singleton (f : Formula) : Redundant (.and [f])

/-- Nowhere is there a negation right under a negation, or a conjunction of one operand. -/
def Reduced (f : Formula) : Prop := ∀ g, Part g f → ¬ g.Redundant

section

variable {f p c : Formula} {fs : List Formula}

theorem reduced_var (i : Nat) : (var i).Reduced := by
  intro g hg hred
  cases hg with
  | self => cases hred

/-- A negation of anything but a negation adds nothing that could be taken away. -/
theorem Reduced.not (h : f.Reduced) (hf : ∀ g, f ≠ .not g) : (Formula.not f).Reduced := by
  intro g hg hred
  cases hg with
  | self =>
    cases hred with
    | not_not g => exact hf g rfl
  | not hg => exact h g hg hred

theorem Reduced.of_not (h : (Formula.not f).Reduced) : f.Reduced :=
  fun g hg => h g (.not hg)

theorem Reduced.and (h : ∀ f ∈ fs, f.Reduced) (hfs : ∀ f, fs ≠ [f]) :
    (Formula.and fs).Reduced := by
  intro g hg hred
  cases hg with
  | self =>
    cases hred with
    | and_singleton f => exact hfs f rfl
  | and hf hg => exact h _ hf g hg hred

theorem Reduced.or (h : ∀ f ∈ fs, f.Reduced) : (Formula.or fs).Reduced := by
  intro g hg hred
  cases hg with
  | self => cases hred
  | or hf hg => exact h _ hf g hg hred

theorem Reduced.negate (h : f.Reduced) : (negate f).Reduced := by
  cases f with
  | not f => exact h.of_not
  | var i => exact h.not fun g => Formula.noConfusion
  | and fs => exact h.not fun g => Formula.noConfusion
  | or fs => exact h.not fun g => Formula.noConfusion

theorem Reduced.conjoin (h : ∀ f ∈ fs, f.Reduced) : (conjoin fs).Reduced := by
  unfold Formula.conjoin
  split
  case h_1 f => exact h f List.mem_cons_self
  case h_2 hfs => exact .and h hfs

theorem Reduced.implies (hp : p.Reduced) (hc : c.Reduced) : (implies p c).Reduced := by
  refine .or ?_
  rw [List.forall_mem_cons, List.forall_mem_singleton]
  exact ⟨hp.negate, hc⟩

theorem reduced_literal (i : Nat) (b : Bool) : (literal i b).Reduced := by
  cases b with
  | true => exact reduced_var i
  | false => exact (reduced_var i).negate

end

end Formula

/-! ### Recipes -/

/-- Which builders are applied to what.  `bareNot` and `bareAnd` are the constructors of formulas,
which simplify nothing. -/
inductive Recipe where
  | var (index : Nat)
  | literal (index : Nat) (value : Bool)
  | negate (operand : Recipe)
  | conjoin (operands : List Recipe)
  | or (operands : List Recipe)
  | implies (premise conclusion : Recipe)
  | bareNot (operand : Recipe)
  | bareAnd (operands : List Recipe)

namespace Recipe

/-- Induction over a recipe, with the hypothesis for every operand. -/
@[induction_eliminator]
theorem induction {motive : Recipe → Prop} (var : ∀ i, motive (.var i))
    (literal : ∀ i b, motive (.literal i b)) (negate : ∀ r, motive r → motive (.negate r))
    (conjoin : ∀ rs, (∀ r ∈ rs, motive r) → motive (.conjoin rs))
    (or : ∀ rs, (∀ r ∈ rs, motive r) → motive (.or rs))
    (implies : ∀ p c, motive p → motive c → motive (.implies p c))
    (bareNot : ∀ r, motive r → motive (.bareNot r))
    (bareAnd : ∀ rs, (∀ r ∈ rs, motive r) → motive (.bareAnd rs)) (r : Recipe) : motive r :=
  @Recipe.rec motive (fun rs => ∀ r ∈ rs, motive r) var literal negate conjoin or implies bareNot
    bareAnd (fun _ h => absurd h List.not_mem_nil)
    (fun _ _ hr hrs => List.forall_mem_cons.mpr ⟨hr, hrs⟩) r

mutual

/-- The formula that the builders make. -/
def build : Recipe → Formula
  | .var i => .var i
  | .literal i b => Formula.literal i b
  | .negate r => Formula.negate (build r)
  | .conjoin rs => Formula.conjoin (buildAll rs)
  | .or rs => .or (buildAll rs)
  | .implies p c => Formula.implies (build p) (build c)
  | .bareNot r => .not (build r)
  | .bareAnd rs => .and (buildAll rs)

/-- The formulas of a list of recipes. -/
def buildAll : List Recipe → List Formula
  | [] => []
  | r :: rs => build r :: buildAll rs

end

mutual

/-- The truth value that a recipe stands for under an assignment. -/
def value (v : Assignment) : Recipe → Bool
  | .var i => v i
  | .literal i b => v i == b
  | .negate r => !value v r
  | .conjoin rs => allValue v rs
  | .or rs => anyValue v rs
  | .implies p c => !value v p || value v c
  | .bareNot r => !value v r
  | .bareAnd rs => allValue v rs

/-- Whether all recipes of a list stand for true. -/
def allValue (v : Assignment) : List Recipe → Bool
  | [] => true
  | r :: rs => value v r && allValue v rs

/-- Whether some recipe of a list stands for true. -/
def anyValue (v : Assignment) : List Recipe → Bool
  | [] => false
  | r :: rs => value v r || anyValue v rs

end

mutual

/-- A bare negation or conjunction is used somewhere. -/
def usesBare : Recipe → Bool
  | .var _ => false
  | .literal _ _ => false
  | .negate r => usesBare r
  | .conjoin rs => anyUsesBare rs
  | .or rs => anyUsesBare rs
  | .implies p c => usesBare p || usesBare c
  | .bareNot _ => true
  | .bareAnd _ => true

/-- A bare negation or conjunction is used in some recipe of a list. -/
def anyUsesBare : List Recipe → Bool
  | [] => false
  | r :: rs => usesBare r || anyUsesBare rs

end

section

variable {rs : List Recipe} {r : Recipe} {v : Assignment}

theorem buildAll_eq_map : buildAll rs = rs.map build := by
  induction rs with
  | nil => rfl
  | cons r rs ih => rw [buildAll, ih, List.map_cons]

theorem allValue_eq_all : allValue v rs = rs.all (value v) := by
  induction rs with
  | nil => rfl
  | cons r rs ih => rw [allValue, ih, List.all_cons]

theorem anyValue_eq_any : anyValue v rs = rs.any (value v) := by
  induction rs with
  | nil => rfl
  | cons r rs ih => rw [anyValue, ih, List.any_cons]

theorem anyUsesBare_eq_false_iff : anyUsesBare rs = false ↔ ∀ r ∈ rs, r.usesBare = false := by
  induction rs with
  | nil => simp [anyUsesBare]
  | cons r rs ih => rw [anyUsesBare, Bool.or_eq_false_iff, ih, List.forall_mem_cons]

/-! ### What recipes build -/

theorem all_buildAll (h : ∀ r ∈ rs, r.build.eval v = r.value v) :
    (buildAll rs).all (Formula.eval v) = rs.all (value v) := by
  rw [buildAll_eq_map, List.all_map, Bool.eq_iff_iff, List.all_eq_true, List.all_eq_true]
  exact forall₂_congr fun r hr => by rw [Function.comp_apply, h r hr]

theorem any_buildAll (h : ∀ r ∈ rs, r.build.eval v = r.value v) :
    (buildAll rs).any (Formula.eval v) = rs.any (value v) := by
  rw [buildAll_eq_map, List.any_map, Bool.eq_iff_iff, List.any_eq_true, List.any_eq_true]
  exact exists_congr fun r => and_congr_right fun hr => by rw [Function.comp_apply, h r hr]

/-- The formula means what the recipe says. -/
theorem eval_build (v : Assignment) (r : Recipe) : r.build.eval v = r.value v := by
  induction r with
  | var i => rfl
  | literal i b => exact Formula.eval_literal v i b
  | negate r ih => rw [build, Formula.eval_negate, ih, value]
  | conjoin rs ih => rw [build, Formula.eval_conjoin, all_buildAll ih, value, allValue_eq_all]
  | or rs ih =>
    rw [build, Formula.eval, Formula.evalAny_eq_any, any_buildAll ih, value, anyValue_eq_any]
  | implies p c ihp ihc => rw [build, Formula.eval_implies, ihp, ihc, value]
  | bareNot r ih => rw [build, Formula.eval, ih, value]
  | bareAnd rs ih =>
    rw [build, Formula.eval, Formula.evalAll_eq_all, all_buildAll ih, value, allValue_eq_all]

theorem reduced_buildAll (ih : ∀ r ∈ rs, r.usesBare = false → r.build.Reduced)
    (h : anyUsesBare rs = false) : ∀ f ∈ buildAll rs, f.Reduced := by
  rw [buildAll_eq_map, List.forall_mem_map]
  exact fun r hr => ih r hr (anyUsesBare_eq_false_iff.mp h r hr)

/-- Without bare constructors nothing that is built could be made smaller. -/
theorem reduced_build (h : r.usesBare = false) : r.build.Reduced := by
  induction r with
  | var i => exact Formula.reduced_var i
  | literal i b => exact Formula.reduced_literal i b
  | negate r ih => exact (ih h).negate
  | conjoin rs ih => exact .conjoin (reduced_buildAll ih h)
  | or rs ih => exact .or (reduced_buildAll ih h)
  | implies p c ihp ihc =>
    obtain ⟨hp, hc⟩ := Bool.or_eq_false_iff.mp h
    exact .implies (ihp hp) (ihc hc)
  | bareNot r ih => exact absurd h Bool.noConfusion
  | bareAnd rs ih => exact absurd h Bool.noConfusion

end

/-- **Builders keep the meaning and a reduced form.**  What a recipe builds has, under every
assignment, the truth value that the recipe stands for.  If no bare constructor is used, then
nowhere in it is a negation right under a negation or a conjunction of one operand. -/
theorem build_keeps_meaning_and_form (r : Recipe) :
    (∀ v : Assignment, r.build.eval v = r.value v) ∧
      (r.usesBare = false → ∀ g, ¬ Formula.Part (.not (.not g)) r.build ∧
        ¬ Formula.Part (.and [g]) r.build) := by
  refine ⟨fun v => eval_build v r, fun h g => ⟨?_, ?_⟩⟩
  · intro hpart
    exact reduced_build h _ hpart (.not_not g)
  · intro hpart
    exact reduced_build h _ hpart (.and_singleton g)

/-- A conjunction of one negation loses its conjunction first, and then its negation to the
implication whose premise it is. -/
def nestedRecipe : Recipe :=
  .implies (.conjoin [.negate (.conjoin [.var 0, .literal 1 false])])
    (.negate (.conjoin [.literal 2 false]))

theorem build_keeps_meaning_and_form_nested :
    nestedRecipe.usesBare = false ∧
      nestedRecipe.build = .or [.and [.var 0, .not (.var 1)], .var 2] ∧
      ∀ g, ¬ Formula.Part (.not (.not g)) nestedRecipe.build ∧
        ¬ Formula.Part (.and [g]) nestedRecipe.build :=
  ⟨rfl, rfl, (build_keeps_meaning_and_form nestedRecipe).2 rfl⟩

end Recipe

end Entail
