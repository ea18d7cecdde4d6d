/-
Entail/Formula.lean

Propositional formulas over numbered variables, and what they mean.

A formula is built from variables by negation and by conjunctions and disjunctions of any number
of operands.  `Formula.eval` gives its truth value under an assignment of the variables.

Two builders keep formulas small: `negate` takes an outer negation off instead of adding a second
one, and `conjoin` leaves a single operand as it is.  Neither changes the meaning (`eval_negate`,
`eval_conjoin`), so `implies` and `literal`, which are made of them, mean what their names say.
-/

namespace Entail

/-- A propositional formula.  An empty conjunction is true and an empty disjunction is false. -/
inductive Formula where
  | var (index : Nat)
  | not (operand : Formula)
  | and (operands : List Formula)
  | or (operands : List Formula)
  deriving Inhabited

/-- A truth value for every variable. -/
abbrev Assignment := Nat → Bool

namespace Formula

/-! ### Meaning -/

mutual

/-- The truth value of a formula under an assignment. -/
def eval (v : Assignment) : Formula → Bool
  | .var i => v i
  | .not f => !eval v f
  | .and fs => evalAll v fs
  | .or fs => evalAny v fs

/-- Whether all formulas of a list are true. -/
def evalAll (v : Assignment) : List Formula → Bool
  | [] => true
  | f :: fs => eval v f && evalAll v fs

/-- Whether some formula of a list is true. -/
def evalAny (v : Assignment) : List Formula → Bool
  | [] => false
  | f :: fs => eval v f || evalAny v fs

end

theorem evalAll_eq_all (v : Assignment) (fs : List Formula) :
    evalAll v fs = fs.all (eval v) := by
  induction fs with
  | nil => rfl
  | cons f fs ih => simp [evalAll, ih]

theorem evalAny_eq_any (v : Assignment) (fs : List Formula) :
    evalAny v fs = fs.any (eval v) := by
  induction fs with
  | nil => rfl
  | cons f fs ih => simp [evalAny, ih]

/-! ### Builders -/

/-- The negation of a formula.  An outer negation is taken off. -/
def negate : Formula → Formula
  | .not f => f
  | f => .not f

/-- The conjunction of a list.  A single operand stands for itself. -/
def conjoin : List Formula → Formula
  | [f] => f
  | fs => .and fs

/-- The clause that says: if the premise holds, so does the conclusion. -/
def implies (premise conclusion : Formula) : Formula :=
  .or [negate premise, conclusion]

/-- The formula that says a variable has a given value. -/
def literal (index : Nat) : Bool → Formula
  | true => .var index
  | false => negate (.var index)

theorem eval_negate (v : Assignment) (f : Formula) : (negate f).eval v = !f.eval v := by
  cases f <;> simp [negate, eval]

theorem eval_conjoin (v : Assignment) (fs : List Formula) :
    (conjoin fs).eval v = fs.all (eval v) := by
  unfold conjoin
  split <;> simp [eval, evalAll_eq_all]

theorem eval_implies (v : Assignment) (p c : Formula) :
    (implies p c).eval v = (!p.eval v || c.eval v) := by
  simp [implies, eval, evalAny, eval_negate]

theorem eval_literal (v : Assignment) (i : Nat) (b : Bool) :
    (literal i b).eval v = (v i == b) := by
  cases b <;> simp [literal, eval, eval_negate]

end Formula

end Entail
