/-
Entail/Solver.lean

The solver: formulas become clauses, and scopes become activation literals.

Variable 0 is a constant that one unit clause makes true.  A connective below the top of a formula
gets a variable of its own, defined by clauses that make it equivalent to the operands
(`Solver.encode`).  A formula at the top needs none: a conjunction is split into its operands and
a disjunction is one clause.

A clause added inside a scope carries the negation of the scope's variable, and a check asks an
engine (`SatEngine`) under the assumption of the variables of all open scopes.  Opening a scope
inside another adds the clause that the inner one implies the outer one, and closing a scope makes
its variable false for good, so whatever the scope guarded holds vacuously from then on.
-/
import Entail.Clause
import Entail.Incremental

namespace Entail

/-- The clauses given so far, with the variables in use and the open scopes. -/
structure Solver where
  /-- How many variables are in use; they are numbered from 0. -/
  size : Nat
  /-- The clauses, the newest first. -/
  clauses : List Clause
  /-- The variables of the open scopes, the innermost first. -/
  scopes : List Nat
  deriving Repr

namespace Solver

/-- The literal that is true in every state. -/
def verum : Literal := ⟨0, true⟩

/-- A solver with nothing in it but the constant. -/
def fresh : Solver := ⟨1, [[verum]], []⟩

/-- The next unused variable. -/
def newVar (s : Solver) : Nat × Solver := (s.size, { s with size := s.size + 1 })

/-- Add a clause that holds whatever the scopes. -/
def require (c : Clause) (s : Solver) : Solver := { s with clauses := c :: s.clauses }

/-- Add a clause that holds as long as the innermost open scope does. -/
def guarded (c : Clause) (s : Solver) : Solver :=
  match s.scopes with
  | [] => s.require c
  | scope :: _ => s.require (c ++ [⟨scope, false⟩])

/-! ### Encoding -/

/-- A new literal, with clauses that make it equivalent to the conjunction of the given ones. -/
def defineAnd (ls : List Literal) (s : Solver) : Literal × Solver :=
  let (i, s) := s.newVar
  let t : Literal := ⟨i, true⟩
  let s := ls.foldl (fun s l => s.require [t.negate, l]) s
  (t, s.require (t :: ls.map Literal.negate))

/-- A new literal, with clauses that make it equivalent to the disjunction of the given ones. -/
def defineOr (ls : List Literal) (s : Solver) : Literal × Solver :=
  let (i, s) := s.newVar
  let t : Literal := ⟨i, true⟩
  let s := ls.foldl (fun s l => s.require [t, l.negate]) s
  (t, s.require (t.negate :: ls))

mutual

/-- A literal equivalent to a formula.  Operands are encoded from left to right and before the
variable that stands for their connective is made; an empty connective needs no variable. -/
def encode : Formula → Solver → Literal × Solver
  | .var i, s => (⟨i, true⟩, s)
  | .not f, s =>
    let (l, s) := encode f s
    (l.negate, s)
  | .and [], s => (verum, s)
  | .and (f :: fs), s =>
    let (l, s) := encode f s
    let (ls, s) := encodeAll fs s
    defineAnd (l :: ls) s
  | .or [], s => (verum.negate, s)
  | .or (f :: fs), s =>
    let (l, s) := encode f s
    let (ls, s) := encodeAll fs s
    defineOr (l :: ls) s

/-- The literals of a list of formulas, encoded from left to right. -/
def encodeAll : List Formula → Solver → List Literal × Solver
  | [], s => ([], s)
  | f :: fs, s =>
    let (l, s) := encode f s
    let (ls, s) := encodeAll fs s
    (l :: ls, s)

end

/-! ### Constraints, scopes and checks -/

mutual

/-- Require a formula in the innermost open scope. -/
def add : Formula → Solver → Solver
  | .and fs, s => addAll fs s
  | .or fs, s =>
    let (ls, s) := encodeAll fs s
    -- No operand at all makes a clause that never holds, not the empty clause.
    s.guarded (if ls.isEmpty then [verum.negate] else ls)
  | .var i, s => s.guarded [⟨i, true⟩]
  | .not f, s =>
    let (l, s) := encode f s
    s.guarded [l.negate]

/-- Require every formula of a list. -/
def addAll : List Formula → Solver → Solver
  | [], s => s
  | f :: fs, s => addAll fs (add f s)

end

/-- Open a scope. -/
def push (s : Solver) : Solver :=
  let (scope, s) := s.newVar
  -- The inner scope cannot be on while the outer one is off.
  let s := match s.scopes with
    | [] => s
    | outer :: _ => s.require [⟨scope, false⟩, ⟨outer, true⟩]
  { s with scopes := scope :: s.scopes }

/-- Close the innermost scope.  With no scope open nothing happens. -/
def pop (s : Solver) : Solver :=
  match s.scopes with
  | [] => s
  | scope :: outer => { s with scopes := outer }.require [⟨scope, false⟩]

/-- Whether the clauses can hold with every open scope switched on.  Where the engine fails this
stays unknown. -/
def check [SatEngine] (s : Solver) : Outcome :=
  match SatEngine.solve s.clauses (s.scopes.map fun i => ⟨i, true⟩) with
  | some true => .sat
  | some false => .unsat
  | none => .unknown

instance [SatEngine] : Incremental Solver where
  declare _ := newVar
  add := add
  push := push
  pop := pop
  check s := (s.check, s)

end Solver

end Entail
