/-
Entail/Incremental.lean

The interface of an incremental solver: named variables, constraints, nested scopes and checks.

Constraints added while no scope is open stay for good.  Those added after a `push` are gone after
the matching `pop`.  The rest of the library is written against this interface, so the same code
runs over the real solver (`Entail.Solver`) and over one that replays a script
(`Entail.Scripted`).
-/
import Entail.Formula

namespace Entail

/-- What a satisfiability check found. -/
inductive Outcome where
  | sat
  | unsat
  | unknown
  deriving DecidableEq, Repr, Inhabited

namespace Outcome

/-- The word an outcome is written with. -/
def word : Outcome → String
  | .sat => "sat"
  | .unsat => "unsat"
  | .unknown => "unknown"

/-- All outcomes with their words. -/
def words : List (String × Outcome) :=
  [("sat", .sat), ("unsat", .unsat), ("unknown", .unknown)]

end Outcome

/-- A state that can be asked to declare variables, take constraints, open and close scopes, and
check whether the constraints in force can hold together. -/
class Incremental (σ : Type) where
  /-- A new variable, remembered under a name. -/
  declare : String → σ → Nat × σ
  /-- Require a formula in the innermost open scope. -/
  add : Formula → σ → σ
  /-- Open a scope. -/
  push : σ → σ
  /-- Close the innermost open scope. -/
  pop : σ → σ
  /-- Check the constraints in force. -/
  check : σ → Outcome × σ

end Entail
