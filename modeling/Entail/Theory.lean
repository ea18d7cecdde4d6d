/-
Entail/Theory.lean

A theory: a solver together with the names of the atoms it knows.

A name gets a variable when it is first mentioned and keeps it from then on (`Theory.ensure`).
Compiling a sketch mentions its declared atoms, adds one constraint for each entry that is a rule,
and mentions the query (`Theory.compile`).  Assuming a formula opens a scope for it, checks, and
closes the scope again (`Theory.assuming`), so a check leaves no constraint behind.
-/
import Entail.Incremental
import Entail.Rule

namespace Entail

/-- A solver with the variables of the atoms that have been mentioned, the newest first. -/
structure Theory (σ : Type) where
  engine : σ
  atoms : List (String × Nat) := []

/-- What compiling a sketch did. -/
structure Report where
  /-- The atoms that facts give both values. -/
  contradictions : List String
  /-- The entries that are no rules: their positions, and why. -/
  skipped : List (Nat × Defect)
  /-- How many constraints were added. -/
  constraints : Nat
  deriving Repr

/-- Nothing contradictory was found and nothing was skipped. -/
def Report.clean (r : Report) : Bool := r.contradictions.isEmpty && r.skipped.isEmpty

namespace Theory

variable {σ : Type} [Incremental σ]

/-- The variable of an atom, made on first mention. -/
def ensure (name : String) (t : Theory σ) : Nat × Theory σ :=
  match t.atoms.lookup name with
  | some i => (i, t)
  | none =>
    let (i, engine) := Incremental.declare name t.engine
    (i, ⟨engine, (name, i) :: t.atoms⟩)

/-- The variables of several atoms, from left to right. -/
def ensureAll : List String → Theory σ → List Nat × Theory σ
  | [], t => ([], t)
  | name :: names, t =>
    let (i, t) := t.ensure name
    let (is, t) := ensureAll names t
    (i :: is, t)

/-- Require a formula for good. -/
def require (f : Formula) (t : Theory σ) : Theory σ :=
  { t with engine := Incremental.add f t.engine }

/-- Check with a formula added in a scope of its own, which is closed again. -/
def assuming (f : Formula) (t : Theory σ) : Outcome × Theory σ :=
  let (outcome, engine) := Incremental.check (Incremental.add f (Incremental.push t.engine))
  (outcome, { t with engine := Incremental.pop engine })

/-- The constraint a rule stands for.  The atoms of the rule are mentioned first, premises before
the conclusion. -/
def formulaOf : Rule → Theory σ → Formula × Theory σ
  | .fact subject value, t =>
    let (i, t) := t.ensure subject
    (Formula.literal i value, t)
  | .implication premises conclusion value, t =>
    let (is, t) := t.ensureAll premises
    let (i, t) := t.ensure conclusion
    (Formula.implies (Formula.conjoin (is.map .var)) (Formula.literal i value), t)

/-- Compile the entries from a given position on.  The result holds the entries that were skipped
and the number of constraints added. -/
def compileEntries : Nat → List Entry → Theory σ → (List (Nat × Defect) × Nat) × Theory σ
  | _, [], t => (([], 0), t)
  | position, e :: es, t =>
    match e.rule? with
    | .error defect =>
      let ((skipped, count), t) := compileEntries (position + 1) es t
      (((position, defect) :: skipped, count), t)
    | .ok rule =>
      -- The atoms of the rule come before its constraint and before the atoms of later rules.
      let (f, t) := t.formulaOf rule
      let ((skipped, count), t) := compileEntries (position + 1) es (t.require f)
      ((skipped, count + 1), t)

/-- Compile a sketch.  The result is the variable of its query and a report. -/
def compile (sketch : Sketch) (t : Theory σ) : (Nat × Report) × Theory σ :=
  let (_, t) := t.ensureAll sketch.declared
  let ((skipped, count), t) := t.compileEntries 0 sketch.entries
  let (query, t) := t.ensure sketch.query
  ((query, ⟨contradictions sketch.entries, skipped, count⟩), t)

end Theory

end Entail
