/-
Entail/Decision.lean

Deciding an atom by two checks: one with the atom assumed true, one with it assumed false.

The atom is decided exactly when one of the two is consistent with the theory and the other is
not.  `Decision.ofOutcomes` gives the verdict for each pair of outcomes, `Theory.decide` makes the
two checks, and `Sketch.evaluate` compiles a sketch into an empty theory and decides its query.
-/
import Entail.Theory

namespace Entail

/-- The answer to a yes/no question. -/
inductive Verdict where
  | yes
  | no
  | unknown
  deriving DecidableEq, Repr

/-- The word a verdict is written with. -/
def Verdict.word : Verdict → String
  | .yes => "yes"
  | .no => "no"
  | .unknown => "unknown"

/-- All verdicts with their words. -/
def Verdict.words : List (String × Verdict) :=
  [("yes", .yes), ("no", .no), ("unknown", .unknown)]

/-- Why a pair of checks led to its verdict. -/
inductive Reason where
  /-- Exactly one value is consistent. -/
  | forced
  /-- Both values are consistent. -/
  | underdetermined
  /-- Neither value is consistent. -/
  | inconsistent
  /-- A check found nothing out. -/
  | indeterminate
  deriving DecidableEq, Repr

/-- The word a reason is written with. -/
def Reason.word : Reason → String
  | .forced => "forced"
  | .underdetermined => "underdetermined"
  | .inconsistent => "inconsistent"
  | .indeterminate => "indeterminate"

/-- The word a reason starts a line with. -/
def Reason.title : Reason → String
  | .forced => "Forced"
  | .underdetermined => "Underdetermined"
  | .inconsistent => "Inconsistent"
  | .indeterminate => "Indeterminate"

/-- All reasons with their words. -/
def Reason.words : List (String × Reason) :=
  [("forced", .forced), ("underdetermined", .underdetermined), ("inconsistent", .inconsistent),
    ("indeterminate", .indeterminate)]

/-- A verdict with its reason and the outcomes of both checks. -/
structure Decision where
  verdict : Verdict
  reason : Reason
  assumeTrue : Outcome
  assumeFalse : Outcome
  deriving DecidableEq, Repr

namespace Decision

/-- The verdict and reason for a pair of outcomes: with the atom true, with the atom false. -/
def judge : Outcome → Outcome → Verdict × Reason
  | .sat, .unsat => (.yes, .forced)
  | .unsat, .sat => (.no, .forced)
  | .sat, .sat => (.unknown, .underdetermined)
  | .unsat, .unsat => (.unknown, .inconsistent)
  | _, _ => (.unknown, .indeterminate)

/-- The decision that a pair of outcomes leads to. -/
def ofOutcomes (assumeTrue assumeFalse : Outcome) : Decision :=
  let (verdict, reason) := judge assumeTrue assumeFalse
  ⟨verdict, reason, assumeTrue, assumeFalse⟩

/-- The verdict is yes or no. -/
def decided (d : Decision) : Bool := d.verdict != .unknown

end Decision

/-- Decide a variable: check with it true, then with it false. -/
def Theory.decide {σ : Type} [Incremental σ] (query : Nat) (t : Theory σ) : Decision × Theory σ :=
  let (assumeTrue, t) := t.assuming (.var query)
  let (assumeFalse, t) := t.assuming (Formula.negate (.var query))
  (Decision.ofOutcomes assumeTrue assumeFalse, t)

/-- The decision on a sketch, with the report of its compilation. -/
structure Evaluation where
  decision : Decision
  report : Report
  deriving Repr

/-- Compile a sketch into a theory without atoms over the given solver, and decide its query.  The
solver is handed back as it stands afterwards. -/
def Sketch.evaluate {σ : Type} [Incremental σ] (engine : σ) (sketch : Sketch) : Evaluation × σ :=
  let ((query, report), t) := (Theory.mk engine []).compile sketch
  let (decision, t) := t.decide query
  (⟨decision, report⟩, t.engine)

end Entail
