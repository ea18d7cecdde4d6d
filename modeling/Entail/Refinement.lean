/-
Entail/Refinement.lean

Answering a question by refining sketches until one decides it.

A generator proposes sketches, and each one that can be read is evaluated.  The first that decides
its query ends the run.  Every other attempt becomes feedback for the next request.  When the
budget of attempts is used up the generator is asked for a plain answer.  A failure of the
generator ends the run at once; what it writes never does.

`Run.step` is one step of a run and `Run.finish` takes steps until the run ends, which it does
because every step that goes on leaves fewer of them (`Run.stepsLeft_step_lt`).
-/
import Entail.Document.Sketch
import Entail.Generator
import Entail.Scripted
import Entail.Solver
import Entail.Decision

namespace Entail

/-! ### Judges -/

/-- Something with state `β` that evaluates sketches. -/
class Judge (β : Type) where
  judge : Sketch → β → Evaluation × β

/-- Sketches share one script and one log. -/
instance : Judge Scripted where
  judge sketch engine := sketch.evaluate engine

/-- Every sketch is evaluated by a solver of its own. -/
instance [SatEngine] : Judge Solver where
  judge sketch engine := ((sketch.evaluate engine).1, engine)

/-! ### Answers -/

/-- What a run concludes. -/
inductive Conclusion where
  | yes
  | no
  /-- The plain answer of the generator. -/
  | fallback (text : String)
  deriving DecidableEq, Repr

/-- How a conclusion is written. -/
def Conclusion.text : Conclusion → String
  | .yes => "yes"
  | .no => "no"
  | .fallback t => t

/-- What came of one text of the generator. -/
inductive Finding where
  /-- It is no sketch. -/
  | malformed (error : SketchError)
  /-- It is a sketch that does not decide its query. -/
  | undecided (reason : Reason)
  | decided (verdict : Verdict)
  deriving Repr

/-- One request for a sketch. -/
structure Attempt where
  /-- Its number, counted from 1. -/
  iteration : Nat
  /-- The fingerprint of the sketch, if there was one. -/
  fingerprint : Option String
  finding : Finding
  deriving Repr

/-- The answer to a question, with the sketch that decided it and all attempts. -/
structure Answer where
  conclusion : Conclusion
  sketch : Option Sketch
  attempts : List Attempt
  deriving Repr

/-- How many sketches were asked for. -/
def Answer.iterations (a : Answer) : Nat := a.attempts.length

/-- A sketch decided the question. -/
def Answer.decided (a : Answer) : Bool :=
  match a.conclusion with
  | .fallback _ => false
  | _ => true

/-! ### Feedback -/

/-- Feedback on a text that is no sketch. -/
def malformedFeedback (e : SketchError) : String :=
  "JSON parse error from generator output. Please output valid JSON. Error: " ++ e.message

/-- What feedback says about the reason. -/
def Reason.hint : Reason → String
  | .forced => ""
  | .underdetermined => " The rules allow the query to be either true or false."
  | .inconsistent => " The rules contradict each other."
  | .indeterminate => " The solver returned no result."

/-- Feedback on a sketch that decided nothing. -/
def undecidedFeedback (sketch : Sketch) (reason : Reason) (repeated : Bool) : String :=
  "Solver could not decide. Sketch was: " ++ sketch.json ++ ". Refine the rules." ++ reason.hint ++
    if repeated then " This is the same sketch as the previous attempt." else ""

/-! ### Runs -/

/-- What a run does next. -/
inductive Phase where
  /-- Ask for a sketch, with feedback on the attempt before. -/
  | propose (feedback : Option String)
  /-- Evaluate a sketch. -/
  | weigh (sketch : Sketch)
  /-- Ask for a plain answer. -/
  | giveUp
  /-- Hand out the answer. -/
  | done (answer : Answer)

/-- Where a run stands. -/
structure Run (γ β : Type) where
  generator : γ
  judge : β
  phase : Phase := .propose none
  attempts : List Attempt := []
  /-- The fingerprint of the last sketch that could be read. -/
  last : Option String := none

/-- What a step of a run leads to. -/
inductive Next (γ β : Type) where
  | again (run : Run γ β)
  | ended (result : Except GeneratorError Answer) (generator : γ) (judge : β)

namespace Run

variable {γ β : Type}

/-- The attempts with one more, numbered by its position. -/
def record (r : Run γ β) (fingerprint : Option String) (finding : Finding) : List Attempt :=
  r.attempts ++ [⟨r.attempts.length + 1, fingerprint, finding⟩]

/-- The run after a text of the generator. -/
def read (r : Run γ β) (text : String) : Run γ β :=
  match Sketch.parse text with
  | .ok sketch => { r with phase := .weigh sketch }
  | .error e =>
    -- What cannot be read is not compared: the last fingerprint stays.
    { r with
      phase := .propose (some (malformedFeedback e))
      attempts := r.record none (.malformed e) }

/-- The run after the decision on a sketch. -/
def settle (r : Run γ β) (sketch : Sketch) (d : Decision) : Run γ β :=
  let fingerprint := sketch.fingerprint
  if d.decided then
    let attempts := r.record (some fingerprint) (.decided d.verdict)
    { r with
      phase := .done ⟨if d.verdict = .yes then .yes else .no, some sketch, attempts⟩
      attempts
      last := some fingerprint }
  else
    { r with
      phase := .propose (some (undecidedFeedback sketch d.reason (r.last = some fingerprint)))
      attempts := r.record (some fingerprint) (.undecided d.reason)
      last := some fingerprint }

variable [Generator γ] [Judge β]

/-- One step.  The budget is looked at before each request for a sketch, and a failure of the
generator ends the run. -/
def step (question : String) (budget : Nat) (r : Run γ β) : Next γ β :=
  match r.phase with
  | .propose feedback =>
    if budget ≤ r.attempts.length then
      .again { r with phase := .giveUp }
    else
      match Generator.sketch question feedback r.generator with
      | (.error e, generator) => .ended (.error e) generator r.judge
      | (.ok text, generator) => .again ({ r with generator }.read text)
  | .weigh sketch =>
    let (evaluation, judge) := Judge.judge sketch r.judge
    .again ({ r with judge }.settle sketch evaluation.decision)
  | .giveUp =>
    match Generator.answer question r.generator with
    | (.error e, generator) => .ended (.error e) generator r.judge
    | (.ok text, generator) =>
      .again { r with generator, phase := .done ⟨.fallback (Text.trim text), none, r.attempts⟩ }
  | .done answer => .ended (.ok answer) r.generator r.judge

/-- A bound on the steps that are left.  A request for a sketch counts for two, since the sketch
may have to be weighed, as long as there is budget for it. -/
def stepsLeft (budget : Nat) (r : Run γ β) : Nat :=
  match r.phase with
  | .propose _ =>
    if budget ≤ r.attempts.length then 2 else 2 * (budget - r.attempts.length) + 4
  | .weigh _ => 2 * (budget - r.attempts.length) + 3
  | .giveUp => 1
  | .done _ => 0

omit [Generator γ] [Judge β] in
theorem stepsLeft_read_lt (budget : Nat) (r : Run γ β) (text : String) :
    (r.read text).stepsLeft budget < 2 * (budget - r.attempts.length) + 4 := by
  unfold read
  split
  · simp only [stepsLeft]; omega
  · simp only [stepsLeft, record, List.length_append, List.length_singleton]
    split <;> omega

omit [Generator γ] [Judge β] in
theorem stepsLeft_settle_lt (budget : Nat) (r : Run γ β) (sketch : Sketch) (d : Decision) :
    (r.settle sketch d).stepsLeft budget < 2 * (budget - r.attempts.length) + 3 := by
  unfold settle
  split
  · simp only [stepsLeft]; omega
  · simp only [stepsLeft, record, List.length_append, List.length_singleton]
    split <;> omega

/-- What a step can do, phase by phase. -/
inductive Steps (question : String) (budget : Nat) (r : Run γ β) : Next γ β → Prop
  | spent {feedback : Option String} {r' : Run γ β} (hphase : r.phase = .propose feedback)
      (hbudget : budget ≤ r.attempts.length) (hnext : r' = { r with phase := .giveUp }) :
      Steps question budget r (.again r')
  | refused {feedback : Option String} {e : GeneratorError} {generator : γ}
      (hphase : r.phase = .propose feedback) (hbudget : r.attempts.length < budget)
      (hreply : Generator.sketch question feedback r.generator = (.error e, generator)) :
      Steps question budget r (.ended (.error e) generator r.judge)
  | proposed {feedback : Option String} {text : String} {generator : γ} {r' : Run γ β}
      (hphase : r.phase = .propose feedback) (hbudget : r.attempts.length < budget)
      (hreply : Generator.sketch question feedback r.generator = (.ok text, generator))
      (hnext : r' = { r with generator }.read text) :
      Steps question budget r (.again r')
  | weighed {sketch : Sketch} {evaluation : Evaluation} {judge : β} {r' : Run γ β}
      (hphase : r.phase = .weigh sketch)
      (hreply : Judge.judge sketch r.judge = (evaluation, judge))
      (hnext : r' = { r with judge }.settle sketch evaluation.decision) :
      Steps question budget r (.again r')
  | silent {e : GeneratorError} {generator : γ} (hphase : r.phase = .giveUp)
      (hreply : Generator.answer question r.generator = (.error e, generator)) :
      Steps question budget r (.ended (.error e) generator r.judge)
  | answered {text : String} {generator : γ} {r' : Run γ β} (hphase : r.phase = .giveUp)
      (hreply : Generator.answer question r.generator = (.ok text, generator))
      (hnext : r' = { r with
        generator, phase := .done ⟨.fallback (Text.trim text), none, r.attempts⟩ }) :
      Steps question budget r (.again r')
  | done {answer : Answer} (hphase : r.phase = .done answer) :
      Steps question budget r (.ended (.ok answer) r.generator r.judge)

theorem steps_step (question : String) (budget : Nat) (r : Run γ β) :
    Steps question budget r (r.step question budget) := by
  cases hp : r.phase with
  | propose feedback =>
    by_cases hb : budget ≤ r.attempts.length
    · have hstep : r.step question budget = .again { r with phase := .giveUp } := by
        simp only [step, hp, if_pos hb]
      rw [hstep]
      exact .spent hp hb rfl
    · rcases hg : Generator.sketch question feedback r.generator with ⟨e | text, generator⟩
      · have hstep : r.step question budget = .ended (.error e) generator r.judge := by
          simp only [step, hp, if_neg hb, hg]
        rw [hstep]
        exact .refused hp (Nat.lt_of_not_le hb) hg
      · have hstep : r.step question budget = .again ({ r with generator }.read text) := by
          simp only [step, hp, if_neg hb, hg]
        rw [hstep]
        exact .proposed hp (Nat.lt_of_not_le hb) hg rfl
  | weigh sketch =>
    rcases hj : Judge.judge sketch r.judge with ⟨evaluation, judge⟩
    have hstep : r.step question budget =
        .again ({ r with judge }.settle sketch evaluation.decision) := by
      simp only [step, hp, hj]
    rw [hstep]
    exact .weighed hp hj rfl
  | giveUp =>
    rcases hg : Generator.answer question r.generator with ⟨e | text, generator⟩
    · have hstep : r.step question budget = .ended (.error e) generator r.judge := by
        simp only [step, hp, hg]
      rw [hstep]
      exact .silent hp hg
    · have hstep : r.step question budget = .again { r with
          generator, phase := .done ⟨.fallback (Text.trim text), none, r.attempts⟩ } := by
        simp only [step, hp, hg]
      rw [hstep]
      exact .answered hp hg rfl
  | done answer =>
    have hstep : r.step question budget = .ended (.ok answer) r.generator r.judge := by
      simp only [step, hp]
    rw [hstep]
    exact .done hp

/-- A step is determined by what it can do. -/
theorem Steps.step_eq {question : String} {budget : Nat} {r : Run γ β} {next : Next γ β}
    (h : Steps question budget r next) : r.step question budget = next := by
  cases h with
  | spent hp hb hnext => simp only [hnext, step, hp, if_pos hb]
  | refused hp hb hg => simp only [step, hp, if_neg (Nat.not_le_of_lt hb), hg]
  | proposed hp hb hg hnext => simp only [hnext, step, hp, if_neg (Nat.not_le_of_lt hb), hg]
  | weighed hp hj hnext => simp only [hnext, step, hp, hj]
  | silent hp hg => simp only [step, hp, hg]
  | answered hp hg hnext => simp only [hnext, step, hp, hg]
  | done hp => simp only [step, hp]

/-- Every step that goes on leaves fewer steps. -/
theorem stepsLeft_step_lt {question : String} {budget : Nat} {r r' : Run γ β}
    (h : r.step question budget = .again r') : r'.stepsLeft budget < r.stepsLeft budget := by
  have hsteps := steps_step question budget r
  rw [h] at hsteps
  cases hsteps with
  | spent hp hb hnext =>
    rw [hnext]
    simp only [stepsLeft, hp, if_pos hb]
    omega
  | proposed hp hb _ hnext =>
    rw [hnext]
    simp only [stepsLeft.eq_def budget r, hp, if_neg (Nat.not_le_of_lt hb)]
    exact stepsLeft_read_lt budget _ _
  | weighed hp _ hnext =>
    rw [hnext]
    simp only [stepsLeft.eq_def budget r, hp]
    exact stepsLeft_settle_lt budget _ _ _
  | answered hp _ hnext =>
    rw [hnext]
    simp only [stepsLeft, hp]
    omega

/-- Take steps until the run ends. -/
def finish (question : String) (budget : Nat) (r : Run γ β) :
    Except GeneratorError Answer × γ × β :=
  match _next : r.step question budget with
  | .ended result generator judge => (result, generator, judge)
  | .again r' => r'.finish question budget
termination_by r.stepsLeft budget
decreasing_by exact stepsLeft_step_lt _next

end Run

/-- Answer a question with at most `budget` sketches. -/
def refine {γ β : Type} [Generator γ] [Judge β] (question : String) (budget : Nat)
    (generator : γ) (judge : β) : Except GeneratorError Answer × γ × β :=
  Run.finish question budget { generator, judge }

end Entail
