/-
Entail/Proofs/Recording.lean

Watching a run.

A generator and a judge may keep a log of what is asked of them (`Recorded`).  They reply as they do
without one, so a run in which they keep it takes the same steps (`Run.Steps.forget`) and has the
same result (`refine_eq_watched`).  What is known of the logs of watched runs is therefore known of
what all runs ask for.
-/
import Entail.Refinement

namespace Entail

/-! ### Equations of a run -/

namespace Run

section

variable {γ β : Type} {r : Run γ β} {text : String} {sketch : Sketch} {d : Decision}

theorem read_of_ok (h : Sketch.parse text = .ok sketch) :
    r.read text = { r with phase := .weigh sketch } := by
  unfold read
  rw [h]

theorem read_of_error {e : SketchError} (h : Sketch.parse text = .error e) :
    r.read text = { r with
      phase := .propose (some (malformedFeedback e))
      attempts := r.record none (.malformed e) } := by
  unfold read
  rw [h]

theorem settle_of_decided (h : d.decided = true) :
    r.settle sketch d = { r with
      phase := .done ⟨if d.verdict = .yes then .yes else .no, some sketch,
        r.record (some sketch.fingerprint) (.decided d.verdict)⟩
      attempts := r.record (some sketch.fingerprint) (.decided d.verdict)
      last := some sketch.fingerprint } := by
  unfold settle
  rw [if_pos h]

theorem settle_of_undecided (h : ¬ d.decided = true) :
    r.settle sketch d = { r with
      phase := .propose (some (undecidedFeedback sketch d.reason
        (r.last = some sketch.fingerprint)))
      attempts := r.record (some sketch.fingerprint) (.undecided d.reason)
      last := some sketch.fingerprint } := by
  unfold settle
  rw [if_neg h]

end

section

variable {γ β : Type} [Generator γ] [Judge β] {question : String} {budget : Nat}

theorem finish_of_ended {r : Run γ β} {result : Except GeneratorError Answer} {generator : γ}
    {judge : β} (h : r.step question budget = .ended result generator judge) :
    r.finish question budget = (result, generator, judge) := by
  rw [finish]
  split
  case _ heq =>
    rw [h] at heq
    obtain ⟨rfl, rfl, rfl⟩ := Next.ended.inj heq
    rfl
  case _ heq =>
    rw [h] at heq
    cases heq

theorem finish_of_again {r r' : Run γ β} (h : r.step question budget = .again r') :
    r.finish question budget = r'.finish question budget := by
  rw [finish]
  split
  case _ heq =>
    rw [h] at heq
    cases heq
  case _ heq =>
    rw [h] at heq
    rw [Next.again.inj heq]

end

end Run

/-! ### Keeping a log -/

/-- A state with a log of what was asked of it. -/
structure Recorded (σ ε : Type) where
  state : σ
  log : List ε := []

/-- What a generator is asked for. -/
inductive Request where
  | sketch (question : String) (feedback : Option String)
  | answer (question : String)

/-- A request and what came back. -/
structure Exchange where
  request : Request
  reply : Except GeneratorError String

/-- A request for a sketch. -/
def Exchange.forSketch (e : Exchange) : Bool :=
  match e.request with
  | .sketch _ _ => true
  | .answer _ => false

/-- Every exchange is written to the log. -/
instance {γ : Type} [Generator γ] : Generator (Recorded γ Exchange) where
  name g := Generator.name g.state
  sketch question feedback g :=
    let (reply, state) := Generator.sketch question feedback g.state
    (reply, ⟨state, g.log ++ [⟨.sketch question feedback, reply⟩]⟩)
  answer question g :=
    let (reply, state) := Generator.answer question g.state
    (reply, ⟨state, g.log ++ [⟨.answer question, reply⟩]⟩)

/-- Every evaluation is written to the log. -/
instance {β : Type} [Judge β] : Judge (Recorded β (Sketch × Evaluation)) where
  judge sketch b :=
    let (evaluation, state) := Judge.judge sketch b.state
    (evaluation, ⟨state, b.log ++ [(sketch, evaluation)]⟩)

namespace Recorded

variable {γ β : Type} [Generator γ] [Judge β] {question : String} {feedback : Option String}
  {reply : Except GeneratorError String} {g g' : Recorded γ Exchange} {sketch : Sketch}
  {evaluation : Evaluation} {b b' : Recorded β (Sketch × Evaluation)}

/-- What a watched generator replies, and what it writes down. -/
theorem sketch_eq (h : Generator.sketch question feedback g = (reply, g')) :
    Generator.sketch question feedback g.state = (reply, g'.state) ∧
      g'.log = g.log ++ [⟨.sketch question feedback, reply⟩] := by
  obtain ⟨rfl, rfl⟩ := Prod.mk.inj h
  exact ⟨rfl, rfl⟩

theorem answer_eq (h : Generator.answer question g = (reply, g')) :
    Generator.answer question g.state = (reply, g'.state) ∧
      g'.log = g.log ++ [⟨.answer question, reply⟩] := by
  obtain ⟨rfl, rfl⟩ := Prod.mk.inj h
  exact ⟨rfl, rfl⟩

theorem judge_eq (h : Judge.judge sketch b = (evaluation, b')) :
    Judge.judge sketch b.state = (evaluation, b'.state) ∧
      b'.log = b.log ++ [(sketch, evaluation)] := by
  obtain ⟨rfl, rfl⟩ := Prod.mk.inj h
  exact ⟨rfl, rfl⟩

end Recorded

/-- A run that is watched. -/
abbrev Recording (γ β : Type) := Run (Recorded γ Exchange) (Recorded β (Sketch × Evaluation))

/-! ### Forgetting the log -/

namespace Run

variable {γ β : Type}

/-- The run without its logs. -/
def forget (r : Recording γ β) : Run γ β :=
  { generator := r.generator.state
    judge := r.judge.state
    phase := r.phase
    attempts := r.attempts
    last := r.last }

/-- What a step leads to, without logs. -/
def forgetNext : Next (Recorded γ Exchange) (Recorded β (Sketch × Evaluation)) → Next γ β
  | .again r => .again r.forget
  | .ended result generator judge => .ended result generator.state judge.state

theorem forget_read (r : Recording γ β) (text : String) :
    (r.read text).forget = r.forget.read text := by
  cases h : Sketch.parse text with
  | error e =>
    rw [read_of_error h, read_of_error h]
    rfl
  | ok sketch =>
    rw [read_of_ok h, read_of_ok h]
    rfl

theorem forget_settle (r : Recording γ β) (sketch : Sketch) (d : Decision) :
    (r.settle sketch d).forget = r.forget.settle sketch d := by
  by_cases h : d.decided = true
  · rw [settle_of_decided h, settle_of_decided h]
    rfl
  · rw [settle_of_undecided h, settle_of_undecided h]
    rfl

variable [Generator γ] [Judge β] {question : String} {budget : Nat}

/-- A step can do the same without logs. -/
theorem Steps.forget {r : Recording γ β}
    {next : Next (Recorded γ Exchange) (Recorded β (Sketch × Evaluation))}
    (h : r.Steps question budget next) : r.forget.Steps question budget (forgetNext next) := by
  cases h with
  | spent hp hb hnext =>
    refine .spent hp hb ?_
    rw [hnext]
    rfl
  | refused hp hb hreply => exact .refused hp hb (Recorded.sketch_eq hreply).1
  | proposed hp hb hreply hnext =>
    refine .proposed hp hb (Recorded.sketch_eq hreply).1 ?_
    rw [hnext, forget_read]
    rfl
  | weighed hp hreply hnext =>
    refine .weighed hp (Recorded.judge_eq hreply).1 ?_
    rw [hnext, forget_settle]
    rfl
  | silent hp hreply => exact .silent hp (Recorded.answer_eq hreply).1
  | answered hp hreply hnext =>
    refine .answered hp (Recorded.answer_eq hreply).1 ?_
    rw [hnext]
    rfl
  | done hp => exact .done hp

/-- A run is the same with logs and without. -/
theorem finish_forget (r : Recording γ β) :
    r.forget.finish question budget = ((r.finish question budget).1,
      (r.finish question budget).2.1.state, (r.finish question budget).2.2.state) := by
  fun_induction finish question budget r with
  | case1 r result generator judge hnext =>
    have hsteps := (steps_step question budget r).forget
    rw [hnext] at hsteps
    exact finish_of_ended hsteps.step_eq
  | case2 r r' hnext ih =>
    have hsteps := (steps_step question budget r).forget
    rw [hnext] at hsteps
    rw [finish_of_again hsteps.step_eq, ih]

end Run

section

variable {γ β : Type} [Generator γ] [Judge β] (question : String) (budget : Nat) (generator : γ)
  (judge : β)

/-- Answer a question while keeping a log. -/
def watched :
    Except GeneratorError Answer × Recorded γ Exchange × Recorded β (Sketch × Evaluation) :=
  refine question budget ⟨generator, []⟩ ⟨judge, []⟩

/-- **Watching changes nothing**: the answer is the same, and so are the states it leaves. -/
theorem refine_eq_watched :
    refine question budget generator judge = ((watched question budget generator judge).1,
      (watched question budget generator judge).2.1.state,
      (watched question budget generator judge).2.2.state) :=
  Run.finish_forget { generator := ⟨generator, []⟩, judge := ⟨judge, []⟩ }

end

end Entail
