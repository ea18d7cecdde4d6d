/-
Entail/Proofs/Truncation.lean

Runs of one generator and one judge under different budgets.

A step looks at the budget only where a request for a sketch is due, and only to see whether it is
used up (`Run.Steps.of_budget_le`).  So two runs that start alike take the same steps until the
smaller budget is used up, if it ever is (`Run.finish_eq_or_parts`).  There the one run asks for a
plain answer and ends (`Run.finish_giveUp`), while the other goes on, and what it had asked,
evaluated and recorded so far it keeps (`Run.Grown.step`, `Run.Grown.finish`).

Main result: `refine_of_budget_le`.
-/
import Entail.Proofs.Repetition
import Mathlib.Data.List.Infix

namespace Entail

namespace Run

/-! ### Where two runs part -/

section

variable {γ β : Type} [Generator γ] [Judge β] {question : String} {n m : Nat}

/-- A step under a budget is one under a greater budget, unless the budget is used up where a
request is due. -/
theorem Steps.of_budget_le {r : Run γ β} {next : Next γ β} (h : r.Steps question n next)
    (hle : n ≤ m) :
    r.Steps question m next ∨
      (∃ feedback, r.phase = .propose feedback) ∧ n ≤ r.attempts.length ∧
        next = .again { r with phase := .giveUp } := by
  cases h with
  | spent hp hb hnext => exact .inr ⟨⟨_, hp⟩, hb, congrArg _ hnext⟩
  | refused hp hb hreply => exact .inl (.refused hp (Nat.lt_of_lt_of_le hb hle) hreply)
  | proposed hp hb hreply hnext =>
    exact .inl (.proposed hp (Nat.lt_of_lt_of_le hb hle) hreply hnext)
  | weighed hp hreply hnext => exact .inl (.weighed hp hreply hnext)
  | silent hp hreply => exact .inl (.silent hp hreply)
  | answered hp hreply hnext => exact .inl (.answered hp hreply hnext)
  | done hp => exact .inl (.done hp)

/-- **Where two runs part.**  Under a greater budget a run is the same, or both come to a request
that is due with the smaller budget used up, where the one gives up and the other goes on. -/
theorem finish_eq_or_parts (hle : n ≤ m) {p : Run γ β → Prop}
    (hstep : ∀ r r', p r → r.step question n = .again r' → p r') {r : Run γ β} (h : p r) :
    r.finish question m = r.finish question n ∨
      ∃ r' feedback, p r' ∧ r'.phase = .propose feedback ∧ n ≤ r'.attempts.length ∧
        r.finish question n = { r' with phase := .giveUp }.finish question n ∧
        r.finish question m = r'.finish question m := by
  fun_induction finish question n r with
  | case1 r result generator judge hnext =>
    have hsteps := steps_step question n r
    rw [hnext] at hsteps
    rcases hsteps.of_budget_le hle with hsteps | ⟨-, -, hspent⟩
    · exact .inl (finish_of_ended hsteps.step_eq)
    · cases hspent
  | case2 r r' hnext ih =>
    have hsteps := steps_step question n r
    rw [hnext] at hsteps
    rcases hsteps.of_budget_le hle with hsteps | ⟨⟨feedback, hphase⟩, hspent, hgiveUp⟩
    · rw [finish_of_again hsteps.step_eq]
      exact ih (hstep r r' h hnext)
    · rw [Next.again.inj hgiveUp]
      exact .inr ⟨r, feedback, h, hphase, hspent, rfl, rfl⟩

end

/-! ### Giving up -/

section

variable {γ β : Type} [Generator γ] [Judge β] {question : String} {budget : Nat}

/-- A run that gives up asks for a plain answer and ends. -/
theorem finish_giveUp {r : Run γ β} (hphase : r.phase = .giveUp)
    {reply : Except GeneratorError String} {generator : γ}
    (hreply : Generator.answer question r.generator = (reply, generator)) :
    r.finish question budget =
      (reply.map fun text => ⟨.fallback (Text.trim text), none, r.attempts⟩, generator,
        r.judge) := by
  cases reply with
  | error e => exact finish_of_ended (Steps.silent hphase hreply).step_eq
  | ok text =>
    rw [finish_of_again (Steps.answered hphase hreply rfl).step_eq]
    exact finish_of_ended (Steps.done rfl).step_eq

end

/-! ### Going on -/

section

variable {γ β : Type} {start r r' : Recording γ β}

/-- What a run had asked, evaluated and recorded at some point is still there at a later one. -/
structure Grown (start r : Recording γ β) : Prop where
  asked : start.generator.log <+: r.generator.log
  judged : start.judge.log <+: r.judge.log
  attempts : start.attempts <+: r.attempts
  /-- The attempts of an answer are those recorded. -/
  answer : ∀ answer, r.phase = .done answer → answer.attempts = r.attempts

theorem Grown.propose {feedback : Option String} (hphase : start.phase = .propose feedback) :
    Grown start start := by
  refine ⟨List.prefix_rfl, List.prefix_rfl, List.prefix_rfl, fun answer hanswer => ?_⟩
  rw [hphase] at hanswer
  cases hanswer

variable [Generator γ] [Judge β] {question : String} {budget : Nat}

/-- **Every step keeps what came before.** -/
theorem Grown.step (h : Grown start r) (hstep : r.step question budget = .again r') :
    Grown start r' := by
  have hsteps := steps_step question budget r
  rw [hstep] at hsteps
  cases hsteps with
  | spent hp hb hnext =>
    subst hnext
    exact ⟨h.asked, h.judged, h.attempts, by rintro answer ⟨⟩⟩
  | @proposed feedback text generator _ hp hb hreply hnext =>
    have hasked : start.generator.log <+: generator.log := by
      rw [(Recorded.sketch_eq hreply).2]
      exact h.asked.trans (List.prefix_append _ _)
    rw [hnext]
    cases hparse : Sketch.parse text with
    | error e =>
      rw [read_of_error hparse]
      exact ⟨hasked, h.judged, h.attempts.trans (List.prefix_append _ _), by rintro answer ⟨⟩⟩
    | ok sketch =>
      rw [read_of_ok hparse]
      exact ⟨hasked, h.judged, h.attempts, by rintro answer ⟨⟩⟩
  | @weighed sketch evaluation judge _ hp hreply hnext =>
    have hjudged : start.judge.log <+: judge.log := by
      rw [(Recorded.judge_eq hreply).2]
      exact h.judged.trans (List.prefix_append _ _)
    rw [hnext]
    by_cases hd : evaluation.decision.decided = true
    · rw [settle_of_decided hd]
      exact ⟨h.asked, hjudged, h.attempts.trans (List.prefix_append _ _), by rintro answer ⟨⟩; rfl⟩
    · rw [settle_of_undecided hd]
      exact ⟨h.asked, hjudged, h.attempts.trans (List.prefix_append _ _), by rintro answer ⟨⟩⟩
  | @answered text generator _ hp hreply hnext =>
    subst hnext
    refine ⟨?_, h.judged, h.attempts, by rintro answer ⟨⟩; rfl⟩
    rw [(Recorded.answer_eq hreply).2]
    exact h.asked.trans (List.prefix_append _ _)

/-- A step that ends the run keeps what came before. -/
theorem Grown.ended (h : Grown start r) {result : Except GeneratorError Answer}
    {generator : Recorded γ Exchange} {judge : Recorded β (Sketch × Evaluation)}
    (hstep : r.step question budget = .ended result generator judge) :
    start.generator.log <+: generator.log ∧ start.judge.log <+: judge.log ∧
      ∀ answer, result = .ok answer → start.attempts <+: answer.attempts := by
  have hsteps := steps_step question budget r
  rw [hstep] at hsteps
  cases hsteps with
  | refused hp hb hreply =>
    refine ⟨?_, h.judged, by rintro answer ⟨⟩⟩
    rw [(Recorded.sketch_eq hreply).2]
    exact h.asked.trans (List.prefix_append _ _)
  | silent hp hreply =>
    refine ⟨?_, h.judged, by rintro answer ⟨⟩⟩
    rw [(Recorded.answer_eq hreply).2]
    exact h.asked.trans (List.prefix_append _ _)
  | @done answer hp =>
    refine ⟨h.asked, h.judged, ?_⟩
    rintro _ ⟨⟩
    rw [h.answer answer hp]
    exact h.attempts

/-- A run ends with what came before. -/
theorem Grown.finish (question : String) (budget : Nat) (h : Grown start r) :
    start.generator.log <+: (r.finish question budget).2.1.log ∧
      start.judge.log <+: (r.finish question budget).2.2.log ∧
      ∀ answer, (r.finish question budget).1 = .ok answer →
        start.attempts <+: answer.attempts := by
  obtain ⟨last, hlast, hended⟩ := exists_ended (fun _ _ => Grown.step) h
  exact hlast.ended hended

end

end Run

/-! ### Whole runs -/

section

variable {question : String} {n m : Nat} {rounds : List Round} {further asked : List Exchange}
  {judged : List (Sketch × Evaluation)} {result : Except GeneratorError Answer}

/-- Who is asked for a plain answer was asked for as many sketches as the budget allows. -/
theorem Ending.length_eq_of_answer (h : Ending question n rounds result further)
    {reply : Except GeneratorError String} (hreply : ⟨.answer question, reply⟩ ∈ further) :
    rounds.length = n := by
  cases h with
  | decided => exact absurd hreply List.not_mem_nil
  | answered _ hlength => exact hlength
  | failed _ hrequest =>
    rcases hrequest with ⟨-, rfl⟩ | ⟨hlength, -⟩
    · cases List.mem_singleton.mp hreply
    · exact hlength

/-- A plain answer is asked for after the rounds only. -/
theorem History.answer_mem (h : History question rounds further asked judged)
    {reply : Except GeneratorError String} (hreply : ⟨.answer question, reply⟩ ∈ asked) :
    ⟨.answer question, reply⟩ ∈ further := by
  rw [h.asked_eq, List.mem_append] at hreply
  rcases hreply with hround | hfurther
  · obtain ⟨round, -, hround⟩ := List.mem_map.mp hround
    cases hround
  · exact hfurther

/-- A round is no request that failed. -/
theorem Round.exchange_ne_failed {r : Round} {request : Request} {e : GeneratorError} :
    r.exchange question ≠ ⟨request, .error e⟩ := by
  intro h
  cases h

end

/-- A run has used its budget up and gives up, where another one goes on. -/
structure Parted {γ β : Type} (question : String) (budget : Nat) (rounds : List Round)
    (reply : Except GeneratorError String)
    (short long : Except GeneratorError Answer × Recorded γ Exchange ×
      Recorded β (Sketch × Evaluation)) : Prop where
  history : History question rounds [⟨.answer question, reply⟩] short.2.1.log short.2.2.log
  length_eq : rounds.length = budget
  result_eq : short.1 =
    reply.map fun text => ⟨.fallback (Text.trim text), none, attemptsOf rounds⟩
  asked : rounds.map (Round.exchange question) <+: long.2.1.log
  judged : short.2.2.log <+: long.2.2.log
  attempts : ∀ answer, long.1 = .ok answer → attemptsOf rounds <+: answer.attempts

/-- **Under a greater budget a run is the same, or goes on where the smaller one gives up.** -/
theorem watched_eq_or_parted {γ β : Type} [Generator γ] [Judge β] (question : String) {n m : Nat}
    (hle : n ≤ m) (generator : γ) (judge : β) :
    watched question m generator judge = watched question n generator judge ∨
      ∃ rounds reply, Parted question n rounds reply (watched question n generator judge)
        (watched question m generator judge) := by
  rcases Run.finish_eq_or_parts hle (fun _ _ => Run.Invariant.step)
      (Run.invariant_start question n generator judge) with
    hsame | ⟨r, feedback, ⟨rounds, hinvariant⟩, hphase, hspent, hshort, hlong⟩
  · exact .inl hsame
  · rw [hphase] at hinvariant
    obtain ⟨hopen, hbound, -⟩ := hinvariant
    rw [hopen.length_attempts] at hspent
    rcases hreply : Generator.answer question r.generator with ⟨reply, generator'⟩
    rw [Run.finish_giveUp (r := { r with phase := .giveUp }) rfl hreply] at hshort
    obtain ⟨hasked, hjudged, hattempts⟩ :=
      (Run.Grown.propose hphase).finish question m
    refine .inr ⟨rounds, reply, ?_⟩
    rw [watched, refine, watched, refine, hshort, hlong]
    refine ⟨?_, Nat.le_antisymm hbound hspent, ?_, ?_, hjudged, ?_⟩
    · rw [(Recorded.answer_eq hreply).2]
      exact hopen.history.ask _
    · rw [hopen.attempts_eq]
    · rw [hopen.history.asked_eq, List.append_nil] at hasked
      exact hasked
    · rw [← hopen.attempts_eq]
      exact hattempts

namespace Parted

variable {γ β : Type} {question : String} {n : Nat} {rounds : List Round}
  {reply : Except GeneratorError String}
  {short long : Except GeneratorError Answer × Recorded γ Exchange ×
    Recorded β (Sketch × Evaluation)}
  (h : Parted question n rounds reply short long)

include h

theorem filter_forSketch_prefix :
    short.2.1.log.filter Exchange.forSketch <+: long.2.1.log.filter Exchange.forSketch := by
  have hlast : List.filter Exchange.forSketch [⟨.answer question, reply⟩] = [] := rfl
  rw [h.history.asked_eq, List.filter_append, hlast, List.append_nil]
  exact h.asked.filter _

/-- An answer of the run that gives up is a plain one, after the attempts made. -/
theorem answer_eq {answer : Answer} (hanswer : short.1 = .ok answer) :
    ∃ text, answer = ⟨.fallback text, none, attemptsOf rounds⟩ := by
  rw [h.result_eq] at hanswer
  cases reply with
  | error e => cases hanswer
  | ok text =>
    cases hanswer
    exact ⟨_, rfl⟩

/-- No request for a sketch fails. -/
theorem not_failed {feedback : Option String} {e : GeneratorError} :
    ⟨.sketch question feedback, .error e⟩ ∉ short.2.1.log := by
  rw [h.history.asked_eq, List.mem_append, List.mem_map]
  rintro (⟨round, -, hround⟩ | hlast)
  · exact Round.exchange_ne_failed hround
  · cases List.mem_singleton.mp hlast

theorem attempts_long {answer : Answer} (hanswer : long.1 = .ok answer) :
    answer.attempts.take n = attemptsOf rounds := by
  rw [← h.length_eq, ← length_attemptsOf]
  exact (List.prefix_iff_eq_take.mp (h.attempts answer hanswer)).symm

end Parted

/-- **A smaller budget only cuts a run short.**  However the generator and the judge behave, the
requests for sketches under a budget, with their feedback and replies, are the first ones under a
greater budget, and so are the evaluations.  If a sketch decides the question, or a request for a
sketch fails, then the two runs are the same.  If a plain answer is asked for, all of the smaller
budget was used, and an answer under the greater budget starts with the attempts that were made
under the smaller one. -/
theorem refine_of_budget_le {γ β : Type} [Generator γ] [Judge β] (question : String) {n m : Nat}
    (hle : n ≤ m) (generator : γ) (judge : β) :
    let run (budget : Nat) := watched question budget generator judge
    let asked (budget : Nat) := (run budget).2.1.log
    let judged (budget : Nat) := (run budget).2.2.log
    (∀ budget, refine question budget generator judge =
      ((run budget).1, (run budget).2.1.state, (run budget).2.2.state)) ∧
    (asked n).filter Exchange.forSketch <+: (asked m).filter Exchange.forSketch ∧
    judged n <+: judged m ∧
    ((∃ answer, (run n).1 = .ok answer ∧ answer.decided = true) ∨
      (∃ feedback e, ⟨.sketch question feedback, .error e⟩ ∈ asked n) → run m = run n) ∧
    ((∃ reply, ⟨.answer question, reply⟩ ∈ asked n) →
      ∃ rounds further, History question rounds further (asked n) (judged n) ∧
        rounds.length = n ∧
        (∀ answer, (run n).1 = .ok answer → answer.attempts = attemptsOf rounds) ∧
        ∀ answer, (run m).1 = .ok answer → answer.attempts.take n = attemptsOf rounds) := by
  intro run asked judged
  refine ⟨fun budget => refine_eq_watched question budget generator judge, ?_⟩
  rcases watched_eq_or_parted question hle generator judge with hsame | ⟨rounds, reply, hparted⟩
  · -- the smaller budget is not used up, or the budgets are the same
    have hrun : run m = run n := hsame
    refine ⟨?_, ?_, fun _ => hrun, ?_⟩
    · show (run n).2.1.log.filter Exchange.forSketch <+: (run m).2.1.log.filter Exchange.forSketch
      rw [hrun]
    · show (run n).2.2.log <+: (run m).2.2.log
      rw [hrun]
    · rintro ⟨reply, hreply⟩
      obtain ⟨rounds, further, hhistory, hending⟩ := exists_history question n generator judge
      have hlength : rounds.length = n := hending.length_eq_of_answer (hhistory.answer_mem hreply)
      have hattempts (answer : Answer) (hanswer : (run n).1 = .ok answer) :
          answer.attempts = attemptsOf rounds :=
        Ending.attempts_eq (hanswer ▸ hending)
      refine ⟨rounds, further, hhistory, hlength, hattempts, fun answer hanswer => ?_⟩
      rw [hrun] at hanswer
      rw [hattempts answer hanswer, ← hlength, ← length_attemptsOf, List.take_length]
  · -- the one run gives up, the other goes on
    refine ⟨hparted.filter_forSketch_prefix, hparted.judged, ?_, ?_⟩
    · rintro (⟨answer, hanswer, hdecided⟩ | ⟨feedback, e, hfailed⟩)
      · obtain ⟨text, rfl⟩ := hparted.answer_eq hanswer
        exact absurd hdecided Bool.false_ne_true
      · exact absurd hfailed hparted.not_failed
    · rintro -
      refine ⟨rounds, _, hparted.history, hparted.length_eq, fun answer hanswer => ?_,
        fun answer => hparted.attempts_long⟩
      obtain ⟨text, rfl⟩ := hparted.answer_eq hanswer
      rfl

/-! ### Cut short before the deciding sketch -/

/-- A text that is no sketch, and a sketch. -/
def wavering : Replay := .ofTexts ["no sketch", openSketch.json] "perhaps"

/-- A judge that decides the first sketch it is given. -/
def decisive : Scripted := .ofScript [.sat, .unsat]

/-- The run over these replies after its first attempt, with what came of it. -/
def afterFirst (e : SketchError) : Recording Replay Scripted :=
  { generator := ⟨{ wavering with replies := [.text openSketch.json], feedback := #[none] },
      [⟨.sketch "Is it so?" none, .ok "no sketch"⟩]⟩
    judge := ⟨decisive, []⟩
    phase := .propose (some (malformedFeedback e))
    attempts := [⟨1, none, .malformed e⟩] }

section

variable {e : SketchError} {budget : Nat}

theorem watched_wavering (he : Sketch.parse "no sketch" = .error e) (hb : 0 < budget) :
    watched "Is it so?" budget wavering decisive = (afterFirst e).finish "Is it so?" budget := by
  have hstep : Run.step "Is it so?" budget
      { generator := ⟨wavering, []⟩, judge := ⟨decisive, []⟩ : Recording Replay Scripted } = _ :=
    (Run.Steps.proposed rfl hb rfl rfl).step_eq
  rw [Run.read_of_error he] at hstep
  exact Run.finish_of_again hstep

/-- With the budget used up the run gives up. -/
theorem finish_afterFirst_spent (hb : budget ≤ 1) :
    ∃ text generator, (afterFirst e).finish "Is it so?" budget =
        (.ok ⟨.fallback text, none, (afterFirst e).attempts⟩, generator, ⟨decisive, []⟩) ∧
      ∃ reply, ⟨.answer "Is it so?", reply⟩ ∈ generator.log := by
  have hstep : Run.step "Is it so?" budget (afterFirst e) = _ :=
    (Run.Steps.spent rfl hb rfl).step_eq
  have hgiveUp : Run.finish "Is it so?" budget { afterFirst e with phase := .giveUp } = _ :=
    Run.finish_giveUp rfl rfl
  exact ⟨_, _, (Run.finish_of_again hstep).trans hgiveUp, _,
    List.mem_append_right _ List.mem_cons_self⟩

/-- The sketch decides. -/
theorem finish_weigh_openSketch {r : Recording Replay Scripted}
    (hphase : r.phase = .weigh openSketch) (hjudge : r.judge = ⟨decisive, []⟩) :
    ∃ answer, (r.finish "Is it so?" budget).1 = .ok answer ∧ answer.decided = true := by
  obtain ⟨evaluation, judge, hreply, hd⟩ : ∃ evaluation judge,
      Judge.judge openSketch r.judge = (evaluation, judge) ∧
        evaluation.decision.verdict = .yes := by
    rw [hjudge]
    exact ⟨_, _, rfl, rfl⟩
  have hdecided : evaluation.decision.decided = true := by
    rw [Decision.decided, hd]
    rfl
  have hstep : Run.step "Is it so?" budget r = _ :=
    (Run.Steps.weighed hphase hreply rfl).step_eq
  rw [Run.settle_of_decided hdecided, if_pos hd] at hstep
  rw [Run.finish_of_again hstep, Run.finish_of_ended (Run.Steps.done rfl).step_eq]
  exact ⟨_, rfl, rfl⟩

/-- With budget left the sketch is asked for. -/
theorem finish_afterFirst_left (hb : 1 < budget) :
    ∃ answer, ((afterFirst e).finish "Is it so?" budget).1 = .ok answer ∧
      answer.decided = true := by
  have hstep : Run.step "Is it so?" budget (afterFirst e) = _ :=
    (Run.Steps.proposed rfl hb rfl rfl).step_eq
  rw [Run.read_of_ok parse_openSketch] at hstep
  rw [Run.finish_of_again hstep]
  exact finish_weigh_openSketch rfl rfl

end

/-- Under a budget of one the run is cut short, and under two it is not. -/
theorem refine_wavering :
    ∃ short long : Answer,
      (watched "Is it so?" 1 wavering decisive).1 = .ok short ∧ short.decided = false ∧
      (watched "Is it so?" 2 wavering decisive).1 = .ok long ∧ long.decided = true ∧
      long.attempts.take 1 = short.attempts ∧
      watched "Is it so?" 5 wavering decisive = watched "Is it so?" 2 wavering decisive := by
  obtain ⟨e, he⟩ : ∃ e, Sketch.parse "no sketch" = .error e := ⟨_, rfl⟩
  obtain ⟨text, generator, hspent, hasked⟩ := finish_afterFirst_spent (e := e) (Nat.le_refl 1)
  obtain ⟨long, hlong, hdecided⟩ := finish_afterFirst_left (e := e) (Nat.lt_succ_self 1)
  rw [← watched_wavering he (by decide)] at hspent hlong
  obtain ⟨-, -, -, -, hshort⟩ :=
    refine_of_budget_le "Is it so?" (show 1 ≤ 2 by decide) wavering decisive
  obtain ⟨-, -, -, hsame, -⟩ :=
    refine_of_budget_le "Is it so?" (show 2 ≤ 5 by decide) wavering decisive
  dsimp only at hshort
  rw [hspent] at hshort
  obtain ⟨rounds, -, -, -, hattempts, htake⟩ := hshort hasked
  refine ⟨_, long, congrArg Prod.fst hspent, rfl, hlong, hdecided, ?_,
    hsame (.inl ⟨long, hlong, hdecided⟩)⟩
  rw [htake long hlong, ← hattempts _ rfl]

end Entail
