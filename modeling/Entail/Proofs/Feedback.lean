/-
Entail/Proofs/Feedback.lean

What feedback says of the attempt before.

A run writes about an attempt in two places: in its list of attempts, and in the feedback of the
next request.  They are filled in at different steps, but they tell the same.  The attempts are
those that the run has when it comes to its end (`Run.final`), whether it answers or fails, and an
answer carries them along (`Run.Attested`).

That a sketch which decided nothing always has a reason to give depends on how it was judged: by two
checks on some engine, whatever these find (`LawfulJudge`).  Only a decided sketch is forced.

Main result: `feedback_of_attempt`.
-/
import Entail.Proofs.Pairing

namespace Entail

/-! ### Reasons -/

/-- The sentence that says why a sketch decided nothing.  A sketch that is forced decides. -/
def Reason.sentence? : Reason → Option String
  | .forced => none
  | .underdetermined => some "The rules allow the query to be either true or false."
  | .inconsistent => some "The rules contradict each other."
  | .indeterminate => some "The solver returned no result."

/-- A judge that evaluates each sketch on some engine.  The engine may be any, and a different one
for each sketch. -/
class LawfulJudge (β : Type) [Judge β] : Prop where
  exists_engine : ∀ (sketch : Sketch) (b : β), ∃ (σ : Type) (_ : Incremental σ) (engine : σ),
    (Judge.judge sketch b).1 = (sketch.evaluate engine).1

instance : LawfulJudge Scripted where
  exists_engine _ engine := ⟨Scripted, inferInstance, engine, rfl⟩

instance [SatEngine] : LawfulJudge Solver where
  exists_engine _ engine := ⟨Solver, inferInstance, engine, rfl⟩

/-- Watching does not change how sketches are judged. -/
instance {β : Type} [Judge β] [LawfulJudge β] : LawfulJudge (Recorded β (Sketch × Evaluation)) where
  exists_engine sketch b := LawfulJudge.exists_engine sketch b.state

/-- Where two checks decide nothing, there is a sentence for their reason. -/
theorem Decision.exists_sentence {assumeTrue assumeFalse : Outcome}
    (h : ¬ (ofOutcomes assumeTrue assumeFalse).decided = true) :
    ∃ sentence, (ofOutcomes assumeTrue assumeFalse).reason.sentence? = some sentence := by
  cases assumeTrue <;> cases assumeFalse <;>
    first
    | exact ⟨_, rfl⟩
    | exact absurd rfl h

theorem LawfulJudge.exists_sentence {β : Type} [Judge β] [LawfulJudge β] (sketch : Sketch) (b : β)
    (h : ¬ (Judge.judge sketch b).1.decision.decided = true) :
    ∃ sentence, (Judge.judge sketch b).1.decision.reason.sentence? = some sentence := by
  obtain ⟨σ, _, engine, heq⟩ := LawfulJudge.exists_engine sketch b
  rw [heq] at h ⊢
  exact Decision.exists_sentence h

/-- Feedback on a sketch that decided nothing, sentence by sentence. -/
theorem undecidedFeedback_eq (sketch : Sketch) {reason : Reason} {sentence : String}
    (h : reason.sentence? = some sentence) (again : Bool) :
    ∃ notice, (notice = "" ∨ notice = repeatedNotice) ∧
      undecidedFeedback sketch reason again =
        "Solver could not decide. Sketch was: " ++ sketch.json ++ ". Refine the rules. " ++
          sentence ++ notice := by
  have hhint : reason.hint = " " ++ sentence := by
    cases reason <;> cases h <;> rfl
  have hjoin : ". Refine the rules." ++ " " = ". Refine the rules. " := by decide
  refine ⟨if again then repeatedNotice else "", ?_, ?_⟩
  · cases again
    · exact .inl rfl
    · exact .inr rfl
  · unfold undecidedFeedback
    rw [hhint, ← hjoin]
    simp only [String.append_assoc]
    rfl

/-! ### Where a run ends -/

namespace Run

section

variable {γ β : Type} [Generator γ] [Judge β]

/-- The run as it stands before its last step. -/
def final (question : String) (budget : Nat) (r : Run γ β) : Run γ β :=
  match _next : r.step question budget with
  | .ended _ _ _ => r
  | .again r' => r'.final question budget
termination_by r.stepsLeft budget
decreasing_by exact stepsLeft_step_lt _next

/-- What every step keeps holds before the last one, and the last one ends the run. -/
theorem final_induction {question : String} {budget : Nat} {p : Run γ β → Prop}
    (hstep : ∀ r r', p r → r.step question budget = .again r' → p r') {r : Run γ β} (h : p r) :
    p (r.final question budget) ∧
      (r.final question budget).step question budget = .ended (r.finish question budget).1
        (r.finish question budget).2.1 (r.finish question budget).2.2 := by
  fun_induction final question budget r with
  | case1 r result generator judge hnext =>
    rw [finish_of_ended hnext]
    exact ⟨h, hnext⟩
  | case2 r r' hnext ih =>
    rw [finish_of_again hnext]
    exact ih (hstep r r' h hnext)

end

variable {γ β : Type} [Generator γ] [Judge β] {question : String} {budget : Nat} {r r' : Run γ β}

/-- An answer has the attempts of the run. -/
def Attested (r : Run γ β) : Prop := ∀ answer, r.phase = .done answer → answer.attempts = r.attempts

theorem Attested.step (hstep : r.step question budget = .again r') : r'.Attested := by
  have hsteps := steps_step question budget r
  rw [hstep] at hsteps
  intro answer hdone
  cases hsteps with
  | spent hp hb hnext =>
    rw [hnext] at hdone
    cases hdone
  | @proposed feedback text generator _ hp hb hreply hnext =>
    rw [hnext] at hdone
    cases hparse : Sketch.parse text with
    | error e =>
      rw [read_of_error hparse] at hdone
      cases hdone
    | ok sketch =>
      rw [read_of_ok hparse] at hdone
      cases hdone
  | @weighed sketch evaluation judge _ hp hreply hnext =>
    rw [hnext] at hdone ⊢
    by_cases hd : evaluation.decision.decided = true
    · rw [settle_of_decided hd] at hdone ⊢
      cases hdone
      rfl
    · rw [settle_of_undecided hd] at hdone
      cases hdone
  | answered hp hreply hnext =>
    rw [hnext] at hdone ⊢
    cases hdone
    rfl

end Run

/-! ### What feedback tells -/

/-- Feedback tells of an attempt with a text of the generator, and of the evaluation if there was
one. -/
inductive Attempt.Told (a : Attempt) (text : String) (judgement : Option (Sketch × Evaluation)) :
    String → Prop
  /-- The text is no sketch, and feedback says what is wrong with it. -/
  | malformed {e : SketchError} (hfinding : a.finding = .malformed e)
      (hparse : Sketch.parse text = .error e) :
      Told a text judgement
        ("JSON parse error from generator output. Please output valid JSON. Error: " ++ e.message)
  /-- The sketch decided nothing.  Feedback repeats it in a form that can be read back, says why it
  did not, and may say that it came again. -/
  | undecided {sketch : Sketch} {evaluation : Evaluation} {reason : Reason}
      {sentence notice : String} (hfinding : a.finding = .undecided reason)
      (hfingerprint : a.fingerprint = some sketch.fingerprint)
      (hparse : Sketch.parse text = .ok sketch)
      (hjudgement : judgement = some (sketch, evaluation))
      (hreason : evaluation.decision.reason = reason)
      (hsentence : reason.sentence? = some sentence)
      (hnotice : notice = "" ∨ notice = repeatedNotice)
      (hread : Sketch.parse sketch.json = .ok sketch) :
      Told a text judgement
        ("Solver could not decide. Sketch was: " ++ sketch.json ++ ". Refine the rules. " ++
          sentence ++ notice)

section

variable {question : String} {budget : Nat} {rounds : List Round} {further asked : List Exchange}
  {judged : List (Sketch × Evaluation)} {result : Except GeneratorError Answer} {r : Round}

/-- The response to a round that decides nothing tells of its attempt. -/
theorem Round.told_response {judgement : Option (Sketch × Evaluation)}
    (hreading : Sketch.parse r.text = r.reading.map Prod.fst) (hopen : ¬ r.Decided)
    (hjudgement : ∀ p, r.judgement = some p → judgement = some p)
    (hreason : ∀ p, r.judgement = some p → ¬ p.2.decision.decided = true →
      ∃ sentence, p.2.decision.reason.sentence? = some sentence)
    (i : Nat) (last : Option String) :
    Attempt.Told ⟨i, r.fingerprint, r.finding⟩ r.text judgement (r.response last) := by
  obtain ⟨feedback, text, reading⟩ := r
  cases reading with
  | error e => exact .malformed rfl hreading
  | ok p =>
    obtain ⟨sketch, evaluation⟩ := p
    have hundecided : ¬ evaluation.decision.decided = true := fun hd => hopen ⟨_, rfl, hd⟩
    obtain ⟨sentence, hsentence⟩ := hreason _ rfl hundecided
    obtain ⟨notice, hnotice, hfeedback⟩ :=
      undecidedFeedback_eq sketch hsentence (last = some sketch.fingerprint)
    have hread := Sketch.parse_json (Sketch.isBlankText_query_of_parse hreading)
    show Attempt.Told _ text _ (undecidedFeedback sketch evaluation.decision.reason _)
    rw [hfeedback]
    exact .undecided (if_neg hundecided) rfl hreading (hjudgement _ rfl) rfl hsentence hnotice hread

/-- Another request for a sketch follows only on rounds that decide nothing. -/
theorem History.not_decided_of_request (h : History question rounds further asked judged)
    (hending : Ending question budget rounds result further) {j : Nat} (hj : j + 1 < asked.length)
    (hr : rounds[j]? = some r) : ¬ r.Decided := by
  cases hending with
  | @decided before last sketch evaluation conclusion hrounds hopen =>
    -- The round that decides is the last exchange of all.
    rw [h.asked_eq, List.append_nil, List.length_map, hrounds, List.length_append,
      List.length_singleton, Nat.add_lt_add_iff_right] at hj
    rw [hrounds, List.getElem?_append_left hj] at hr
    exact hopen r (List.mem_of_getElem? hr)
  | answered hopen => exact hopen r (List.mem_of_getElem? hr)
  | failed hopen => exact hopen r (List.mem_of_getElem? hr)

theorem getElem?_attemptsOf (rounds : List Round) (j : Nat) :
    (attemptsOf rounds)[j]? = rounds[j]?.map fun r => ⟨j + 1, r.fingerprint, r.finding⟩ := by
  rw [attemptsOf, List.getElem?_mapIdx]

theorem take_attemptsOf (rounds : List Round) (j : Nat) :
    (attemptsOf rounds).take j = attemptsOf (rounds.take j) := by
  refine List.ext_getElem? fun i => ?_
  rw [List.getElem?_take, getElem?_attemptsOf, getElem?_attemptsOf, List.getElem?_take]
  split <;> rfl

/-- The attempts with a fingerprint are those that were evaluated. -/
theorem countP_attemptsOf (rounds : List Round) :
    ((attemptsOf rounds).countP fun a => a.fingerprint.isSome) =
      (rounds.filterMap Round.judgement).length := by
  induction rounds using List.reverseRecOn with
  | nil => rfl
  | append_singleton rounds r ih =>
    rw [attemptsOf_concat, List.countP_append, ih, List.filterMap_append, List.length_append]
    cases hr : r.judgement <;> simp [Round.fingerprint, hr]

/-- The evaluations that were made before a round come before its own. -/
theorem History.getElem?_judged (h : History question rounds further asked judged) {j : Nat}
    {p : Sketch × Evaluation} (hr : rounds[j]? = some r) (hp : r.judgement = some p) :
    judged[((attemptsOf rounds).take j).countP fun a => a.fingerprint.isSome]? = some p := by
  obtain ⟨hj, rfl⟩ := List.getElem?_eq_some_iff.mp hr
  have hsplit : rounds = rounds.take j ++ rounds[j] :: rounds.drop (j + 1) := by
    rw [List.getElem_cons_drop, List.take_append_drop]
  have hlength : (rounds.take j).length = j := by
    rw [List.length_take, Nat.min_eq_left (Nat.le_of_lt hj)]
  rw [take_attemptsOf, countP_attemptsOf, h.judged_eq]
  conv_lhs => rw [hsplit]
  rw [List.filterMap_append, List.filterMap_cons_some hp, List.take_left' hlength,
    List.getElem?_append_right (Nat.le_refl _), Nat.sub_self, List.getElem?_cons_zero]

end

/-! ### Whole runs -/

section

variable {γ β : Type} [Generator γ] [Judge β] (question : String) (budget : Nat) (generator : γ)
  (judge : β)

/-- A run that is to be watched, before its first step. -/
def watchedStart : Recording γ β := { generator := ⟨generator, []⟩, judge := ⟨judge, []⟩ }

/-- The logs tell of the rounds of a run, and the attempts it has at its end are those rounds. -/
theorem exists_history_final :
    let last := (watchedStart generator judge).final question budget
    let run := watched question budget generator judge
    last.step question budget = .ended run.1 run.2.1 run.2.2 ∧
    (∀ answer, run.1 = .ok answer → answer.attempts = last.attempts) ∧
    ∃ rounds further, History question rounds further run.2.1.log run.2.2.log ∧
      Ending question budget rounds run.1 further ∧ last.attempts = attemptsOf rounds := by
  intro last run
  have hstart : (watchedStart generator judge).Invariant question budget ∧
      (watchedStart generator judge).Attested :=
    ⟨Run.invariant_start question budget generator judge, fun _ hdone => nomatch hdone⟩
  obtain ⟨⟨hinvariant, hattested⟩, hended⟩ :=
    Run.final_induction (p := fun r => r.Invariant question budget ∧ r.Attested)
      (fun _ _ h hstep => ⟨h.1.step hstep, .step hstep⟩) hstart
  replace hended : last.step question budget = .ended run.1 run.2.1 run.2.2 := hended
  obtain ⟨rounds, further, hhistory, hending, hfailed⟩ := hinvariant.ending hended
  have hanswer : ∀ answer, run.1 = .ok answer → answer.attempts = last.attempts := by
    intro answer hok
    have hsteps := Run.steps_step question budget last
    rw [hended, hok] at hsteps
    generalize run.2.1 = g, run.2.2 = j at hsteps
    cases hsteps with
    | done hp => exact hattested answer hp
  refine ⟨hended, hanswer, rounds, further, hhistory, hending, ?_⟩
  cases hresult : run.1 with
  | error e => exact hfailed e hresult
  | ok answer => exact (hanswer answer hresult).symm.trans (hresult ▸ hending).attempts_eq

/-- Where a sketch was judged to decide nothing, there is a sentence for the reason. -/
theorem exists_sentence_of_judged [LawfulJudge β] :
    ∀ p ∈ (watched question budget generator judge).2.2.log, ¬ p.2.decision.decided = true →
      ∃ sentence, p.2.decision.reason.sentence? = some sentence := by
  refine Run.judge_finish (p := fun b : Recorded β (Sketch × Evaluation) => ∀ p ∈ b.log,
    ¬ p.2.decision.decided = true → ∃ sentence, p.2.decision.reason.sentence? = some sentence)
    ?_ fun p hp => absurd hp List.not_mem_nil
  intro sketch b h p hp
  rcases List.mem_append.mp hp with hp | hp
  · exact h p hp
  · obtain rfl := List.mem_singleton.mp hp
    exact LawfulJudge.exists_sentence sketch b.state

end

/-- **What feedback says of the attempt before.**  However the generator behaves, and on whatever
engines the sketches are judged, the first request for a sketch comes without feedback, and every
other one with feedback that tells of the attempt before, as it is recorded when the run ends and as
an answer hands it out: of the error, if its text was no sketch, and else of the sketch that was
evaluated in it.  Attempts and exchanges are counted alike, and a sketch is the next one to be
evaluated after those of the attempts before it. -/
theorem feedback_of_attempt {γ β : Type} [Generator γ] [Judge β] [LawfulJudge β]
    (question : String) (budget : Nat) (generator : γ) (judge : β) :
    let last := (watchedStart generator judge).final question budget
    let run := watched question budget generator judge
    let asked := run.2.1.log
    let judged := run.2.2.log
    refine question budget generator judge = (run.1, run.2.1.state, run.2.2.state) ∧
    last.step question budget = .ended run.1 run.2.1 run.2.2 ∧
    (∀ answer, run.1 = .ok answer → answer.attempts = last.attempts) ∧
    (∀ feedback reply, asked[0]? = some ⟨.sketch question feedback, reply⟩ → feedback = none) ∧
    ∀ j feedback reply, asked[j + 1]? = some ⟨.sketch question feedback, reply⟩ →
      ∃ a before text told, last.attempts[j]? = some a ∧
        asked[j]? = some ⟨.sketch question before, .ok text⟩ ∧ feedback = some told ∧
        a.Told text
          (judged[(last.attempts.take j).countP fun a => a.fingerprint.isSome]?) told := by
  intro last run asked judged
  obtain ⟨hended, hanswer, rounds, further, hhistory, hending, hattempts⟩ :=
    exists_history_final question budget generator judge
  replace hattempts : last.attempts = attemptsOf rounds := hattempts
  refine ⟨refine_eq_watched question budget generator judge, hended, hanswer, ?_, ?_⟩
  · intro feedback reply hfirst
    exact (hhistory.request hending hfirst).2
  · intro j feedback reply hnext
    obtain ⟨hle, hfeedback⟩ := hhistory.request hending hnext
    have hround : rounds[j]? = some rounds[j] := List.getElem?_eq_getElem hle
    have hmem : rounds[j] ∈ rounds := List.getElem_mem hle
    have hopen := hhistory.not_decided_of_request hending
      (List.getElem?_eq_some_iff.mp hnext).1 hround
    rw [← List.take_append_getElem hle, feedbackAfter_concat] at hfeedback
    refine ⟨⟨j + 1, rounds[j].fingerprint, rounds[j].finding⟩, _, _, _, ?_,
      hhistory.getElem?_asked hle, hfeedback, ?_⟩
    · rw [hattempts, getElem?_attemptsOf, hround, Option.map_some]
    · have hjudged : ∀ p, rounds[j].judgement = some p →
          judged[(last.attempts.take j).countP fun a => a.fingerprint.isSome]? = some p := by
        intro p hp
        rw [hattempts]
        exact hhistory.getElem?_judged hround hp
      refine Round.told_response (hhistory.reading _ hmem) hopen hjudged ?_ _ _
      intro p hp
      exact exists_sentence_of_judged question budget generator judge p
        (List.mem_of_getElem? (hjudged p hp))

/-- Over the replies of `interrupted`, feedback on the second attempt is that its text was no
sketch, and feedback on the third shows the sketch. -/
theorem feedback_of_attempt_interrupted :
    let run := watched "Is it so?" 4 interrupted (Scripted.ofScript [])
    let last := (watchedStart interrupted (Scripted.ofScript [])).final "Is it so?" 4
    LawfulJudge Scripted ∧
    (∃ feedback reply a e, run.2.1.log[2]? = some ⟨.sketch "Is it so?" (some feedback), reply⟩ ∧
      last.attempts[1]? = some a ∧ a.finding = .malformed e ∧
      feedback =
        "JSON parse error from generator output. Please output valid JSON. Error: " ++ e.message) ∧
    ∃ feedback reply a reason sentence notice,
      run.2.1.log[3]? = some ⟨.sketch "Is it so?" (some feedback), reply⟩ ∧
      last.attempts[2]? = some a ∧ a.finding = .undecided reason ∧
      reason.sentence? = some sentence ∧
      feedback = "Solver could not decide. Sketch was: " ++ openSketch.json ++
        ". Refine the rules. " ++ sentence ++ notice := by
  intro run last
  obtain ⟨e, reason, reason', outage, he, hlog⟩ := interruptedLog_eq
  replace hlog : run.2.1.log = _ := hlog
  obtain ⟨-, -, -, -, htold⟩ :=
    feedback_of_attempt "Is it so?" 4 interrupted (Scripted.ofScript [])
  refine ⟨inferInstance, ?_, ?_⟩
  · have hnext : run.2.1.log[2]? = some ⟨.sketch "Is it so?" (some (malformedFeedback e)),
        .ok openSketch.json⟩ := by rw [hlog]; rfl
    obtain ⟨a, before, text, told, ha, htext, hfeedback, h⟩ := htold 1 _ _ hnext
    replace htext : run.2.1.log[1]? = some ⟨.sketch "Is it so?" before, .ok text⟩ := htext
    obtain rfl : "no sketch" = text := by
      rw [hlog] at htext
      exact Except.ok.inj (Exchange.mk.inj (Option.some.inj htext)).2
    cases h with
    | malformed hfinding hparse =>
      rw [hfeedback] at hnext
      exact ⟨_, _, a, _, hnext, ha, hfinding, rfl⟩
    | undecided _ _ hparse => exact absurd (he.symm.trans hparse) nofun
  · have hnext : run.2.1.log[3]? = some ⟨.sketch "Is it so?"
        (some (undecidedFeedback openSketch reason' true)), .error outage⟩ := by rw [hlog]; rfl
    obtain ⟨a, before, text, told, ha, htext, hfeedback, h⟩ := htold 2 _ _ hnext
    replace htext : run.2.1.log[2]? = some ⟨.sketch "Is it so?" before, .ok text⟩ := htext
    obtain rfl : openSketch.json = text := by
      rw [hlog] at htext
      exact Except.ok.inj (Exchange.mk.inj (Option.some.inj htext)).2
    cases h with
    | malformed _ hparse => exact absurd (parse_openSketch.symm.trans hparse) nofun
    | undecided hfinding _ hparse _ _ hsentence =>
      obtain rfl := Except.ok.inj (parse_openSketch.symm.trans hparse)
      rw [hfeedback] at hnext
      exact ⟨_, _, a, _, _, _, hnext, ha, hfinding, hsentence, rfl⟩

end Entail
