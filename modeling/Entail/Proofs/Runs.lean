/-
Entail/Proofs/Runs.lean

What a run does, from its first request to its end.

A run is watched through a generator and a judge that keep a log (`Recorded`), and watching changes
nothing (`refine_eq_watched`).  What the logs say is a list of rounds (`History`): a request for a
sketch, the text that came back, and the evaluation if the text could be read.  The requests, the
feedback in them, the evaluations, and the attempts of the answer are all determined by the rounds.

In every phase the logs tell the rounds so far, none of which has decided (`Run.Invariant`).  A step
keeps that (`Run.Invariant.step`), hence so does a whole run, which then can end in three ways only
(`Ending`, `refine_ending`).
-/
import Mathlib.Data.List.Basic
import Entail.Proofs.Recording

namespace Entail

/-! ### Rounds -/

/-- A text of the generator, with the feedback that asked for it, and what became of it. -/
structure Round where
  feedback : Option String
  text : String
  reading : Except SketchError (Sketch × Evaluation)

namespace Round

/-- The exchange of the round. -/
def exchange (question : String) (r : Round) : Exchange :=
  ⟨.sketch question r.feedback, .ok r.text⟩

/-- The evaluation of the round, if its text could be read. -/
def judgement (r : Round) : Option (Sketch × Evaluation) := r.reading.toOption

/-- The fingerprint of the sketch, if the text could be read. -/
def fingerprint (r : Round) : Option String := r.judgement.map fun p => p.1.fingerprint

/-- The text could be read and its sketch decides the query. -/
def Decided (r : Round) : Prop := ∃ p ∈ r.judgement, p.2.decision.decided = true

/-- What came of the text. -/
def finding (r : Round) : Finding :=
  match r.reading with
  | .error e => .malformed e
  | .ok (_, evaluation) =>
    if evaluation.decision.decided then .decided evaluation.decision.verdict
    else .undecided evaluation.decision.reason

/-- The feedback the round gives, after a sketch with the given fingerprint. -/
def response (last : Option String) (r : Round) : String :=
  match r.reading with
  | .error e => malformedFeedback e
  | .ok (sketch, evaluation) =>
    undecidedFeedback sketch evaluation.decision.reason (last = some sketch.fingerprint)

end Round

/-- The attempts that rounds amount to, numbered from 1. -/
def attemptsOf (rounds : List Round) : List Attempt :=
  rounds.mapIdx fun i r => ⟨i + 1, r.fingerprint, r.finding⟩

/-- The fingerprint of the last sketch that could be read. -/
def lastFingerprint (rounds : List Round) : Option String :=
  (rounds.filterMap Round.fingerprint).getLast?

/-- The feedback in the request after the rounds. -/
def feedbackAfter (rounds : List Round) : Option String :=
  rounds.getLast?.map (Round.response (lastFingerprint rounds.dropLast))

/-- The rounds that logs tell of, before some further exchanges.  Every text is read as it is
written, and every round is asked for with feedback on the rounds before. -/
structure History (question : String) (rounds : List Round) (further asked : List Exchange)
    (judged : List (Sketch × Evaluation)) : Prop where
  asked_eq : asked = rounds.map (Round.exchange question) ++ further
  judged_eq : judged = rounds.filterMap Round.judgement
  reading : ∀ r ∈ rounds, Sketch.parse r.text = r.reading.map Prod.fst
  feedback : ∀ before r, before ++ [r] <+: rounds → r.feedback = feedbackAfter before

section

variable {question : String} {rounds : List Round} {further asked : List Exchange}
  {judged : List (Sketch × Evaluation)} {r : Round}

theorem length_attemptsOf (rounds : List Round) : (attemptsOf rounds).length = rounds.length :=
  List.length_mapIdx

theorem attemptsOf_concat (rounds : List Round) (r : Round) :
    attemptsOf (rounds ++ [r]) =
      attemptsOf rounds ++ [⟨rounds.length + 1, r.fingerprint, r.finding⟩] := by
  simp [attemptsOf, List.mapIdx_append]

theorem lastFingerprint_concat (rounds : List Round) (r : Round) :
    lastFingerprint (rounds ++ [r]) = r.fingerprint.or (lastFingerprint rounds) := by
  cases h : r.fingerprint <;> simp [lastFingerprint, List.filterMap_append, h]

theorem feedbackAfter_concat (rounds : List Round) (r : Round) :
    feedbackAfter (rounds ++ [r]) = some (r.response (lastFingerprint rounds)) := by
  simp [feedbackAfter]

theorem History.nil (question : String) : History question [] [] [] [] :=
  ⟨rfl, rfl, by simp, by simp⟩

/-- An exchange is added to the log. -/
theorem History.ask (h : History question rounds [] asked judged) (e : Exchange) :
    History question rounds [e] (asked ++ [e]) judged := by
  refine ⟨?_, h.judged_eq, h.reading, h.feedback⟩
  rw [h.asked_eq, List.append_nil]

/-- A round is complete. -/
theorem History.concat (r : Round)
    (h : History question rounds [r.exchange question] asked judged)
    (hreading : Sketch.parse r.text = r.reading.map Prod.fst)
    (hfeedback : r.feedback = feedbackAfter rounds) :
    History question (rounds ++ [r]) [] asked (judged ++ r.judgement.toList) := by
  refine ⟨?_, ?_, ?_, ?_⟩
  · rw [h.asked_eq, List.map_append, List.append_nil]
    rfl
  · rw [h.judged_eq, List.filterMap_append]
    cases hr : r.judgement <;> simp [hr]
  · exact List.forall_mem_append.mpr ⟨h.reading, List.forall_mem_singleton.mpr hreading⟩
  · intro before r' hprefix
    rcases List.prefix_concat_iff.mp hprefix with heq | hprefix
    · obtain ⟨hbefore, hr⟩ := List.append_inj' heq rfl
      rw [hbefore, List.singleton_inj.mp hr, hfeedback]
    · exact h.feedback before r' hprefix

theorem Round.finding_eq_decided_iff {v : Verdict} :
    r.finding = .decided v ↔ r.Decided ∧ ∃ p ∈ r.judgement, p.2.decision.verdict = v := by
  cases h : r.reading with
  | error e => simp [Round.finding, Round.Decided, Round.judgement, h, Except.toOption]
  | ok p =>
    by_cases hd : p.2.decision.decided = true <;>
      simp [Round.finding, Round.Decided, Round.judgement, h, hd, Except.toOption]

theorem Round.fingerprint_eq_none_iff :
    r.fingerprint = none ↔ ∃ e, r.finding = .malformed e := by
  cases h : r.reading with
  | error e => simp [Round.fingerprint, Round.finding, Round.judgement, h, Except.toOption]
  | ok p =>
    by_cases hd : p.2.decision.decided = true <;>
      simp [Round.fingerprint, Round.finding, Round.judgement, h, hd, Except.toOption]

end

/-! ### The ways to end -/

/-- What a verdict concludes. -/
def Verdict.conclusion? : Verdict → Option Conclusion
  | .yes => some .yes
  | .no => some .no
  | .unknown => none

theorem Verdict.conclusion?_inj {v w : Verdict} (h : v.conclusion? = w.conclusion?) : v = w := by
  cases v <;> cases w <;> first | rfl | simp [Verdict.conclusion?] at h

theorem Decision.decided_of_conclusion? {d : Decision} {c : Conclusion}
    (h : d.verdict.conclusion? = some c) : d.decided = true := by
  rw [Decision.decided, bne_iff_ne]
  intro hv
  rw [hv] at h
  exact absurd h (Option.some_ne_none c).symm

theorem Decision.conclusion?_of_decided {d : Decision} (h : d.decided = true) :
    d.verdict.conclusion? = some (if d.verdict = .yes then .yes else .no) := by
  rw [Decision.decided, bne_iff_ne] at h
  cases hv : d.verdict with
  | yes => rfl
  | no => rfl
  | unknown => exact absurd hv h

/-- How a run with the given rounds can end: its result, and the exchange after the rounds. -/
inductive Ending (question : String) (budget : Nat) (rounds : List Round) :
    Except GeneratorError Answer → List Exchange → Prop
  /-- The last round decides, the first one to do so, and nothing is asked afterwards. -/
  | decided {before : List Round} {r : Round} {sketch : Sketch} {evaluation : Evaluation}
      {conclusion : Conclusion} (hrounds : rounds = before ++ [r])
      (hopen : ∀ r ∈ before, ¬ r.Decided) (hbudget : rounds.length ≤ budget)
      (hreading : r.reading = .ok (sketch, evaluation))
      (hverdict : evaluation.decision.verdict.conclusion? = some conclusion) :
      Ending question budget rounds (.ok ⟨conclusion, some sketch, attemptsOf rounds⟩) []
  /-- The rounds use the budget up, and then a plain answer is given. -/
  | answered {text : String} (hopen : ∀ r ∈ rounds, ¬ r.Decided)
      (hbudget : rounds.length = budget) :
      Ending question budget rounds (.ok ⟨.fallback (Text.trim text), none, attemptsOf rounds⟩)
        [⟨.answer question, .ok text⟩]
  /-- The generator fails, at the request that is due. -/
  | failed {request : Request} {e : GeneratorError} (hopen : ∀ r ∈ rounds, ¬ r.Decided)
      (hrequest :
        rounds.length < budget ∧ request = .sketch question (feedbackAfter rounds) ∨
        rounds.length = budget ∧ request = .answer question) :
      Ending question budget rounds (.error e) [⟨request, .error e⟩]

/-! ### What every step keeps -/

namespace Run

variable {γ β : Type} {question : String} {budget : Nat} {rounds : List Round}
  {further : List Exchange} {r r' : Recording γ β} {round : Round}

/-- The logs of a run tell the rounds, its other fields are what the rounds make them, and no round
has decided. -/
structure Open (question : String) (rounds : List Round) (further : List Exchange)
    (r : Recording γ β) : Prop where
  history : History question rounds further r.generator.log r.judge.log
  undecided : ∀ round ∈ rounds, ¬ round.Decided
  attempts_eq : r.attempts = attemptsOf rounds
  last_eq : r.last = lastFingerprint rounds

/-- What holds of a run in each phase. -/
def Invariant (question : String) (budget : Nat) (r : Recording γ β) : Prop :=
  ∃ rounds, match r.phase with
  | .propose feedback =>
    r.Open question rounds [] ∧ rounds.length ≤ budget ∧ feedback = feedbackAfter rounds
  | .weigh sketch => ∃ text, Sketch.parse text = .ok sketch ∧ rounds.length < budget ∧
    r.Open question rounds [⟨.sketch question (feedbackAfter rounds), .ok text⟩]
  | .giveUp => r.Open question rounds [] ∧ rounds.length = budget
  | .done answer => ∃ further, History question rounds further r.generator.log r.judge.log ∧
    Ending question budget rounds (.ok answer) further

theorem Open.length_attempts (h : r.Open question rounds further) :
    r.attempts.length = rounds.length := by
  rw [h.attempts_eq, length_attemptsOf]

theorem Open.withPhase (h : r.Open question rounds further) (phase : Phase) :
    ({ r with phase } : Recording γ β).Open question rounds further :=
  ⟨h.history, h.undecided, h.attempts_eq, h.last_eq⟩

/-- The attempts with one more are those of one more round. -/
theorem Open.record (h : r.Open question rounds further) (round : Round) :
    r.record round.fingerprint round.finding = attemptsOf (rounds ++ [round]) := by
  rw [Run.record, h.length_attempts, h.attempts_eq, attemptsOf_concat]

/-- A round is complete, and the next request follows. -/
theorem Open.next (round : Round) (h : r.Open question rounds [round.exchange question])
    (hlt : rounds.length < budget) (hreading : Sketch.parse round.text = round.reading.map Prod.fst)
    (hfeedback : round.feedback = feedbackAfter rounds) (hundecided : ¬ round.Decided)
    (hphase : r'.phase = .propose (some (round.response r.last)))
    (hgenerator : r'.generator = r.generator)
    (hjudge : r'.judge.log = r.judge.log ++ round.judgement.toList)
    (hattempts : r'.attempts = r.record round.fingerprint round.finding)
    (hlast : r'.last = round.fingerprint.or r.last) : r'.Invariant question budget := by
  refine ⟨rounds ++ [round], ?_⟩
  rw [hphase]
  refine ⟨⟨?_, ?_, ?_, ?_⟩, ?_, ?_⟩
  · rw [hgenerator, hjudge]
    exact h.history.concat round hreading hfeedback
  · exact List.forall_mem_append.mpr ⟨h.undecided, List.forall_mem_singleton.mpr hundecided⟩
  · rw [hattempts, h.record]
  · rw [hlast, h.last_eq, lastFingerprint_concat]
  · rw [List.length_append, List.length_singleton]
    exact hlt
  · rw [feedbackAfter_concat, h.last_eq]

section

variable {text : String} {sketch : Sketch} {evaluation : Evaluation}
  {judge : Recorded β (Sketch × Evaluation)}

/-- A text that could not be read completes a round. -/
theorem Open.malformed {e : SketchError}
    (h : r.Open question rounds [⟨.sketch question (feedbackAfter rounds), .ok text⟩])
    (hlt : rounds.length < budget) (hparse : Sketch.parse text = .error e) :
    (r.read text).Invariant question budget := by
  rw [read_of_error hparse]
  refine h.next ⟨feedbackAfter rounds, text, .error e⟩ hlt hparse rfl ?_ rfl rfl ?_ rfl rfl
  · rintro ⟨p, hp, -⟩
    exact absurd hp (Option.not_mem_none p)
  · exact (List.append_nil _).symm

/-- An evaluation that decides nothing completes a round. -/
theorem Open.undecidedSketch
    (h : r.Open question rounds [⟨.sketch question (feedbackAfter rounds), .ok text⟩])
    (hlt : rounds.length < budget) (hparse : Sketch.parse text = .ok sketch)
    (hjudge : judge.log = r.judge.log ++ [(sketch, evaluation)])
    (hd : ¬ evaluation.decision.decided = true) :
    ({ r with judge }.settle sketch evaluation.decision).Invariant question budget := by
  let round : Round := ⟨feedbackAfter rounds, text, .ok (sketch, evaluation)⟩
  have hfinding : round.finding = .undecided evaluation.decision.reason := if_neg hd
  rw [settle_of_undecided hd]
  refine h.next round hlt hparse rfl ?_ rfl rfl hjudge ?_ rfl
  · rintro ⟨p, hp, hdecided⟩
    obtain rfl := Option.some_inj.mp hp
    exact hd hdecided
  · rw [hfinding]
    rfl

/-- An evaluation that decides the query completes the last round. -/
theorem Open.decidedSketch
    (h : r.Open question rounds [⟨.sketch question (feedbackAfter rounds), .ok text⟩])
    (hlt : rounds.length < budget) (hparse : Sketch.parse text = .ok sketch)
    (hjudge : judge.log = r.judge.log ++ [(sketch, evaluation)])
    (hd : evaluation.decision.decided = true) :
    ({ r with judge }.settle sketch evaluation.decision).Invariant question budget := by
  let round : Round := ⟨feedbackAfter rounds, text, .ok (sketch, evaluation)⟩
  have hhistory : History question (rounds ++ [round]) [] r.generator.log judge.log := by
    rw [hjudge]
    exact h.history.concat round hparse rfl
  have hrecord : r.record (some sketch.fingerprint) (.decided evaluation.decision.verdict) =
      attemptsOf (rounds ++ [round]) := by
    have hfinding : round.finding = .decided evaluation.decision.verdict := if_pos hd
    rw [← h.record round, hfinding]
    rfl
  refine ⟨rounds ++ [round], ?_⟩
  rw [settle_of_decided hd]
  refine ⟨[], hhistory, ?_⟩
  show Ending _ _ _ (.ok ⟨_, _, r.record _ _⟩) _
  rw [hrecord]
  refine .decided rfl h.undecided ?_ rfl (Decision.conclusion?_of_decided hd)
  rw [List.length_append, List.length_singleton]
  exact hlt

end

/-- A reply of the generator is added to the log. -/
theorem Open.ask (h : r.Open question rounds []) {generator : Recorded γ Exchange} {e : Exchange}
    (hlog : generator.log = r.generator.log ++ [e]) :
    ({ r with generator } : Recording γ β).Open question rounds [e] := by
  refine ⟨?_, h.undecided, h.attempts_eq, h.last_eq⟩
  show History question rounds [e] generator.log r.judge.log
  rw [hlog]
  exact h.history.ask e

theorem invariant_start (question : String) (budget : Nat) (generator : γ) (judge : β) :
    ({ generator := ⟨generator, []⟩, judge := ⟨judge, []⟩ } : Recording γ β).Invariant
      question budget :=
  ⟨[], ⟨History.nil question, by simp, rfl, rfl⟩, Nat.zero_le budget, rfl⟩

variable [Generator γ] [Judge β]

/-- **Every step keeps the invariant.** -/
theorem Invariant.step (h : r.Invariant question budget)
    (hstep : r.step question budget = .again r') : r'.Invariant question budget := by
  have hsteps := steps_step question budget r
  rw [hstep] at hsteps
  obtain ⟨rounds, h⟩ := h
  cases hsteps with
  | spent hp hb hnext =>
    rw [hp] at h
    obtain ⟨hopen, hle, -⟩ := h
    rw [hopen.length_attempts] at hb
    rw [hnext]
    exact ⟨rounds, hopen.withPhase .giveUp, Nat.le_antisymm hle hb⟩
  | @proposed feedback text generator _ hp hb hreply hnext =>
    rw [hp] at h
    obtain ⟨hopen, -, hfeedback⟩ := h
    rw [hopen.length_attempts] at hb
    rw [hfeedback] at hreply
    have hasked := hopen.ask (Recorded.sketch_eq hreply).2
    rw [hnext]
    cases hparse : Sketch.parse text with
    | error e => exact hasked.malformed hb hparse
    | ok sketch =>
      rw [read_of_ok hparse]
      exact ⟨rounds, text, hparse, hb, hasked.withPhase (.weigh sketch)⟩
  | @weighed sketch evaluation judge _ hp hreply hnext =>
    rw [hp] at h
    obtain ⟨text, hparse, hlt, hopen⟩ := h
    rw [hnext]
    by_cases hd : evaluation.decision.decided = true
    · exact hopen.decidedSketch hlt hparse (Recorded.judge_eq hreply).2 hd
    · exact hopen.undecidedSketch hlt hparse (Recorded.judge_eq hreply).2 hd
  | @answered text generator _ hp hreply hnext =>
    rw [hp] at h
    obtain ⟨hopen, hlength⟩ := h
    have hasked := hopen.ask (Recorded.answer_eq hreply).2
    rw [hnext, hopen.attempts_eq]
    exact ⟨rounds, _, hasked.history, .answered hopen.undecided hlength⟩

/-- A run that ends does so in one of the three ways.  If it fails, its attempts so far are those of
the rounds. -/
theorem Invariant.ending (h : r.Invariant question budget)
    {result : Except GeneratorError Answer} {generator : Recorded γ Exchange}
    {judge : Recorded β (Sketch × Evaluation)}
    (hstep : r.step question budget = .ended result generator judge) :
    ∃ rounds further, History question rounds further generator.log judge.log ∧
      Ending question budget rounds result further ∧
      ∀ e, result = .error e → r.attempts = attemptsOf rounds := by
  have hsteps := steps_step question budget r
  rw [hstep] at hsteps
  obtain ⟨rounds, h⟩ := h
  cases hsteps with
  | refused hp hb hreply =>
    rw [hp] at h
    obtain ⟨hopen, -, hfeedback⟩ := h
    rw [hopen.length_attempts] at hb
    rw [hfeedback] at hreply
    have hasked := hopen.ask (Recorded.sketch_eq hreply).2
    exact ⟨rounds, _, hasked.history, .failed hopen.undecided (.inl ⟨hb, rfl⟩),
      fun _ _ => hopen.attempts_eq⟩
  | silent hp hreply =>
    rw [hp] at h
    obtain ⟨hopen, hlength⟩ := h
    have hasked := hopen.ask (Recorded.answer_eq hreply).2
    exact ⟨rounds, _, hasked.history, .failed hopen.undecided (.inr ⟨hlength, rfl⟩),
      fun _ _ => hopen.attempts_eq⟩
  | done hp =>
    rw [hp] at h
    obtain ⟨further, hhistory, hending⟩ := h
    exact ⟨rounds, further, hhistory, hending, fun _ hresult => nomatch hresult⟩

end Run

/-! ### Whole runs -/

section

variable {γ β : Type} [Generator γ] [Judge β] {question : String} {budget : Nat}

/-- What every step keeps holds where the run ends. -/
theorem Run.exists_ended {p : Run γ β → Prop}
    (hstep : ∀ r r', p r → r.step question budget = .again r' → p r') {r : Run γ β} (h : p r) :
    ∃ r', p r' ∧ r'.step question budget = .ended (r.finish question budget).1
      (r.finish question budget).2.1 (r.finish question budget).2.2 := by
  fun_induction finish question budget r with
  | case1 r result generator judge hnext => exact ⟨r, h, hnext⟩
  | case2 r r' hnext ih => exact ih (hstep r r' h hnext)

end

section

variable {question : String} {budget : Nat} {rounds : List Round} {further asked : List Exchange}
  {judged : List (Sketch × Evaluation)} {result : Except GeneratorError Answer}

theorem Ending.length_le (h : Ending question budget rounds result further) :
    rounds.length + further.countP Exchange.forSketch ≤ budget ∧
      further.countP (!·.forSketch) ≤ 1 := by
  cases h with
  | decided _ _ hbudget => exact ⟨hbudget, Nat.zero_le 1⟩
  | answered _ hbudget => exact ⟨Nat.le_of_eq hbudget, Nat.le_refl 1⟩
  | failed _ hrequest =>
    obtain ⟨hlt, rfl⟩ | ⟨heq, rfl⟩ := hrequest
    · exact ⟨hlt, Nat.zero_le 1⟩
    · exact ⟨Nat.le_of_eq heq, Nat.le_refl 1⟩

theorem Ending.countP_forSketch {answer : Answer}
    (h : Ending question budget rounds (.ok answer) further) :
    further.countP Exchange.forSketch = 0 := by
  cases h with
  | decided => rfl
  | answered => rfl

/-- Every round asks for a sketch. -/
theorem History.countP_forSketch (h : History question rounds further asked judged) :
    asked.countP Exchange.forSketch = rounds.length + further.countP Exchange.forSketch := by
  rw [h.asked_eq, List.countP_append, List.countP_map, List.countP_eq_length.mpr]
  exact fun r _ => rfl

theorem History.countP_not_forSketch (h : History question rounds further asked judged) :
    asked.countP (!·.forSketch) = further.countP (!·.forSketch) := by
  rw [h.asked_eq, List.countP_append, List.countP_map, List.countP_eq_zero.mpr, Nat.zero_add]
  exact fun r _ => Bool.false_ne_true

theorem Ending.attempts_eq {answer : Answer}
    (h : Ending question budget rounds (.ok answer) further) :
    answer.attempts = attemptsOf rounds := by
  cases h with
  | decided => rfl
  | answered => rfl

/-- No attempt but the last decides, and that one only with what the answer concludes. -/
theorem Ending.finding_eq_decided_iff {answer : Answer}
    (h : Ending question budget rounds (.ok answer) further) {i : Nat} {r : Round}
    (hr : rounds[i]? = some r) (v : Verdict) :
    r.finding = .decided v ↔ i + 1 = rounds.length ∧ v.conclusion? = some answer.conclusion := by
  rw [Round.finding_eq_decided_iff]
  cases h with
  | @decided before last sketch evaluation conclusion hrounds hopen _ hreading hverdict =>
    subst hrounds
    rw [List.length_append, List.length_singleton, Nat.add_right_cancel_iff]
    by_cases hi : i < before.length
    · -- one of the earlier rounds
      rw [List.getElem?_append_left hi] at hr
      have hundecided := hopen r (List.mem_of_getElem? hr)
      exact ⟨fun h => absurd h.1 hundecided, fun h => absurd h.1 (Nat.ne_of_lt hi)⟩
    · -- the last round
      have hlt : i < (before ++ [last]).length := (List.getElem?_eq_some_iff.mp hr).1
      rw [List.length_append, List.length_singleton] at hlt
      obtain rfl : i = before.length :=
        Nat.le_antisymm (Nat.le_of_lt_succ hlt) (Nat.le_of_not_lt hi)
      rw [List.getElem?_concat_length, Option.some_inj] at hr
      subst hr
      have hjudgement : last.judgement = some (sketch, evaluation) := by
        rw [Round.judgement, hreading]
        rfl
      simp only [Round.Decided, hjudgement, Option.mem_some_iff, exists_eq_left', true_and,
        Decision.decided_of_conclusion? hverdict, ← hverdict]
      exact ⟨fun h => h ▸ rfl, fun h => (Verdict.conclusion?_inj h).symm⟩
  | answered hopen =>
    have hundecided := hopen r (List.mem_of_getElem? hr)
    refine ⟨fun h => absurd h.1 hundecided, fun h => ?_⟩
    cases v <;> exact absurd h.2 (by simp [Verdict.conclusion?])

end

/-- The logs of a run tell of its rounds, and how it ends. -/
theorem exists_history {γ β : Type} [Generator γ] [Judge β] (question : String) (budget : Nat)
    (generator : γ) (judge : β) :
    ∃ rounds further, History question rounds further
        (watched question budget generator judge).2.1.log
        (watched question budget generator judge).2.2.log ∧
      Ending question budget rounds (watched question budget generator judge).1 further := by
  obtain ⟨r, hinvariant, hended⟩ := Run.exists_ended (fun r r' => Run.Invariant.step)
    (Run.invariant_start question budget generator judge)
  obtain ⟨rounds, further, hhistory, hending, -⟩ := hinvariant.ending hended
  exact ⟨rounds, further, hhistory, hending⟩

/-- **Every run ends in one of three ways.**  However the generator and the judge behave, watching
them changes nothing, no more sketches are asked for than the budget allows, and a plain answer at
most once.  The logs tell of rounds and at most one further exchange, and the run ends in one of the
three ways.  The attempts of an answer are those rounds. -/
theorem refine_ending {γ β : Type} [Generator γ] [Judge β] (question : String) (budget : Nat)
    (generator : γ) (judge : β) :
    let run := watched question budget generator judge
    let asked := run.2.1.log
    let judged := run.2.2.log
    refine question budget generator judge = (run.1, run.2.1.state, run.2.2.state) ∧
    asked.countP Exchange.forSketch ≤ budget ∧ asked.countP (!·.forSketch) ≤ 1 ∧
    (∃ rounds further, History question rounds further asked judged ∧
      Ending question budget rounds run.1 further) ∧
    ∀ answer, run.1 = .ok answer →
      answer.attempts.length = asked.countP Exchange.forSketch ∧
      ∀ i a, answer.attempts[i]? = some a →
        a.iteration = i + 1 ∧ (a.fingerprint = none ↔ ∃ e, a.finding = .malformed e) ∧
        ∀ v, a.finding = .decided v ↔
          i + 1 = answer.attempts.length ∧ v.conclusion? = some answer.conclusion := by
  intro run asked judged
  obtain ⟨rounds, further, hhistory, hending⟩ := exists_history question budget generator judge
  have hasked : asked.countP Exchange.forSketch = _ := hhistory.countP_forSketch
  obtain ⟨hlength, honce⟩ := hending.length_le
  refine ⟨refine_eq_watched question budget generator judge, ?_, ?_,
    ⟨rounds, further, hhistory, hending⟩, ?_⟩
  · rw [hasked]
    exact hlength
  · rw [← hhistory.countP_not_forSketch] at honce
    exact honce
  · intro answer hanswer
    replace hending : Ending question budget rounds (.ok answer) further := hanswer ▸ hending
    rw [hasked, hending.countP_forSketch, hending.attempts_eq, length_attemptsOf]
    refine ⟨rfl, fun i a ha => ?_⟩
    obtain ⟨r, hr, rfl⟩ : ∃ r, rounds[i]? = some r ∧ ⟨i + 1, r.fingerprint, r.finding⟩ = a := by
      simpa [attemptsOf] using ha
    exact ⟨rfl, Round.fingerprint_eq_none_iff, hending.finding_eq_decided_iff hr⟩

end Entail
