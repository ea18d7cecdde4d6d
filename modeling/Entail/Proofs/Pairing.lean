/-
Entail/Proofs/Pairing.lean

What is asked of a solver that answers from a script.

A check is always made in a scope of its own, which is closed right after it.  So whatever theories
over one script are used for, and in whatever order, the log counts as many scopes opened as closed
and as many checks, no scope is open between two uses, and what is left of the script is what comes
after the outcomes that the checks took (`Scripted.Paired`).  Using a theory keeps that
(`Shared.paired_step`), and a decision takes two outcomes (`Theory.paired_decide`).

In a run every sketch that can be read is decided once (`History.judged_sketches`), so the sketch
with number `j` is decided by the outcomes `2 * j` and `2 * j + 1`, whatever it says
(`Replayed.judge`).

Main result: `probes_paired`.
-/
import Entail.Proofs.Repetition
import Entail.Proofs.Sharing

namespace Entail

/-! ### Counting -/

/-- The outcome a script gives to the check with a number, counted from 0. -/
def answerAt (script : List Outcome) (n : Nat) : Outcome := script.getD n .unknown

/-- The log counts as many scopes as checks, with never more than one open and none open now, and
the checks took the first outcomes of the script. -/
structure Scripted.Paired (script : List Outcome) (n : Nat) (s : Scripted) : Prop where
  checks_eq : s.log.checks = n
  pushes_eq : s.log.pushes = n
  pops_eq : s.log.pops = n
  depth_eq : s.log.depth = 0
  maxDepth_le : s.log.maxDepth ≤ 1
  script_eq : s.script = script.drop n

theorem Scripted.paired_ofScript (script : List Outcome) : (ofScript script).Paired script 0 :=
  ⟨rfl, rfl, rfl, rfl, Nat.zero_le 1, rfl⟩

/-- The next outcome of a script is the one with the number of the check. -/
theorem headD_drop (script : List Outcome) (n : Nat) :
    (script.drop n).headD .unknown = answerAt script n := by
  rw [List.headD_eq_head?_getD, List.head?_drop, answerAt, List.getD_eq_getElem?_getD]

/-! ### Theories -/

namespace Theory

variable {script : List Outcome} {n : Nat} {t : Theory Scripted}

theorem paired_ensure (name : String) (t : Theory Scripted) (h : t.engine.Paired script n) :
    (t.ensure name).2.engine.Paired script n := by
  by_cases hmem : name ∈ t.names
  · rw [ensure_of_mem hmem]
    exact h
  · rw [ensure_of_not_mem hmem]
    exact ⟨h.checks_eq, h.pushes_eq, h.pops_eq, h.depth_eq, h.maxDepth_le, h.script_eq⟩

theorem paired_require (f : Formula) (t : Theory Scripted) (h : t.engine.Paired script n) :
    (t.require f).engine.Paired script n :=
  ⟨h.checks_eq, h.pushes_eq, h.pops_eq, h.depth_eq, h.maxDepth_le, h.script_eq⟩

/-- Compiling a sketch checks nothing. -/
theorem paired_compile (sketch : Sketch) (h : t.engine.Paired script n) :
    (t.compile sketch).2.engine.Paired script n :=
  compile_induction (p := fun t : Theory Scripted => t.engine.Paired script n) paired_ensure
    paired_require sketch h

/-- A check takes the next outcome, in a scope that it closes. -/
theorem paired_assuming (f : Formula) (h : t.engine.Paired script n) :
    (t.assuming f).1 = answerAt script n ∧ (t.assuming f).2.engine.Paired script (n + 1) := by
  refine ⟨?_, ?_, ?_, ?_, ?_, ?_, ?_⟩
  · show t.engine.script.headD .unknown = _
    rw [h.script_eq, headD_drop]
  · show t.engine.log.checks + 1 = _
    rw [h.checks_eq]
  · show t.engine.log.pushes + 1 = _
    rw [h.pushes_eq]
  · show t.engine.log.pops + 1 = _
    rw [h.pops_eq]
  · exact h.depth_eq
  · show max t.engine.log.maxDepth (t.engine.log.depth + 1) ≤ 1
    rw [h.depth_eq]
    exact max_le h.maxDepth_le (Nat.le_refl 1)
  · show t.engine.script.tail = _
    rw [h.script_eq, List.tail_drop]

/-- A decision takes the next two outcomes. -/
theorem paired_decide (i : Nat) (h : t.engine.Paired script n) :
    (t.decide i).1 = .ofOutcomes (answerAt script n) (answerAt script (n + 1)) ∧
      (t.decide i).2.engine.Paired script (n + 2) := by
  obtain ⟨htrue, h⟩ := paired_assuming (.var i) h
  obtain ⟨hfalse, h⟩ := paired_assuming (Formula.negate (.var i)) h
  exact ⟨congrArg₂ Decision.ofOutcomes htrue hfalse, h⟩

end Theory

/-- A sketch is decided by the next two outcomes, whatever it says. -/
theorem Sketch.paired_evaluate {script : List Outcome} {n : Nat} {engine : Scripted}
    (sketch : Sketch) (h : engine.Paired script n) :
    (sketch.evaluate engine).1.decision =
        .ofOutcomes (answerAt script n) (answerAt script (n + 1)) ∧
      (sketch.evaluate engine).2.Paired script (n + 2) :=
  Theory.paired_decide _ (Theory.paired_compile (t := ⟨engine, []⟩) sketch h)

/-! ### Theories that share a script -/

/-- How many checks a move makes. -/
def Move.checks : Move → Nat
  | .start | .mention _ _ | .require _ _ | .compile _ _ => 0
  | .assume _ _ => 1
  | .decide _ _ => 2

namespace Shared

/-- The theory that the move uses has been started. -/
def Can {σ : Type} (s : Shared σ) : Move → Prop
  | .start => True
  | .mention k _ | .require k _ | .assume k _ | .compile k _ | .decide k _ => k < s.atoms.length

variable {script : List Outcome} {n : Nat} {s : Shared Scripted}

theorem paired_within {k c : Nat} {act : Theory Scripted → Theory Scripted}
    (hk : k < s.atoms.length)
    (hact : ∀ t, t.engine.Paired script n → (act t).engine.Paired script (n + c))
    (h : s.engine.Paired script n) : (s.within k act).engine.Paired script (n + c) := by
  rw [within_eq (List.getElem?_eq_getElem hk)]
  exact hact _ h

/-- **Every move keeps the counts**, and takes as many outcomes as it makes checks. -/
theorem paired_step {m : Move} (hm : s.Can m) (h : s.engine.Paired script n) :
    (s.step m).engine.Paired script (n + m.checks) := by
  cases m with
  | start => exact h
  | mention k name => exact paired_within hm (Theory.paired_ensure name) h
  | require k f => exact paired_within hm (Theory.paired_require f) h
  | assume k f => exact paired_within hm (fun _ ht => (Theory.paired_assuming f ht).2) h
  | compile k sketch => exact paired_within hm (fun _ ht => Theory.paired_compile sketch ht) h
  | decide k i => exact paired_within hm (fun _ ht => (Theory.paired_decide i ht).2) h

/-- A move of a theory that has not been started does nothing. -/
theorem step_of_not_can {m : Move} (hm : ¬ s.Can m) : s.step m = s := by
  cases m with
  | start => exact absurd trivial hm
  | mention k | require k | assume k | compile k | decide k =>
    rw [step, within, List.getElem?_eq_none (Nat.le_of_not_lt hm)]

theorem paired_run (moves : List Move) (h : s.engine.Paired script n) :
    ∃ n', (s.run moves).engine.Paired script n' := by
  induction moves generalizing s n with
  | nil => exact ⟨n, h⟩
  | cons m moves ih =>
    by_cases hm : s.Can m
    · exact ih (paired_step hm h)
    · show ∃ n', ((s.step m).run moves).engine.Paired script n'
      rw [step_of_not_can hm]
      exact ih h

end Shared

/-! ### Runs -/

/-- The sketch that an exchange brought, if it was a request for one and the text could be read. -/
def Exchange.sketch? (e : Exchange) : Option Sketch :=
  match e.request, e.reply with
  | .sketch _ _, .ok text => (Sketch.parse text).toOption
  | _, _ => none

/-- The evaluations were made one after the other, by the outcomes of the script in order. -/
structure Replayed (script : List Outcome) (b : Recorded Scripted (Sketch × Evaluation)) :
    Prop where
  paired : b.state.Paired script (2 * b.log.length)
  decision_eq : ∀ (j : Nat) p, b.log[j]? = some p →
    p.2.decision = .ofOutcomes (answerAt script (2 * j)) (answerAt script (2 * j + 1))

theorem replayed_ofScript (script : List Outcome) : Replayed script ⟨.ofScript script, []⟩ :=
  ⟨Scripted.paired_ofScript script, by simp⟩

/-- An evaluation takes the next two outcomes. -/
theorem Replayed.judge {script : List Outcome} {b : Recorded Scripted (Sketch × Evaluation)}
    (h : Replayed script b) (sketch : Sketch) : Replayed script (Judge.judge sketch b).2 := by
  obtain ⟨hdecision, hpaired⟩ := sketch.paired_evaluate h.paired
  refine ⟨?_, fun j p hj => ?_⟩
  · show (sketch.evaluate b.state).2.Paired script (2 * (b.log ++ [_]).length)
    rw [List.length_append, List.length_singleton, Nat.mul_add]
    exact hpaired
  · replace hj : (b.log ++ [(sketch, (sketch.evaluate b.state).1)])[j]? = some p := hj
    rcases Nat.lt_trichotomy j b.log.length with hlt | rfl | hgt
    · rw [List.getElem?_append_left hlt] at hj
      exact h.decision_eq j p hj
    · rw [List.getElem?_concat_length, Option.some_inj] at hj
      rw [← hj]
      exact hdecision
    · rw [List.getElem?_eq_none (by rw [List.length_append]; exact hgt)] at hj
      cases hj

namespace Run

variable {γ β : Type} {r r' : Run γ β}

theorem judge_read (text : String) : (r.read text).judge = r.judge := by
  unfold read
  split <;> rfl

theorem judge_settle (sketch : Sketch) (d : Decision) : (r.settle sketch d).judge = r.judge := by
  unfold settle
  split <;> rfl

variable [Generator γ] [Judge β] {question : String} {budget : Nat} {p : β → Prop}

/-- What every evaluation keeps, every step keeps. -/
theorem judge_step (hjudge : ∀ sketch b, p b → p (Judge.judge sketch b).2) (h : p r.judge)
    (hstep : r.step question budget = .again r') : p r'.judge := by
  have hsteps := steps_step question budget r
  rw [hstep] at hsteps
  cases hsteps with
  | spent hp hb hnext =>
    rw [hnext]
    exact h
  | proposed hp hb hreply hnext =>
    rw [hnext, judge_read]
    exact h
  | @weighed sketch evaluation judge _ hp hreply hnext =>
    have hlast := hjudge sketch r.judge h
    rw [hreply] at hlast
    rw [hnext, judge_settle]
    exact hlast
  | answered hp hreply hnext =>
    rw [hnext]
    exact h

theorem judge_of_ended {result : Except GeneratorError Answer} {generator : γ} {judge : β}
    (hstep : r.step question budget = .ended result generator judge) : judge = r.judge := by
  have hsteps := steps_step question budget r
  rw [hstep] at hsteps
  cases hsteps <;> rfl

/-- What every evaluation keeps holds at the end of a run. -/
theorem judge_finish (hjudge : ∀ sketch b, p b → p (Judge.judge sketch b).2) (h : p r.judge) :
    p (r.finish question budget).2.2 := by
  obtain ⟨last, hlast, hended⟩ :=
    exists_ended (p := fun r : Run γ β => p r.judge) (fun _ _ => judge_step hjudge) h
  rw [judge_of_ended hended]
  exact hlast

end Run

section

variable {question : String} {budget : Nat} {rounds : List Round} {further asked : List Exchange}
  {judged : List (Sketch × Evaluation)} {result : Except GeneratorError Answer}

theorem Round.sketch?_exchange {r : Round}
    (hreading : Sketch.parse r.text = r.reading.map Prod.fst) :
    (r.exchange question).sketch? = r.judgement.map Prod.fst := by
  show (Sketch.parse r.text).toOption = _
  rw [hreading, judgement]
  cases r.reading <;> rfl

/-- After the rounds no sketch is brought. -/
theorem Ending.filterMap_sketch? (h : Ending question budget rounds result further) :
    further.filterMap Exchange.sketch? = [] := by
  cases h with
  | decided => rfl
  | answered => rfl
  | failed _ hrequest => obtain ⟨-, rfl⟩ | ⟨-, rfl⟩ := hrequest <;> rfl

/-- The sketches that were evaluated are those that were brought, in order. -/
theorem History.judged_sketches (h : History question rounds further asked judged)
    (hending : Ending question budget rounds result further) :
    judged.map Prod.fst = asked.filterMap Exchange.sketch? := by
  rw [h.judged_eq, h.asked_eq, List.filterMap_append, hending.filterMap_sketch?, List.append_nil,
    List.map_filterMap, List.filterMap_map]
  refine List.filterMap_congr fun r hr => ?_
  rw [Function.comp_apply, Round.sketch?_exchange (h.reading r hr)]

end

/-- **Checks come in pairs, are never nested and never repeated, and take the outcomes of a script
in order.**

Whatever is done with theories that share the script, in whatever order, as many scopes were opened
and closed as checks were made, none is open and never more than one was, and the checks took the
first outcomes of the script.  The next move takes as many as it makes checks, two for a decision,
which are those that decide.

In a run over the script, however it ends, two checks are made for each text of a request for a
sketch that can be read, and the sketches are decided by the outcomes in order, whatever they say.
Past the end of the script every outcome is unknown. -/
theorem probes_paired (script : List Outcome) :
    (∀ moves : List Move,
      let s := Shared.run ⟨Scripted.ofScript script, []⟩ moves
      let n := s.engine.log.checks
      s.engine.Paired script n ∧
      (∀ m, s.Can m → (s.step m).engine.Paired script (n + m.checks)) ∧
      ∀ atoms ∈ s.atoms, let t := Theory.mk s.engine atoms
        (∀ f, (t.assuming f).1 = answerAt script n) ∧
        ∀ i, (t.decide i).1 = .ofOutcomes (answerAt script n) (answerAt script (n + 1))) ∧
    ∀ (γ : Type) [Generator γ] (question : String) (budget : Nat) (generator : γ),
      let run := watched question budget generator (Scripted.ofScript script)
      let parsed := run.2.1.log.filterMap Exchange.sketch?
      let judged := run.2.2.log
      refine question budget generator (Scripted.ofScript script) =
        (run.1, run.2.1.state, run.2.2.state) ∧
      run.2.2.state.Paired script (2 * parsed.length) ∧
      judged.map Prod.fst = parsed ∧
      ∀ (j : Nat) p, judged[j]? = some p →
        p.2.decision = .ofOutcomes (answerAt script (2 * j)) (answerAt script (2 * j + 1)) := by
  constructor
  · intro moves s n
    obtain ⟨n', h⟩ := Shared.paired_run (s := ⟨Scripted.ofScript script, []⟩) moves
      (Scripted.paired_ofScript script)
    obtain rfl : n = n' := h.checks_eq
    refine ⟨h, fun m hm => Shared.paired_step hm h, ?_⟩
    intro atoms _ t
    exact ⟨fun f => (Theory.paired_assuming (t := t) f h).1,
      fun i => (Theory.paired_decide (t := t) i h).1⟩
  · intro γ _ question budget generator run parsed judged
    obtain ⟨rounds, further, hhistory, hending⟩ :=
      exists_history question budget generator (Scripted.ofScript script)
    have hsketches : judged.map Prod.fst = parsed := hhistory.judged_sketches hending
    have hreplayed : Replayed script run.2.2 :=
      Run.judge_finish (fun sketch _ hb => hb.judge sketch) (replayed_ofScript script)
    refine ⟨refine_eq_watched question budget generator _, ?_, hsketches, hreplayed.decision_eq⟩
    rw [← hsketches, List.length_map]
    exact hreplayed.paired

/-- Two theories that share a script, one of which has used it, and a run that finds no script. -/
theorem probes_paired_interrupted :
    let s := Shared.run ⟨Scripted.ofScript [.sat, .unsat, .sat], []⟩
      (Shared.twoTheories ++ [.assume 1 (.var 0)])
    let run := watched "Is it so?" 4 interrupted (Scripted.ofScript [])
    [("a", 1)] ∈ s.atoms ∧ ((Theory.mk s.engine [("a", 1)]).decide 1).1.verdict = .no ∧
    s.Can (.decide 0 1) ∧ (s.step (.decide 0 1)).engine.script = [] ∧
    run.2.2.state.log.checks = 4 ∧
    ∃ p, run.2.2.log[1]? = some p ∧ p.2.decision.reason = .indeterminate := by
  intro s run
  have hatoms : [("a", 1)] ∈ s.atoms := by decide
  have hcan : s.Can (.decide 0 1) := show 0 < s.atoms.length by decide
  obtain ⟨hmoves, -⟩ := probes_paired [.sat, .unsat, .sat]
  obtain ⟨-, hstep, hresult⟩ := hmoves (Shared.twoTheories ++ [.assume 1 (.var 0)])
  obtain ⟨-, hrun⟩ := probes_paired []
  obtain ⟨-, hpaired, hsketches, hdecision⟩ := hrun Replay "Is it so?" 4 interrupted
  have hparsed : run.2.1.log.filterMap Exchange.sketch? = [openSketch, openSketch] := by
    obtain ⟨e, reason, reason', outage, he, hlog⟩ := interruptedLog_eq
    replace hlog : run.2.1.log = _ := hlog
    simp [hlog, Exchange.sketch?, parse_openSketch, he, Except.toOption]
  have hlength : 1 < run.2.2.log.length := by
    rw [← List.length_map (f := Prod.fst), hsketches, hparsed]
    decide
  refine ⟨hatoms, ?_, hcan, (hstep (.decide 0 1) hcan).script_eq, ?_, run.2.2.log[1], ?_, ?_⟩
  · rw [(hresult _ hatoms).2 1]
    rfl
  · rw [hparsed] at hpaired
    exact hpaired.checks_eq
  · exact List.getElem?_eq_getElem hlength
  · rw [hdecision 1 _ (List.getElem?_eq_getElem hlength)]
    rfl

end Entail
