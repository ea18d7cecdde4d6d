/-
Entail/Proofs/Repetition.lean

When feedback says that a sketch came again.

Feedback on a sketch ends with the notice (`repeatedNotice`) exactly if the last sketch before it
that could be read has the same fingerprint (`Round.notices_response_iff`), and feedback on a text
that could not be read never does.  So the notice can be told from the logs of a run alone
(`notices_iff_last_sketch`): it is right where the text before the last one could be read.  Where it
could not, the notice speaks of the previous attempt but means an earlier one, as a run over
`interrupted` shows.
-/
import Entail.Proofs.Places
import Entail.Proofs.RoundTrip
import Entail.Proofs.Runs

namespace Entail

/-! ### The notice -/

/-- What feedback says at its end of a sketch that came again. -/
def repeatedNotice : String := " This is the same sketch as the previous attempt."

/-- The feedback ends with the notice. -/
def Notices (feedback : String) : Prop := repeatedNotice.toList <:+ feedback.toList

section

variable {feedback : String} (sketch : Sketch) (reason : Reason)

theorem undecidedFeedback_true :
    undecidedFeedback sketch reason true =
      undecidedFeedback sketch reason false ++ repeatedNotice := by
  unfold undecidedFeedback
  rw [if_pos rfl, if_neg Bool.false_ne_true, String.append_empty]
  rfl

theorem notices_undecidedFeedback_true : Notices (undecidedFeedback sketch reason true) := by
  rw [Notices, undecidedFeedback_true, String.toList_append]
  exact List.suffix_append _ _

/-- Feedback that ends with the notice has no other last characters. -/
theorem Notices.ending (h : Notices feedback) {ending : List Char}
    (hending : ending <:+ feedback.toList)
    (hlength : ending.length ≤ repeatedNotice.toList.length) : ending <:+ repeatedNotice.toList :=
  List.suffix_of_suffix_length_le hending h hlength

/-- The last word of feedback without the notice. -/
def Reason.lastWord : Reason → String
  | .forced => "rules."
  | .underdetermined => "false."
  | .inconsistent => "other."
  | .indeterminate => "result."

theorem lastWord_suffix :
    reason.lastWord.toList <:+ (undecidedFeedback sketch reason false).toList := by
  have hword : reason.lastWord.toList <:+ (". Refine the rules." ++ reason.hint).toList := by
    cases reason <;> decide
  unfold undecidedFeedback
  rw [if_neg Bool.false_ne_true, String.append_empty, String.append_assoc, String.toList_append]
  exact hword.trans (List.suffix_append _ _)

theorem not_notices_undecidedFeedback_false :
    ¬ Notices (undecidedFeedback sketch reason false) := by
  intro h
  have hending := h.ending (lastWord_suffix sketch reason)
  cases reason <;> exact absurd (hending (by decide)) (by decide)

theorem notices_undecidedFeedback_iff (again : Bool) :
    Notices (undecidedFeedback sketch reason again) ↔ again = true := by
  cases again with
  | false => simp only [not_notices_undecidedFeedback_false, Bool.false_eq_true]
  | true => simp only [notices_undecidedFeedback_true]

end

/-- A number ends with a digit. -/
theorem digit_suffix (n : Nat) :
    ∃ c : Char, c.isDigit = true ∧ [c] <:+ (toString n).toList := by
  have hdigits : (toString n).toList = Nat.toDigits 10 n := Nat.toList_repr
  refine ⟨(Nat.toDigits 10 n).getLast Nat.toDigits_ne_nil, ?_, ?_⟩
  · exact Nat.isDigit_of_mem_toDigits (by decide) (by decide) (List.getLast_mem _)
  · rw [hdigits]
    exact ⟨_, List.dropLast_append_getLast _⟩

theorem suffix_append (front text : String) : text.toList <:+ (front ++ text).toList := by
  rw [String.toList_append]
  exact List.suffix_append _ _

/-- A message with a place ends with the column. -/
theorem column_suffix {e : Json.ReadError} {place : Json.Place} (h : e.place = some place) :
    (toString place.column).toList <:+ e.message.toList := by
  unfold Json.ReadError.message
  rw [h]
  exact suffix_append _ _

/-- Feedback on a text that could not be read ends with a column, or says that the query is
empty. -/
theorem not_notices_malformedFeedback {text : String} {e : SketchError}
    (h : Sketch.parse text = .error e) : ¬ Notices (malformedFeedback e) := by
  intro hnotices
  have hmessage : e.message.toList <:+ (malformedFeedback e).toList := suffix_append _ _
  cases e with
  | emptyQuery =>
    have hlast : ['y'] <:+ (SketchError.message .emptyQuery).toList := by decide
    exact absurd (hnotices.ending (hlast.trans hmessage) (by decide)) (by decide)
  | malformed e =>
    obtain ⟨place, hplace⟩ := Sketch.parse_malformed_place h
    obtain ⟨c, hc, hlast⟩ := digit_suffix place.column
    have hcause : e.message.toList <:+ (SketchError.malformed e).message.toList :=
      suffix_append _ _
    have hending := hnotices.ending
      (((hlast.trans (column_suffix hplace)).trans hcause).trans hmessage)
      (Nat.le_of_ble_eq_true rfl)
    obtain ⟨front, hfront⟩ := hending
    have hnotice : repeatedNotice.toList =
        " This is the same sketch as the previous attempt".toList ++ ['.'] := rfl
    rw [hnotice] at hfront
    rw [List.singleton_inj.mp (List.append_inj_right' hfront rfl)] at hc
    exact absurd hc (by decide)

/-! ### Rounds -/

section

variable {question : String} {budget : Nat} {rounds : List Round} {further asked : List Exchange}
  {judged : List (Sketch × Evaluation)} {result : Except GeneratorError Answer}

/-- The response to a round ends with the notice if its sketch is the last one again. -/
theorem Round.notices_response_iff {r : Round}
    (hreading : Sketch.parse r.text = r.reading.map Prod.fst) (last : Option String) :
    Notices (r.response last) ↔ ∃ p, last = some p ∧ r.fingerprint = some p := by
  cases h : r.reading with
  | error e =>
    rw [h] at hreading
    have hresponse : r.response last = malformedFeedback e := by
      rw [Round.response, h]
    have hfingerprint : r.fingerprint = none := by
      rw [Round.fingerprint, Round.judgement, h]
      rfl
    rw [hresponse, hfingerprint]
    refine iff_of_false (not_notices_malformedFeedback hreading) ?_
    rintro ⟨p, -, hp⟩
    exact absurd hp.symm (Option.some_ne_none p)
  | ok p =>
    have hresponse : r.response last =
        undecidedFeedback p.1 p.2.decision.reason (last = some p.1.fingerprint) := by
      rw [Round.response, h]
    have hfingerprint : r.fingerprint = some p.1.fingerprint := by
      rw [Round.fingerprint, Round.judgement, h]
      rfl
    rw [hresponse, hfingerprint, notices_undecidedFeedback_iff, decide_eq_true_iff]
    constructor
    · intro hlast
      exact ⟨_, hlast, rfl⟩
    · rintro ⟨q, hlast, hq⟩
      rw [hlast, hq]

/-- The last fingerprint among the first rounds is that of a round after which no text could be
read. -/
theorem lastFingerprint_take_eq_some_iff {n : Nat} {p : String} :
    lastFingerprint (rounds.take n) = some p ↔
      ∃ i : Nat, i < n ∧ rounds[i]?.bind Round.fingerprint = some p ∧
        ∀ m : Nat, i < m → m < n → rounds[m]?.bind Round.fingerprint = none := by
  induction n with
  | zero =>
    refine iff_of_false (Option.some_ne_none p).symm ?_
    rintro ⟨i, hi, -⟩
    exact Nat.not_lt_zero i hi
  | succ n ih =>
    have hlast : lastFingerprint (rounds.take (n + 1)) =
        (rounds[n]?.bind Round.fingerprint).or (lastFingerprint (rounds.take n)) := by
      rw [List.take_add_one]
      cases rounds[n]? with
      | none => rw [Option.toList_none, List.append_nil, Option.bind_none, Option.none_or]
      | some r => exact lastFingerprint_concat (rounds.take n) r
    rw [hlast]
    cases hn : rounds[n]?.bind Round.fingerprint with
    | none =>
      -- The round does not count, so the last sketch is one before it.
      rw [Option.none_or, ih]
      constructor
      · rintro ⟨i, hi, hp, hbetween⟩
        refine ⟨i, Nat.lt_succ_of_lt hi, hp, fun m him hm => ?_⟩
        rcases Nat.lt_succ_iff_lt_or_eq.mp hm with hm | rfl
        · exact hbetween m him hm
        · exact hn
      · rintro ⟨i, hi, hp, hbetween⟩
        rcases Nat.lt_succ_iff_lt_or_eq.mp hi with hi | rfl
        · exact ⟨i, hi, hp, fun m him hm => hbetween m him (Nat.lt_succ_of_lt hm)⟩
        · rw [hn] at hp
          exact absurd hp.symm (Option.some_ne_none p)
    | some q =>
      -- The round itself is the last sketch.
      rw [Option.some_or]
      constructor
      · rintro hq
        exact ⟨n, Nat.lt_succ_self n, hn.trans hq,
          fun m hnm hm => absurd hnm (Nat.not_lt_of_ge (Nat.le_of_lt_succ hm))⟩
      · rintro ⟨i, hi, hp, hbetween⟩
        rcases Nat.lt_succ_iff_lt_or_eq.mp hi with hi | rfl
        · have hnone := hbetween n hi (Nat.lt_succ_self n)
          rw [hn] at hnone
          exact absurd hnone (Option.some_ne_none q)
        · exact hn.symm.trans hp

/-- The first exchanges are those of the rounds. -/
theorem History.getElem?_asked (h : History question rounds further asked judged) {i : Nat}
    (hi : i < rounds.length) : asked[i]? = some (rounds[i].exchange question) := by
  rw [h.asked_eq, List.getElem?_append_left (by rwa [List.length_map]), List.getElem?_map,
    List.getElem?_eq_getElem hi, Option.map_some]

/-- A request for a sketch comes with feedback on the rounds before it. -/
theorem History.request (h : History question rounds further asked judged)
    (hending : Ending question budget rounds result further) {k : Nat} {feedback : Option String}
    {reply : Except GeneratorError String}
    (hk : asked[k]? = some ⟨.sketch question feedback, reply⟩) :
    k ≤ rounds.length ∧ feedback = feedbackAfter (rounds.take k) := by
  by_cases hlt : k < rounds.length
  · -- one of the rounds
    rw [h.getElem?_asked hlt, Option.some_inj] at hk
    have hprefix : rounds.take k ++ [rounds[k]] <+: rounds := by
      rw [List.take_append_getElem hlt]
      exact List.take_prefix _ _
    obtain ⟨hrequest, -⟩ := Exchange.mk.inj hk
    rw [← (Request.sketch.inj hrequest).2]
    exact ⟨Nat.le_of_lt hlt, h.feedback _ _ hprefix⟩
  · -- the request at which the generator fails
    have hge : rounds.length ≤ k := Nat.le_of_not_lt hlt
    rw [h.asked_eq, List.getElem?_append_right (by rwa [List.length_map]),
      List.length_map] at hk
    cases hending with
    | decided => cases hk
    | answered =>
      rcases hd : k - rounds.length with - | d <;> rw [hd] at hk <;> cases hk
    | failed _ hrequest =>
      rcases hd : k - rounds.length with - | d <;> rw [hd] at hk
      · have hlength : k = rounds.length := Nat.le_antisymm (Nat.le_of_sub_eq_zero hd) hge
        rcases hrequest with ⟨-, rfl⟩ | ⟨-, rfl⟩
        · cases hk
          rw [hlength, List.take_length]
          exact ⟨Nat.le_refl _, rfl⟩
        · cases hk
      · cases hk

end

/-! ### Runs -/

/-- The fingerprint of the sketch that an exchange brought, if its text could be read. -/
def Exchange.fingerprint (e : Exchange) : Option String :=
  (e.reply.toOption.bind fun text => (Sketch.parse text).toOption).map Sketch.fingerprint

/-- The fingerprint that the exchange at a position brought. -/
def fingerprintAt (asked : List Exchange) (i : Nat) : Option String :=
  asked[i]?.bind Exchange.fingerprint

theorem Exchange.fingerprint_text (request : Request) (text : String) :
    Exchange.fingerprint ⟨request, .ok text⟩ =
      (Sketch.parse text).toOption.map Sketch.fingerprint := by
  have htext : (Except.ok text : Except GeneratorError String).toOption = some text := rfl
  rw [Exchange.fingerprint, htext, Option.bind_some]

theorem Round.fingerprint_exchange {question : String} {r : Round}
    (hreading : Sketch.parse r.text = r.reading.map Prod.fst) :
    (r.exchange question).fingerprint = r.fingerprint := by
  rw [Round.exchange, Exchange.fingerprint_text, hreading, Round.fingerprint, Round.judgement]
  cases r.reading with
  | error e => rfl
  | ok p => rfl

theorem History.fingerprintAt_eq {question : String} {rounds : List Round}
    {further asked : List Exchange} {judged : List (Sketch × Evaluation)}
    (h : History question rounds further asked judged) {i : Nat} (hi : i < rounds.length) :
    fingerprintAt asked i = rounds[i]?.bind Round.fingerprint := by
  rw [fingerprintAt, h.getElem?_asked hi, List.getElem?_eq_getElem hi, Option.bind_some,
    Option.bind_some, Round.fingerprint_exchange (h.reading _ (List.getElem_mem hi))]

section

variable {question : String} {rounds : List Round} {further asked : List Exchange}
  {judged : List (Sketch × Evaluation)} {k : Nat}
  (h : History question rounds further asked judged) (hk : k ≤ rounds.length)

include h hk

/-- The exchanges of the first rounds are requests for a sketch, answered by texts. -/
theorem History.answered :
    ∀ i < k, ∃ before text, asked[i]? = some ⟨.sketch question before, .ok text⟩ := by
  intro i hi
  exact ⟨_, _, h.getElem?_asked (Nat.lt_of_lt_of_le hi hk)⟩

/-- The feedback on the first rounds ends with the notice if the last of them brought the last
sketch before it again. -/
theorem History.notices_feedbackAfter_iff :
    (∃ text ∈ feedbackAfter (rounds.take k), Notices text) ↔
      ∃ i j p, i < j ∧ k = j + 1 ∧ fingerprintAt asked i = some p ∧
        fingerprintAt asked j = some p ∧
        ∀ m, i < m → m < j → fingerprintAt asked m = none := by
  cases k with
  | zero =>
    -- There is no feedback on nothing.
    refine iff_of_false ?_ ?_
    · rintro ⟨text, htext, -⟩
      exact absurd htext (Option.not_mem_none text)
    · rintro ⟨i, j, p, -, hj, -⟩
      exact absurd hj (Nat.succ_ne_zero j).symm
  | succ n =>
    have hfingerprint (i : Nat) (hi : i ≤ n) :
        fingerprintAt asked i = rounds[i]?.bind Round.fingerprint :=
      h.fingerprintAt_eq (Nat.lt_of_le_of_lt hi hk)
    have hround : rounds[n]?.bind Round.fingerprint = rounds[n].fingerprint := by
      rw [List.getElem?_eq_getElem hk, Option.bind_some]
    have hfeedback : feedbackAfter (rounds.take (n + 1)) =
        some (rounds[n].response (lastFingerprint (rounds.take n))) := by
      rw [← List.take_append_getElem hk, feedbackAfter_concat]
    rw [hfeedback]
    simp only [Option.mem_some_iff, exists_eq_left',
      Round.notices_response_iff (h.reading _ (List.getElem_mem hk)),
      lastFingerprint_take_eq_some_iff]
    constructor
    · rintro ⟨p, ⟨i, hi, hp, hbetween⟩, hn⟩
      refine ⟨i, n, p, hi, rfl, ?_, ?_, fun m him hm => ?_⟩
      · rw [hfingerprint i (Nat.le_of_lt hi), hp]
      · rw [hfingerprint n (Nat.le_refl n), hround, hn]
      · rw [hfingerprint m (Nat.le_of_lt hm), hbetween m him hm]
    · rintro ⟨i, j, p, hi, hj, hp, hn, hbetween⟩
      obtain rfl : n = j := Nat.succ_inj.mp hj
      refine ⟨p, ⟨i, hi, ?_, fun m him hm => ?_⟩, ?_⟩
      · rw [← hfingerprint i (Nat.le_of_lt hi), hp]
      · rw [← hfingerprint m (Nat.le_of_lt hm), hbetween m him hm]
      · rw [← hround, ← hfingerprint n (Nat.le_refl n), hn]

end

/-- **When feedback says that a sketch came again.**  A request for a sketch follows requests that
were answered by texts.  Its feedback ends with the notice exactly if the text before it could be
read and has the fingerprint of the last text before that one that could be read.  So where the text
before that one could be read, the notice is given exactly if the two have one fingerprint. -/
theorem notices_iff_last_sketch {γ β : Type} [Generator γ] [Judge β] (question : String)
    (budget : Nat) (generator : γ) (judge : β) :
    let run := watched question budget generator judge
    let asked := run.2.1.log
    refine question budget generator judge = (run.1, run.2.1.state, run.2.2.state) ∧
    ∀ k feedback reply, asked[k]? = some ⟨.sketch question feedback, reply⟩ →
      (∀ i < k, ∃ before text, asked[i]? = some ⟨.sketch question before, .ok text⟩) ∧
      ((∃ text ∈ feedback, Notices text) ↔
        ∃ i j p, i < j ∧ k = j + 1 ∧ fingerprintAt asked i = some p ∧
          fingerprintAt asked j = some p ∧
          ∀ m, i < m → m < j → fingerprintAt asked m = none) ∧
      ∀ i, k = i + 2 → fingerprintAt asked i ≠ none →
        ((∃ text ∈ feedback, Notices text) ↔
          fingerprintAt asked i = fingerprintAt asked (i + 1)) := by
  intro run asked
  refine ⟨refine_eq_watched question budget generator judge, ?_⟩
  obtain ⟨rounds, further, hhistory, hending⟩ := exists_history question budget generator judge
  intro k feedback reply hk
  obtain ⟨hle, rfl⟩ := hhistory.request hending hk
  have hnotices := hhistory.notices_feedbackAfter_iff hle
  refine ⟨hhistory.answered hle, hnotices, ?_⟩
  intro i hi hread
  rw [hnotices]
  constructor
  · rintro ⟨i', j, p, hlt, hj, hi', hp, hbetween⟩
    obtain rfl : j = i + 1 := by omega
    rcases Nat.lt_succ_iff_lt_or_eq.mp hlt with hlt | rfl
    · exact absurd (hbetween i hlt (Nat.lt_succ_self i)) hread
    · rw [hi', hp]
  · intro heq
    obtain ⟨p, hp⟩ := Option.ne_none_iff_exists'.mp hread
    exact ⟨i, i + 1, p, Nat.lt_succ_self i, hi, hp, heq ▸ hp,
      fun m him hm => absurd him (Nat.not_lt_of_ge (Nat.le_of_lt_succ hm))⟩

/-! ### A notice after a text that could not be read -/

/-- The run is at a request for a sketch, with these replies to come and these exchanges made, and
its judge finds nothing out. -/
structure Run.Waiting (r : Recording Replay Scripted) (feedback : Option String)
    (replies : List Reply) (asked : List Exchange) (last : Option String) : Prop where
  phase_eq : r.phase = .propose feedback
  length_attempts : r.attempts.length = asked.length
  replies_eq : r.generator.state.replies = replies
  log_eq : r.generator.log = asked
  last_eq : r.last = last
  script_eq : r.judge.state.script = []

/-- A sketch that says nothing of its query. -/
def openSketch : Sketch := { query := "q" }

theorem parse_openSketch : Sketch.parse openSketch.json = .ok openSketch :=
  Sketch.parse_json (by decide)

namespace Run.Waiting

variable {r : Recording Replay Scripted} (question : String) {budget : Nat}
  {feedback last : Option String} {replies : List Reply} {asked : List Exchange}

/-- The generator gives its next reply, and the exchange is written down. -/
theorem generator_eq {reply : Reply} (h : Waiting r feedback (reply :: replies) asked last) :
    ∃ generator : Recorded Replay Exchange,
      Generator.sketch question feedback r.generator = (reply.result, generator) ∧
      generator.state.replies = replies ∧
      generator.log = asked ++ [⟨.sketch question feedback, reply.result⟩] := by
  obtain ⟨-, -, hreplies, rfl, -, -⟩ := h
  obtain ⟨⟨⟨_, fallback, seen, fallbacks⟩, log⟩, judge, phase, attempts, last⟩ := r
  obtain rfl : _ = reply :: replies := hreplies
  exact ⟨_, rfl, rfl, rfl⟩

theorem unreadable {text : String} {e : SketchError}
    (h : Waiting r feedback (.text text :: replies) asked last) (hb : asked.length < budget)
    (he : Sketch.parse text = .error e) :
    ∃ r' : Recording Replay Scripted, r.finish question budget = r'.finish question budget ∧
      Waiting r' (some (malformedFeedback e)) replies
        (asked ++ [⟨.sketch question feedback, .ok text⟩]) last := by
  obtain ⟨generator, hreply, hreplies, hlog⟩ := h.generator_eq question
  have hstep := (Steps.proposed h.phase_eq (h.length_attempts ▸ hb) hreply rfl).step_eq
  rw [read_of_error he] at hstep
  refine ⟨_, finish_of_again hstep, rfl, ?_, hreplies, hlog, h.last_eq, h.script_eq⟩
  rw [record, List.length_append, List.length_append, h.length_attempts]
  rfl

/-- A script without outcomes decides nothing. -/
theorem judge_openSketch {judge : Recorded Scripted (Sketch × Evaluation)}
    (h : judge.state.script = []) :
    ∃ evaluation judge', Judge.judge openSketch judge = (evaluation, judge') ∧
      ¬ evaluation.decision.decided = true ∧ judge'.state.script = [] := by
  obtain ⟨⟨_, log⟩, judged⟩ := judge
  obtain rfl : _ = [] := h
  exact ⟨_, _, rfl, Bool.false_ne_true, rfl⟩

theorem openSketch (h : Waiting r feedback (.text openSketch.json :: replies) asked last)
    (hb : asked.length < budget) :
    ∃ (r' : Recording Replay Scripted) (reason : Reason),
      r.finish question budget = r'.finish question budget ∧
      Waiting r' (some (undecidedFeedback Entail.openSketch reason
          (last = some Entail.openSketch.fingerprint))) replies
        (asked ++ [⟨.sketch question feedback, .ok Entail.openSketch.json⟩])
        (some Entail.openSketch.fingerprint) := by
  obtain ⟨generator, hreply, hreplies, hlog⟩ := h.generator_eq question
  have hread := (Steps.proposed h.phase_eq (h.length_attempts ▸ hb) hreply rfl).step_eq
  rw [read_of_ok parse_openSketch] at hread
  obtain ⟨evaluation, judge, hjudge, hopen, hscript⟩ := judge_openSketch h.script_eq
  have hweigh : step question budget { r with generator, phase := .weigh Entail.openSketch } =
      .again ({ r with generator, judge, phase := .weigh Entail.openSketch }.settle
        Entail.openSketch evaluation.decision) :=
    Steps.step_eq (.weighed rfl hjudge rfl)
  rw [settle_of_undecided hopen] at hweigh
  refine ⟨_, evaluation.decision.reason, (finish_of_again hread).trans (finish_of_again hweigh),
    ?_, ?_, hreplies, hlog, rfl, hscript⟩
  · rw [← h.last_eq]
  · show (record _ _ _).length = _
    rw [record, List.length_append, List.length_append, ← h.length_attempts]
    rfl

/-- The log of a run whose generator has nothing more to say. -/
theorem exhausted (h : Waiting r feedback [] asked last) (hb : asked.length < budget) :
    ∃ e, (r.finish question budget).2.1.log =
      asked ++ [⟨.sketch question feedback, .error e⟩] := by
  obtain ⟨hphase, hlength, hreplies, rfl, -, -⟩ := h
  obtain ⟨⟨⟨_, fallback, seen, fallbacks⟩, log⟩, judge, phase, attempts, last⟩ := r
  obtain rfl : _ = [] := hreplies
  have hstep : step question budget _ = _ := (Steps.refused hphase (hlength ▸ hb) rfl).step_eq
  rw [finish_of_ended hstep]
  exact ⟨_, rfl⟩

end Run.Waiting

/-- A text that is no sketch, between two of the same sketch. -/
def interrupted : Replay :=
  Replay.ofTexts [openSketch.json, "no sketch", openSketch.json] "unknown"

/-- What a run over these replies asks for. -/
def interruptedLog : List Exchange :=
  (watched "Is it so?" 4 interrupted (Scripted.ofScript [])).2.1.log

theorem interruptedLog_eq :
    ∃ (e : SketchError) (reason reason' : Reason) (outage : GeneratorError),
      Sketch.parse "no sketch" = .error e ∧
      interruptedLog =
        [⟨.sketch "Is it so?" none, .ok openSketch.json⟩,
          ⟨.sketch "Is it so?" (some (undecidedFeedback openSketch reason false)),
            .ok "no sketch"⟩,
          ⟨.sketch "Is it so?" (some (malformedFeedback e)), .ok openSketch.json⟩,
          ⟨.sketch "Is it so?" (some (undecidedFeedback openSketch reason' true)),
            .error outage⟩] := by
  obtain ⟨e, he⟩ : ∃ e, Sketch.parse "no sketch" = .error e := ⟨_, rfl⟩
  have hstart : Run.Waiting
      { generator := ⟨interrupted, []⟩, judge := ⟨Scripted.ofScript [], []⟩ } none
      [.text openSketch.json, .text "no sketch", .text openSketch.json] [] none :=
    ⟨rfl, rfl, rfl, rfl, rfl, rfl⟩
  have hlt {n : Nat} (h : Nat.ble n 3 = true) : n < 4 := Nat.lt_succ_of_le (Nat.le_of_ble_eq_true h)
  obtain ⟨r₁, reason, h₁, hfirst⟩ := hstart.openSketch "Is it so?" (hlt rfl)
  obtain ⟨r₂, h₂, hsecond⟩ := hfirst.unreadable "Is it so?" (hlt rfl) he
  obtain ⟨r₃, reason', h₃, hthird⟩ := hsecond.openSketch "Is it so?" (hlt rfl)
  obtain ⟨outage, hlog⟩ := hthird.exhausted "Is it so?" (hlt rfl)
  refine ⟨e, reason, reason', outage, he, ?_⟩
  rw [decide_eq_true rfl, ← h₃, ← h₂, ← h₁] at hlog
  rw [decide_eq_false (Option.some_ne_none _).symm] at hlog
  exact hlog

/-- The run's last request comes with the notice. -/
theorem request_interruptedLog :
    ∃ reason outage, interruptedLog[3]? = some ⟨.sketch "Is it so?"
      (some (undecidedFeedback openSketch reason true)), .error outage⟩ := by
  obtain ⟨e, reason, reason', outage, -, hlog⟩ := interruptedLog_eq
  rw [hlog]
  exact ⟨reason', outage, rfl⟩

theorem fingerprintAt_interruptedLog :
    fingerprintAt interruptedLog 0 = some openSketch.fingerprint ∧
      fingerprintAt interruptedLog 1 = none ∧
      fingerprintAt interruptedLog 2 = some openSketch.fingerprint := by
  obtain ⟨e, reason, reason', outage, he, hlog⟩ := interruptedLog_eq
  simp only [hlog, fingerprintAt, List.getElem?_cons_zero, List.getElem?_cons_succ,
    Option.bind_some, Exchange.fingerprint_text, parse_openSketch, he, Except.toOption,
    Option.map_some, Option.map_none, and_self]

/-- The notice is given since the last sketch that could be read was the same. -/
theorem notices_interruptedLog :
    ∃ feedback reply,
      interruptedLog[3]? = some ⟨.sketch "Is it so?" (some feedback), reply⟩ ∧
        Notices feedback := by
  obtain ⟨reason, outage, hask⟩ := request_interruptedLog
  obtain ⟨hfirst, hsecond, hthird⟩ := fingerprintAt_interruptedLog
  obtain ⟨-, hrun⟩ := notices_iff_last_sketch "Is it so?" 4 interrupted (Scripted.ofScript [])
  obtain ⟨-, hnotices, -⟩ := hrun 3 _ _ hask
  obtain ⟨text, htext, hnotice⟩ := hnotices.mpr ⟨0, 2, _, by decide, rfl, hfirst, hthird,
    fun m hm hm' => (by omega : m = 1) ▸ hsecond⟩
  obtain rfl := Option.some_inj.mp htext
  exact ⟨_, _, hask, hnotice⟩

/-- It is not so that feedback ends with the notice only if the two texts before it could be read
and are of one fingerprint. -/
theorem not_notices_iff_previous :
    ¬ ∀ k feedback reply, interruptedLog[k]? = some ⟨.sketch "Is it so?" feedback, reply⟩ →
      ((∃ text ∈ feedback, Notices text) ↔
        2 ≤ k ∧ ∃ p, fingerprintAt interruptedLog (k - 2) = some p ∧
          fingerprintAt interruptedLog (k - 1) = some p) := by
  intro hclaim
  obtain ⟨reason, outage, hask⟩ := request_interruptedLog
  obtain ⟨-, p, hp, -⟩ := (hclaim 3 _ _ hask).mp
    ⟨_, rfl, notices_undecidedFeedback_true openSketch reason⟩
  rw [fingerprintAt_interruptedLog.2.1] at hp
  exact absurd hp.symm (Option.some_ne_none p)

end Entail
