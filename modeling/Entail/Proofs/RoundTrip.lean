/-
Entail/Proofs/RoundTrip.lean

Sketches that are written read back as they are.

An entry is read from its members in any order (`Entry.ofJson_of_perm`), and a sketch from its three
fields in any order (`Sketch.ofMembers?_of_perm`), so both the documents in the order of the fields
and those with sorted keys give back what was written.  Together with the printers, whose texts are
all in the grammar, every form of a sketch that is printed is read as the sketch.
-/
import Mathlib.Data.List.Perm.Basic
import Mathlib.Data.List.Nodup
import Entail.CommandLine.Run
import Entail.Proofs.Acceptance
import Entail.Proofs.Runs

namespace Entail

open Json (lastOf merged mergedInto)

/-! ### The order of members -/

namespace Json

/-- With keys that differ, looking a key up is finding its member. -/
theorem lookup_eq_some_iff_mem {α : Type} {ms : List (String × α)} (h : (ms.map (·.1)).Nodup)
    {key : String} {a : α} : ms.lookup key = some a ↔ (key, a) ∈ ms := by
  induction ms with
  | nil => simp
  | cons m ms ih =>
    obtain ⟨k, b⟩ := m
    rw [List.map_cons, List.nodup_cons] at h
    rw [lookup_cons_eq_ite, List.mem_cons, Prod.mk.injEq]
    by_cases hk : key = k
    · subst hk
      have hnot : (key, a) ∉ ms := fun hm => h.1 (List.mem_map.mpr ⟨_, hm, rfl⟩)
      simp [hnot, eq_comm]
    · simp [hk, ih h.2]

/-- The order of members does not matter, if their keys differ. -/
theorem lookup_of_perm {α : Type} {ms ms' : List (String × α)} (hp : ms'.Perm ms)
    (h : (ms.map (·.1)).Nodup) (key : String) : ms'.lookup key = ms.lookup key := by
  have h' : (ms'.map (·.1)).Nodup := (hp.map _).nodup_iff.mpr h
  refine Option.ext fun a => ?_
  rw [lookup_eq_some_iff_mem h', lookup_eq_some_iff_mem h, hp.mem_iff]

theorem lastOf_of_perm {ms ms' : List (String × Json)} (hp : ms'.Perm ms)
    (h : (ms.map (·.1)).Nodup) (key : String) : lastOf ms' key = ms.lookup key :=
  lookup_of_perm (ms'.reverse_perm.trans hp) h key

theorem insertMember_of_lt {k k' : String} (h : k < k') (v v' : Json)
    (ms : List (String × Json)) :
    insertMember (k, v) ((k', v') :: ms) = (k, v) :: (k', v') :: ms :=
  if_pos h

theorem insertMember_of_not_lt {k k' : String} (h : ¬ k < k') (v v' : Json)
    (ms : List (String × Json)) :
    insertMember (k, v) ((k', v') :: ms) = (k', v') :: insertMember (k, v) ms :=
  if_neg h

theorem insertMember_perm (m : String × Json) (ms : List (String × Json)) :
    (insertMember m ms).Perm (m :: ms) := by
  induction ms with
  | nil => exact .refl _
  | cons n ms ih =>
    by_cases h : m.1 < n.1
    · rw [insertMember_of_lt h]
    · rw [insertMember_of_not_lt h]
      exact (ih.cons n).trans (.swap m n ms)

/-- Sorting members reorders them, each with its value sorted. -/
theorem sortedMembers_perm (ms : List (String × Json)) :
    (sortedMembers ms).Perm (ms.map fun m => (m.1, m.2.sorted)) := by
  induction ms with
  | nil => exact .refl _
  | cons m ms ih =>
    obtain ⟨k, v⟩ := m
    exact (insertMember_perm _ _).trans (ih.cons _)

theorem sortedItems_eq_map (vs : List Json) : sortedItems vs = vs.map sorted := by
  induction vs with
  | nil => rfl
  | cons v vs ih => simp only [sortedItems, ih, List.map_cons]

/-- Sorting changes nothing about what fits. -/
theorem Fits.sorted {depth : Nat} {j : Json} (h : Fits depth j) : Fits depth j.sorted := by
  induction depth generalizing j with
  | zero =>
    cases j with
    | list vs => exact h.elim
    | object ms => exact h.elim
    | _ => exact h
  | succ depth ih =>
    cases j with
    | list vs =>
      show ∀ v ∈ sortedItems vs, Fits depth v
      rw [sortedItems_eq_map]
      intro v hv
      obtain ⟨w, hw, rfl⟩ := List.mem_map.mp hv
      exact ih (h w hw)
    | object ms =>
      show ∀ m ∈ sortedMembers ms, Fits depth m.2
      intro m hm
      obtain ⟨n, hn, rfl⟩ := List.mem_map.mp ((sortedMembers_perm ms).mem_iff.mp hm)
      exact ih (h n hn)
    | _ => exact h

theorem keys_optional_sublist (k : String) (v : Option Json) :
    ((optional k v).map (·.1)).Sublist [k] := by
  cases v with
  | none => exact List.nil_sublist _
  | some v => exact .refl _

theorem lookup_optional (k : String) (v : Option Json) (key : String) :
    (optional k v).lookup key = if key = k then v else none := by
  cases v with
  | none => simp [optional]
  | some v => rw [optional, lookup_cons_eq_ite, List.lookup_nil]

theorem map_optional (k : String) (v : Option Json) (f : Json → Json) :
    ((optional k v).map fun m => (m.1, f m.2)) = optional k (v.map f) := by
  cases v <;> rfl

theorem forall_mem_optional {k : String} {v : Option Json} {p : Json → Prop} :
    (∀ m ∈ optional k v, p m.2) ↔ ∀ w, v = some w → p w := by
  cases v <;> simp [optional]

end Json

/-! ### Entries -/

theorem Kind.ofJson_toJson (k : Kind) : ofJson (merged k.toJson) = k := by
  cases k <;> rfl

theorem Premises.ofJson?_toJson (p : Premises) : ofJson? (merged p.toJson) = some p := by
  rw [ofJson?_merged]
  cases p with
  | one name => rfl
  | many names =>
    show ((names.map Json.text).mapM textOf?).map Premises.many = some (.many names)
    rw [mapM_textOf?_map]
    rfl

theorem Premises.sorted_toJson (p : Premises) : p.toJson.sorted = p.toJson := by
  cases p with
  | one name => rfl
  | many names =>
    show Json.list (Json.sortedItems (names.map Json.text)) = .list (names.map Json.text)
    rw [Json.sortedItems_eq_map, List.map_map]
    rfl

namespace Entry

/-- The members of the document of an entry. -/
def members (e : Entry) : List (String × Json) :=
  [("kind", e.kind.toJson)]
    ++ Json.optional "subject" (e.subject.map .text)
    ++ Json.optional "object" (e.object.map .text)
    ++ Json.optional "if" (e.premises.map Premises.toJson)
    ++ Json.optional "then" (e.conclusion.map .text)
    ++ Json.optional "value" (e.value.map .bool)

/-- The members of an entry stand under different keys. -/
theorem members_nodup (e : Entry) : (e.members.map (·.1)).Nodup := by
  have hsub : (e.members.map (·.1)).Sublist fieldNames := by
    simp only [members, List.map_append]
    exact (((((List.Sublist.refl ["kind"]).append (Json.keys_optional_sublist _ _)).append
      (Json.keys_optional_sublist _ _)).append (Json.keys_optional_sublist _ _)).append
      (Json.keys_optional_sublist _ _)).append (Json.keys_optional_sublist _ _)
  exact hsub.nodup (by decide)

/-- An entry is read from its members in any order. -/
theorem ofJson_of_perm {e : Entry} {ms : List (String × Json)} (h : ms.Perm e.members) :
    ofJson (merged (.object ms)) = e := by
  have hlookup (key : String) : (mergedInto [] ms).lookup key =
      (e.members.lookup key).map merged := by
    rw [lookup_mergedInto_nil, Json.lastOf_of_perm h e.members_nodup]
  show ofMembers (mergedInto [] ms) = e
  rw [ofMembers]
  simp only [hlookup]
  obtain ⟨kind, subject, object, premises, conclusion, value⟩ := e
  -- Each key finds its own member, if that is there.
  simp only [members, List.lookup_append, Json.lookup_optional, Json.lookup_cons_eq_ite,
    String.reduceEq, if_true, if_false, List.lookup_nil, Option.none_or, Option.or_none,
    Option.map_some, Option.getD_some, Entry.mk.injEq]
  refine ⟨Kind.ofJson_toJson kind, ?_, ?_, ?_, ?_, ?_⟩
  · cases subject <;> rfl
  · cases object <;> rfl
  · cases premises with
    | none => rfl
    | some p => exact Premises.ofJson?_toJson p
  · cases conclusion <;> rfl
  · cases value <;> rfl

/-- The values of an entry's members have no members to sort. -/
theorem map_sorted_members (e : Entry) :
    (e.members.map fun m => (m.1, m.2.sorted)) = e.members := by
  have hkind : e.kind.toJson.sorted = e.kind.toJson := rfl
  simp only [members, List.map_append, Json.map_optional, Option.map_map, Function.comp_def,
    Premises.sorted_toJson, Json.sorted, List.map_cons, List.map_nil, hkind]

/-- An entry is read from its document, whether or not that is sorted. -/
theorem ofJson_toJson (e : Entry) : ofJson (merged e.toJson) = e :=
  ofJson_of_perm (.refl _)

theorem ofJson_sorted_toJson (e : Entry) : ofJson (merged e.toJson.sorted) = e := by
  have hperm := Json.sortedMembers_perm e.members
  rw [e.map_sorted_members] at hperm
  exact ofJson_of_perm hperm

theorem fits_toJson (e : Entry) (depth : Nat) : Json.Fits (depth + 2) e.toJson := by
  show ∀ m ∈ e.members, Json.Fits (depth + 1) m.2
  simp only [members, List.forall_mem_append, List.forall_mem_singleton, Json.forall_mem_optional,
    Option.map_eq_some_iff, forall_exists_index, and_imp, forall_apply_eq_imp_iff₂]
  refine ⟨⟨⟨⟨⟨trivial, fun _ _ => trivial⟩, fun _ _ => trivial⟩, fun p _ => ?_⟩,
    fun _ _ => trivial⟩, fun _ _ => trivial⟩
  -- Only a list of premises takes a bracket of its own.
  cases p with
  | one name => trivial
  | many names => exact List.forall_mem_map.mpr fun _ _ => by cases depth <;> trivial

end Entry

/-! ### Sketches -/

namespace Sketch

/-- The members of the document of a sketch, with its entries written in some way. -/
def membersWith (write : Entry → Json) (s : Sketch) : List (String × Json) :=
  [("vars", .texts s.declared), ("rules", .list (s.entries.map write)), ("query", .text s.query)]

theorem sorted_toJson (s : Sketch) :
    ∃ ms, s.toJson.sorted = .object ms ∧ ms.Perm (s.membersWith fun e => e.toJson.sorted) := by
  refine ⟨_, rfl, (Json.sortedMembers_perm _).trans ?_⟩
  have hnames : (Json.texts s.declared).sorted = Json.texts s.declared :=
    Premises.sorted_toJson (.many s.declared)
  have hentries : (Json.list (s.entries.map Entry.toJson)).sorted =
      .list (s.entries.map fun e => e.toJson.sorted) := by
    show Json.list (Json.sortedItems (s.entries.map Entry.toJson)) = _
    rw [Json.sortedItems_eq_map, List.map_map]
    rfl
  simp only [List.map_cons, List.map_nil, hnames, hentries]
  exact .refl _

/-- A sketch is read from its members in any order. -/
theorem ofMembers?_of_perm {write : Entry → Json}
    (hwrite : ∀ e, Entry.ofJson (merged (write e)) = e) {s : Sketch} {ms : List (String × Json)}
    (h : ms.Perm (s.membersWith write)) : Single ms ∧ ofMembers? ms = some s := by
  have hnodup : ((s.membersWith write).map (·.1)).Nodup := by
    show ["vars", "rules", "query"].Nodup
    decide
  have hlookup := Json.lookup_of_perm h hnodup
  refine ⟨fun key _ => ?_, ofMembers?_eq_some_iff.mpr ⟨.inl ?_, ⟨s.entries.map write, ?_, ?_⟩, ?_⟩⟩
  · exact List.nodup_iff_count_le_one.mp ((h.map _).nodup_iff.mpr hnodup) key
  · rw [hlookup]; rfl
  · rw [hlookup]; rfl
  · rw [List.map_map]
    simp [Function.comp_def, hwrite]
  · rw [hlookup]; rfl

theorem fits_toJson (s : Sketch) : Json.Fits Json.depthLimit s.toJson := by
  show ∀ m ∈ s.membersWith Entry.toJson, Json.Fits 126 m.2
  simp only [membersWith, List.forall_mem_cons, List.not_mem_nil, false_implies, implies_true,
    and_true]
  refine ⟨?_, ?_, trivial⟩
  · exact List.forall_mem_map.mpr fun name _ => trivial
  · exact List.forall_mem_map.mpr fun e _ => e.fits_toJson 123

/-- A document that gives the members of a sketch, in any order, is read as the sketch. -/
theorem parse_of_perm {write : Entry → Json} (hwrite : ∀ e, Entry.ofJson (merged (write e)) = e)
    {s : Sketch} {ms : List (String × Json)} (hms : ms.Perm (s.membersWith write)) {text : String}
    (h : Json.Document text (.object ms)) (hquery : Text.isBlankText s.query = false) :
    parse text = .ok s := by
  obtain ⟨hsingle, hmembers⟩ := ofMembers?_of_perm hwrite hms
  exact (parse_object_eq_ok_iff h hsingle).mpr ⟨hmembers, hquery⟩

section

variable {s : Sketch} (hquery : Text.isBlankText s.query = false)

include hquery

/-- The form without blanks is read back. -/
theorem parse_json : parse s.json = .ok s :=
  parse_of_perm Entry.ofJson_toJson (.refl _) (Json.document_compactText s.fits_toJson) hquery

/-- The form with one item a line is read back, from any level of indentation on. -/
theorem parse_prettyAt (level : Nat) : parse (String.ofList (s.toJson.prettyAt level)) = .ok s :=
  parse_of_perm Entry.ofJson_toJson (.refl _) (Json.document_prettyAt s.fits_toJson level) hquery

/-- The form with sorted keys is read back, from any level of indentation on. -/
theorem parse_sorted_prettyAt (level : Nat) :
    parse (String.ofList (s.toJson.sorted.prettyAt level)) = .ok s := by
  obtain ⟨ms, hsorted, hms⟩ := s.sorted_toJson
  have h := Json.document_prettyAt s.fits_toJson.sorted level
  rw [hsorted] at h ⊢
  exact parse_of_perm Entry.ofJson_sorted_toJson hms h hquery

end

/-- The document of a sketch determines it, whatever its query. -/
theorem json_injective : Function.Injective json := by
  intro s s' h
  have hread (s : Sketch) : (reader.run s.json).toOption = some s := by
    obtain ⟨hsingle, hmembers⟩ := ofMembers?_of_perm Entry.ofJson_toJson (.refl _) (s := s)
    have hrun := run_document (Json.document_compactText s.fits_toJson)
    exact hrun.trans ((ofDocument?_object hsingle).trans hmembers)
  exact Option.some.inj ((hread s).symm.trans (h ▸ hread s'))

/-- A text is a sketch only if the query of the sketch is not blank. -/
theorem isBlankText_query_of_parse {text : String} {s : Sketch} (h : parse text = .ok s) :
    Text.isBlankText s.query = false := by
  have hsome : (parse text).toOption = some s := by rw [h]; rfl
  rw [parse_toOption, Option.filter_eq_some_iff, Bool.not_eq_true'] at hsome
  exact hsome.2

end Sketch

/-! ### Where sketches are printed -/

namespace CommandLine

/-- An answer for people shows the sketch on lines of its own. -/
theorem answerText_eq {a : Answer} {s : Sketch} (h : a.sketch = some s) :
    ∃ before after,
      answerText a = before ++ "Sketch:\n" ++ s.toJson.prettyText ++ "\n" ++ after := by
  refine ⟨"Answer: " ++ a.conclusion.text ++ "\n" ++
      (if a.decided then "" else "(generator fallback: no sketch was decided)\n"),
    "Iterations: " ++ toString a.iterations ++ "\n", ?_⟩
  simp only [answerText, h, String.append_assoc]

/-- The last of several members is written between the others and the closing brace. -/
theorem prettyMembers_concat (level : Nat) (ms : List (String × Json)) (k : String) (v : Json) :
    ∃ before, Json.prettyMembers level (ms ++ [(k, v)]) =
      before ++ (Json.quoted k.toList ++ ':' :: ' ' :: Json.prettyAt (level + 1) v ++
        (Json.newline level ++ ['\x7d'])) := by
  induction ms with
  | nil => exact ⟨',' :: Json.newline (level + 1), by simp [Json.prettyMembers]⟩
  | cons m ms ih =>
    obtain ⟨k', v'⟩ := m
    obtain ⟨before, hbefore⟩ := ih
    refine ⟨',' :: Json.newline (level + 1) ++ Json.quoted k'.toList ++
      ':' :: ' ' :: Json.prettyAt (level + 1) v' ++ before, ?_⟩
    rw [List.cons_append, Json.prettyMembers, hbefore]
    simp

/-- In an answer as JSON the sketch is the last member, one level in. -/
theorem printed_answerJson {a : Answer} {s : Sketch} (h : a.sketch = some s) :
    ∃ before, printed (answerJson a) =
      before ++ "\"sketch\": " ++ String.ofList (s.toJson.sorted.prettyAt 1) ++ "\n\x7d\n" := by
  have hsorted : (answerJson a).sorted = .object
      (("answer", .text a.conclusion.text) ::
        [("attempts", .list (Json.sortedItems (a.attempts.map Attempt.toJson))),
          ("iterations", .integer a.iterations)] ++ [("sketch", s.toJson.sorted)]) := by
    simp only [answerJson, Answer.toJson, h, Option.map_some, Json.optional, List.cons_append,
      List.nil_append, Json.sorted, Json.sortedMembers]
    -- By their keys the members are in the order answer, attempts, iterations, sketch.
    have hattempts : "attempts" < "iterations" := by decide
    have hsketch : ¬ "sketch" < "attempts" ∧ ¬ "sketch" < "iterations" := by decide
    have hanswer : "answer" < "attempts" := by decide
    rw [Json.insertMember, Json.insertMember_of_lt hattempts,
      Json.insertMember_of_not_lt hsketch.1, Json.insertMember_of_not_lt hsketch.2,
      Json.insertMember, Json.insertMember_of_lt hanswer]
  obtain ⟨before, hbefore⟩ := prettyMembers_concat 0
    [("attempts", .list (Json.sortedItems (a.attempts.map Attempt.toJson))),
      ("iterations", .integer a.iterations)] "sketch" s.toJson.sorted
  let front : List Char := '\x7b' :: Json.newline 1 ++ Json.quoted "answer".toList ++
    ':' :: ' ' :: Json.prettyAt 1 (.text a.conclusion.text) ++ before
  have hpretty : (answerJson a).sorted.prettyAt 0 =
      front ++ (Json.quoted "sketch".toList ++ [':', ' ']) ++ s.toJson.sorted.prettyAt 1 ++
        (Json.newline 0 ++ ['\x7d']) := by
    rw [hsorted, List.cons_append, Json.prettyAt, hbefore]
    simp [front]
  have hkey : String.ofList (Json.quoted "sketch".toList ++ [':', ' ']) = "\"sketch\": " := by
    decide
  have hend : String.ofList (Json.newline 0 ++ ['\x7d']) ++ "\n" = "\n\x7d\n" := by decide
  refine ⟨String.ofList front, ?_⟩
  rw [printed, Json.prettyText, hpretty, String.ofList_append, String.ofList_append,
    String.ofList_append, hkey, String.append_assoc, hend]

end CommandLine

/-! ### Sketches of a run -/

section

variable {γ : Type} [Generator γ] [SatEngine]

/-- What holds of the sketches of a run in which every sketch has a solver of its own. -/
def Run.Faithful (engine : Solver) (r : Run γ Solver) : Prop :=
  r.judge = engine ∧ match r.phase with
  | .propose _ => True
  | .weigh s => ∃ text, Sketch.parse text = .ok s
  | .giveUp => True
  | .done a => ∀ s, a.sketch = some s → (∃ text, Sketch.parse text = .ok s) ∧
      (s.evaluate engine).1.decision.verdict.conclusion? = some a.conclusion

theorem Run.Faithful.step {engine : Solver} {question : String} {budget : Nat}
    {r r' : Run γ Solver} (h : r.Faithful engine) (hstep : r.step question budget = .again r') :
    r'.Faithful engine := by
  have hsteps := steps_step question budget r
  rw [hstep] at hsteps
  obtain ⟨hjudge, hphase⟩ := h
  cases hsteps with
  | spent hp hb hnext =>
    rw [hnext]
    exact ⟨hjudge, trivial⟩
  | @proposed feedback text generator _ hp hb hreply hnext =>
    rw [hnext]
    cases hparse : Sketch.parse text with
    | error e =>
      rw [read_of_error hparse]
      exact ⟨hjudge, trivial⟩
    | ok sketch =>
      rw [read_of_ok hparse]
      exact ⟨hjudge, text, hparse⟩
  | @weighed sketch evaluation judge _ hp hreply hnext =>
    -- The sketch was decided by the engine as it is now, so deciding it again is the same.
    rw [hp] at hphase
    rw [hjudge] at hreply
    obtain ⟨rfl, rfl⟩ := Prod.mk.inj hreply
    rw [hnext]
    by_cases hd : (sketch.evaluate engine).1.decision.decided = true
    · rw [settle_of_decided hd]
      refine ⟨rfl, fun s hs => ?_⟩
      obtain rfl := Option.some.inj hs
      exact ⟨hphase, Decision.conclusion?_of_decided hd⟩
    · rw [settle_of_undecided hd]
      exact ⟨rfl, trivial⟩
  | answered hp hreply hnext =>
    rw [hnext]
    exact ⟨hjudge, fun s hs => nomatch hs⟩

/-- The sketch of an answer was read from a text, and deciding it again concludes the same. -/
theorem refine_faithful {question : String} {budget : Nat} {generator : γ} {engine : Solver}
    {a : Answer} (ha : (refine question budget generator engine).1 = .ok a) {s : Sketch}
    (hs : a.sketch = some s) :
    (∃ text, Sketch.parse text = .ok s) ∧
      (s.evaluate engine).1.decision.verdict.conclusion? = some a.conclusion := by
  have hstart : Run.Faithful engine { generator, judge := engine } := ⟨rfl, trivial⟩
  obtain ⟨r, ⟨-, hphase⟩, hended⟩ :=
    Run.exists_ended (fun r r' (h : r.Faithful engine) hstep => h.step hstep) hstart
  have hsteps := Run.steps_step question budget r
  rw [hended] at hsteps
  change (Run.finish question budget { generator, judge := engine }).1 = .ok a at ha
  generalize Run.finish question budget { generator, judge := engine } = result at hsteps ha
  obtain ⟨_, _, _⟩ := result
  obtain rfl : _ = Except.ok a := ha
  cases hsteps with
  | done hp =>
    rw [hp] at hphase
    exact hphase s hs

end

/-! ### Everything that is printed -/

/-- **Written sketches read back as they are.**  The three forms that are printed are read as the
sketch: without blanks, with one item a line as an answer for people shows it, and with sorted keys
as an answer in JSON holds it.  So different sketches have different documents, a sketch that was
read is what its document is read as, and a sketch that is printed with an answer is decided as the
answer concludes. -/
theorem written_sketches_read_back :
    (∀ s : Sketch, (∃ c ∈ s.query.toList, Text.isBlank c = false) →
      Sketch.parse s.json = .ok s ∧ Sketch.parse s.toJson.prettyText = .ok s ∧
      Sketch.parse (String.ofList (s.toJson.sorted.prettyAt 1)) = .ok s) ∧
    (∀ (a : Answer) (s : Sketch), a.sketch = some s →
      (∃ before after, CommandLine.answerText a =
        before ++ "Sketch:\n" ++ s.toJson.prettyText ++ "\n" ++ after) ∧
      ∃ before, CommandLine.printed (CommandLine.answerJson a) =
        before ++ "\"sketch\": " ++ String.ofList (s.toJson.sorted.prettyAt 1) ++ "\n\x7d\n") ∧
    Function.Injective Sketch.json ∧
    (∀ (text : String) (s : Sketch), Sketch.parse text = .ok s →
      ∃ s', Sketch.parse s.json = .ok s' ∧ s' = s ∧ s'.json = s.json ∧
        s'.fingerprint = s.fingerprint) ∧
    ∀ {γ : Type} [Generator γ] [SatEngine] (question : String) (budget : Nat) (generator : γ)
      (a : Answer) (s : Sketch), (refine question budget generator Solver.fresh).1 = .ok a →
      a.sketch = some s →
      ∀ text ∈ [s.json, s.toJson.prettyText, String.ofList (s.toJson.sorted.prettyAt 1)],
        ∃ s', Sketch.parse text = .ok s' ∧
          (s'.evaluate Solver.fresh).1.decision.verdict.conclusion? = some a.conclusion := by
  have hforms (s : Sketch) (hquery : Text.isBlankText s.query = false) :
      Sketch.parse s.json = .ok s ∧ Sketch.parse s.toJson.prettyText = .ok s ∧
        Sketch.parse (String.ofList (s.toJson.sorted.prettyAt 1)) = .ok s :=
    ⟨Sketch.parse_json hquery, Sketch.parse_prettyAt hquery 0,
      Sketch.parse_sorted_prettyAt hquery 1⟩
  refine ⟨fun s hs => hforms s (Sketch.isBlankText_eq_false_iff.mpr hs),
    fun a s hs => ⟨CommandLine.answerText_eq hs, CommandLine.printed_answerJson hs⟩,
    Sketch.json_injective, fun text s hs => ?_, fun question budget generator a s ha hs => ?_⟩
  · exact ⟨s, Sketch.parse_json (Sketch.isBlankText_query_of_parse hs), rfl, rfl, rfl⟩
  · obtain ⟨⟨text, hparse⟩, hverdict⟩ := refine_faithful ha hs
    obtain ⟨hjson, hpretty, hsorted⟩ := hforms s (Sketch.isBlankText_query_of_parse hparse)
    simp only [List.forall_mem_cons, List.not_mem_nil, false_implies, implies_true, and_true]
    exact ⟨⟨s, hjson, hverdict⟩, ⟨s, hpretty, hverdict⟩, ⟨s, hsorted, hverdict⟩⟩

/-- Quotes, backslashes, control characters and the mark of a fence, an empty list of premises and
one that holds a single name, and an entry without fields: all three forms are read back. -/
theorem written_sketches_read_back_quotes :
    let s : Sketch :=
      { declared := ["\"a\"", "\\", "\x00\n\t", "\x60\x60\x60"]
        entries := [{}, { kind := .imply, premises := some (.many []), conclusion := some "\x1f" },
          { kind := .imply, premises := some (.many ["\"a\""]), object := some "\\u0041" },
          { kind := .fact, premises := some (.one "\x7f"), value := some false }]
        query := " \"a\" " }
    (∃ c ∈ s.query.toList, Text.isBlank c = false) ∧
      Sketch.parse s.json = .ok s ∧ Sketch.parse s.toJson.prettyText = .ok s ∧
      Sketch.parse (String.ofList (s.toJson.sorted.prettyAt 1)) = .ok s := by
  intro s
  have hquery : ∃ c ∈ s.query.toList, Text.isBlank c = false := ⟨'a', by decide, by decide⟩
  exact ⟨hquery, written_sketches_read_back.1 s hquery⟩

end Entail
