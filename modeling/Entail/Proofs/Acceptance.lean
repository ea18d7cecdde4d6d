/-
Entail/Proofs/Acceptance.lean

Which documents are sketches, and what they say.

A text whose value is an object is a sketch if and only if the object has a list of entries, a query
that is not blank, and no declared names or a list of them (`document_accepted`).  Nothing is asked
of the entries.  A text whose value is a list is a sketch if the list holds these three in their
order (`ofDocument?_list`), and no other value is one.  It is all the same if a text stands in a
code fence (`parse_eq_ok_iff`).
-/
import Entail.Proofs.Bodies
import Entail.Proofs.Entries
import Entail.Proofs.Printing
import Entail.Proofs.Records

namespace Entail

open Json (Document Enclosed Interprets Yields lastOf lookup_cons_eq_ite merged)

/-! ### The fields of a sketch -/

namespace Sketch

/-- What the names, the entries and the query of a sketch are read from. -/
def namesOf? : Json → Option (List String) := Json.listMeaning textOf?

/-- The entries that a value gives, if it is a list.  Every item gives one. -/
def entriesOf? : Json → Option (List Entry)
  | .list vs => some (vs.map fun v => Entry.ofJson (merged v))
  | _ => none

theorem entriesOf?_eq (v : Json) :
    entriesOf? v = (Json.listMeaning (fun v => some (merged v)) v).map (List.map Entry.ofJson) := by
  cases v with
  | list vs =>
    have hall : vs.mapM (fun v => some (merged v)) = some (vs.map merged) := List.mapM_pure
    simp [entriesOf?, Json.listMeaning, hall]
  | _ => rfl

/-- What a field makes of a value of the grammar. -/
def takeField (f : Json.Field Parts) (p : Parts) (v : Json) : Option Parts :=
  if f.name = "vars" then (namesOf? v).map fun names => { p with declared := some names }
  else if f.name = "rules" then
    (entriesOf? v).map fun entries => { p with entries := some entries }
  else (textOf? v).map fun query => { p with query := some query }

theorem takeField_interprets (depth : Nat) :
    ∀ f ∈ record.fields, ∀ p, Interprets (f.read p depth) depth (takeField f p) := by
  simp only [record, List.mem_cons, List.not_mem_nil, or_false, forall_eq_or_imp, forall_eq]
  refine ⟨fun p => ?_, fun p => ?_, fun p => ?_⟩
  · intro ws t rest v hws hv hrest
    exact (Json.listOf_interprets (Json.stringNamed_interprets "a string") depth hws hv hrest).carry
      fun _ => ⟨rfl, rfl⟩
  · intro ws t rest v hws hv hrest
    show Yields _ ((entriesOf? v).map fun entries => { p with entries := some entries }) rest
    rw [entriesOf?_eq, Option.map_map]
    exact (Json.listOf_interprets Json.value_interprets depth hws hv hrest).carry
      fun _ => ⟨rfl, rfl⟩
  · intro ws t rest v hws hv hrest
    exact (Json.stringNamed_interprets "a string" depth hws hv hrest).carry fun _ => ⟨rfl, rfl⟩

/-- A key that stands at most once in members, and not at all if it has been read before. -/
def Once {α : Type} (old : Option α) (key : String) (ms : List (String × Json)) : Prop :=
  (ms.map (·.1)).count key + (if old.isSome then 1 else 0) ≤ 1

/-- What a field holds after the members: what they give, or what it held before. -/
def field {α : Type} (old : Option α) (meaning : Json → Option α) (v : Option Json) :
    Option (Option α) :=
  match v with
  | none => some old
  | some v => (meaning v).map some

section

variable {α : Type} {old : Option α} {key k : String} {v : Json} {ms : List (String × Json)}

theorem Once.other (h : Once old key ((k, v) :: ms)) (hk : k ≠ key) : Once old key ms := by
  simpa [Once, List.count_cons, hk] using h

theorem Once.here (h : Once old key ((key, v) :: ms)) :
    old = none ∧ ms.lookup key = none ∧ ∀ a : α, Once (some a) key ms := by
  simp only [Once, List.map_cons, List.count_cons_self] at h
  have hold : old = none := by
    cases old with
    | none => rfl
    | some a => simp at h
  have hcount : (ms.map (·.1)).count key = 0 := by omega
  refine ⟨hold, ?_, fun a => by simp [Once, hcount]⟩
  rw [List.lookup_eq_none_iff]
  rw [List.count_eq_zero] at hcount
  intro m hm
  rw [bne_iff_ne]
  rintro rfl
  exact hcount (List.mem_map_of_mem hm)

theorem field_other (hk : k ≠ key) (meaning : Json → Option α) :
    field old meaning (((k, v) :: ms).lookup key) = field old meaning (ms.lookup key) := by
  rw [lookup_cons_eq_ite, if_neg hk.symm]

theorem field_here (h : Once old key ((key, v) :: ms)) (meaning : Json → Option α) :
    field old meaning (((key, v) :: ms).lookup key) =
      (meaning v).bind fun a => field (some a) meaning (ms.lookup key) := by
  rw [List.lookup_cons_self, h.here.2.1, field]
  cases meaning v <;> rfl

end

/-- The sketch that the members of a document give: names if there are any, and entries and a query
in any case. -/
def ofMembers? (ms : List (String × Json)) : Option Sketch :=
  (field none namesOf? (ms.lookup "vars")).bind fun names =>
    ((ms.lookup "rules").bind entriesOf?).bind fun entries =>
      ((ms.lookup "query").bind textOf?).map fun query => ⟨names.getD [], entries, query⟩

section

variable {p : Parts} (v : Json)

theorem step_vars (h : p.declared = none) : record.step takeField p ("vars", v) =
    (namesOf? v).map fun names => { p with declared := some names } := by
  show (if p.declared.isSome then none else takeField _ p v) = _
  rw [h]
  rfl

theorem step_rules (h : p.entries = none) : record.step takeField p ("rules", v) =
    (entriesOf? v).map fun entries => { p with entries := some entries } := by
  show (if p.entries.isSome then none else takeField _ p v) = _
  rw [h]
  rfl

theorem step_query (h : p.query = none) : record.step takeField p ("query", v) =
    (textOf? v).map fun query => { p with query := some query } := by
  show (if p.query.isSome then none else takeField _ p v) = _
  rw [h]
  rfl

theorem step_other {k : String} (hvars : k ≠ "vars") (hrules : k ≠ "rules")
    (hquery : k ≠ "query") : record.step takeField p (k, v) = some p := by
  have hvars' : ("vars" == k) = false := beq_false_of_ne hvars.symm
  have hrules' : ("rules" == k) = false := beq_false_of_ne hrules.symm
  have hquery' : ("query" == k) = false := beq_false_of_ne hquery.symm
  simp [Json.Record.step, record, List.find?, hvars', hrules', hquery']

end

/-- The members that are no fields are passed over, and the fields are read wherever they stand. -/
theorem foldlM_step (ms : List (String × Json)) (p : Parts) (hvars : Once p.declared "vars" ms)
    (hrules : Once p.entries "rules" ms) (hquery : Once p.query "query" ms) :
    ms.foldlM (record.step takeField) p =
      (field p.declared namesOf? (ms.lookup "vars")).bind fun names =>
        (field p.entries entriesOf? (ms.lookup "rules")).bind fun entries =>
          (field p.query textOf? (ms.lookup "query")).bind fun query =>
            some ⟨names, entries, query⟩ := by
  induction ms generalizing p with
  | nil => rfl
  | cons m ms ih =>
    obtain ⟨k, v⟩ := m
    rw [List.foldlM_cons]
    -- The key is one of the three fields or none of them.  A field is what its value gives, and
    -- leaves the other two to the members behind it.
    by_cases hk : k = "vars"
    · subst hk
      rw [step_vars v hvars.here.1, field_here hvars, field_other (by decide),
        field_other (by decide)]
      cases namesOf? v with
      | none => rfl
      | some names =>
        exact ih { p with declared := some names } (hvars.here.2.2 names)
          (hrules.other (by decide)) (hquery.other (by decide))
    by_cases hk' : k = "rules"
    · subst hk'
      rw [step_rules v hrules.here.1, field_here hrules, field_other (by decide),
        field_other (by decide)]
      cases entriesOf? v with
      | none => simp
      | some entries =>
        exact ih { p with entries := some entries } (hvars.other (by decide))
          (hrules.here.2.2 entries) (hquery.other (by decide))
    by_cases hk'' : k = "query"
    · subst hk''
      rw [step_query v hquery.here.1, field_here hquery, field_other (by decide),
        field_other (by decide)]
      cases textOf? v with
      | none => simp
      | some query =>
        exact ih { p with query := some query } (hvars.other (by decide))
          (hrules.other (by decide)) (hquery.here.2.2 query)
    · rw [step_other v hk hk' hk'', field_other hk, field_other hk', field_other hk'']
      exact ih p (hvars.other hk) (hrules.other hk') (hquery.other hk'')

/-- Of the parts that are read, entries and a query must be there. -/
theorem complete_eq (p : Parts) :
    (record.complete p).map ofParts =
      p.entries.bind fun entries =>
        p.query.map fun query => ⟨p.declared.getD [], entries, query⟩ := by
  obtain ⟨declared, entries, query⟩ := p
  cases entries <;> cases query <;> rfl

/-- The three fields of a document stand in it at most once. -/
def Single (ms : List (String × Json)) : Prop :=
  ∀ key ∈ ["vars", "rules", "query"], (ms.map (·.1)).count key ≤ 1

instance (ms : List (String × Json)) : Decidable (Single ms) :=
  inferInstanceAs (Decidable (∀ key ∈ ["vars", "rules", "query"], (ms.map (·.1)).count key ≤ 1))

theorem fold_eq_ofMembers? {ms : List (String × Json)} (h : Single ms) :
    ((ms.foldlM (record.step takeField) {}).bind record.complete).map ofParts = ofMembers? ms := by
  have honce {α : Type} {key : String} (hkey : key ∈ ["vars", "rules", "query"]) :
      Once (none : Option α) key ms := h key hkey
  rw [foldlM_step ms {} (honce (by decide)) (honce (by decide)) (honce (by decide)), ofMembers?]
  cases field none namesOf? (ms.lookup "vars") with
  | none => rfl
  | some names =>
    cases ms.lookup "rules" with
    | none => cases field none textOf? (ms.lookup "query") <;> simp [field, complete_eq]
    | some v =>
      cases he : entriesOf? v with
      | none => simp [field, he]
      | some entries =>
        cases ms.lookup "query" with
        | none => simp [field, he, complete_eq]
        | some w => cases hq : textOf? w <;> simp [field, he, hq, complete_eq]

/-- The sketch that the value of a document gives. -/
def ofDocument? (j : Json) : Option Sketch := (record.meaning takeField {} j).map ofParts

theorem ofDocument?_object {ms : List (String × Json)} (h : Single ms) :
    ofDocument? (.object ms) = ofMembers? ms := fold_eq_ofMembers? h

/-- A list gives a sketch if it holds all three fields in order. -/
theorem ofDocument?_list (vs : List Json) :
    ofDocument? (.list vs) =
      match vs with
      | [names, entries, query] =>
        (namesOf? names).bind fun names =>
          (entriesOf? entries).bind fun entries =>
            (textOf? query).map fun query => ⟨names, entries, query⟩
      | _ => none := by
  -- Fewer items leave the query out, which may not be omitted, and more have no field.
  rcases vs with - | ⟨names, - | ⟨entries, - | ⟨query, - | ⟨v, vs⟩⟩⟩⟩ <;>
    simp [ofDocument?, Json.Record.meaning, record, Json.Record.takeItems, takeField,
      Option.bind_map, Function.comp_def, ofParts]

/-- A field that takes a value is read from then on, and no other field is. -/
theorem takeField_seen {f g : Json.Field Parts} (hf : f ∈ record.fields) (hg : g ∈ record.fields)
    {p q : Parts} {v : Json} (h : takeField f p v = some q) :
    g.seen q = (f.name == g.name || g.seen p) := by
  simp only [record, List.mem_cons, List.not_mem_nil, or_false] at hf hg
  rcases hf with rfl | rfl | rfl <;> obtain ⟨a, -, rfl⟩ := Option.map_eq_some_iff.mp h <;>
    rcases hg with rfl | rfl | rfl <;> rfl

/-- An object that gives a sketch has none of the fields twice. -/
theorem single_of_ofDocument? {ms : List (String × Json)} {s : Sketch}
    (h : ofDocument? (.object ms) = some s) : Single ms := by
  obtain ⟨parts, hparts, -⟩ := Option.map_eq_some_iff.mp h
  obtain ⟨p, hp, -⟩ := Option.bind_eq_some_iff.mp hparts
  have hcount : ∀ f ∈ record.fields, (ms.map (·.1)).count f.name ≤ 1 := by
    intro f hf
    have hfind : record.fields.find? (fun g => g.name == f.name) = some f := by
      simp only [record, List.mem_cons, List.not_mem_nil, or_false] at hf
      rcases hf with rfl | rfl | rfl <;> rfl
    exact Nat.le_of_add_right_le (Json.Record.count_le_one_of_foldlM hfind
      (fun g hg p v q h => takeField_seen hg hf h) hp)
  have hnames : ["vars", "rules", "query"] = record.fields.map (·.name) := rfl
  rw [Single, hnames]
  exact List.forall_mem_map.mpr hcount

theorem reader_interprets (depth : Nat) : Interprets (reader depth) depth ofDocument? := by
  intro ws t rest v hws hv hrest
  exact (Json.Record.read_interprets takeField_interprets {} depth hws hv hrest).carry
    fun _ => ⟨rfl, rfl⟩

/-- Reading a document gives the sketch that its value gives. -/
theorem run_document {text : String} {j : Json} (h : Document text j) :
    (reader.run text).toOption = ofDocument? j := by
  obtain ⟨ws, t, ws', hws, ht, hws', htext⟩ := h
  have hend : Json.Unbroken ws' := by
    rw [← List.append_nil ws']
    exact hws'.unbroken fun _ _ h => nomatch h
  refine Json.Reader.run_eq hws' ?_
  rw [htext]
  exact reader_interprets Json.depthLimit hws ht hend

/-- What parsing adds to reading: the query must not be blank. -/
theorem parse_toOption (text : String) :
    (parse text).toOption =
      (reader.run (String.ofList (Text.fenceBody text.toList))).toOption.filter
        fun s => !Text.isBlankText s.query := by
  unfold parse
  split
  · next h => rw [h]; rfl
  · next h =>
    rw [h]
    split
    · next hblank => simp [Except.toOption, Option.filter, hblank]
    · next hblank => simp [Except.toOption, Option.filter, hblank]

/-! ### Accepted documents -/

theorem namesOf?_eq_some_iff {v : Json} {names : List String} :
    namesOf? v = some names ↔ v = Json.texts names := by
  cases v with
  | list vs => simp [namesOf?, Json.listMeaning, Json.texts, mapM_textOf?_eq_some_iff]
  | _ => simp [namesOf?, Json.listMeaning, Json.texts]

theorem entriesOf?_eq_some_iff {v : Json} {entries : List Entry} :
    entriesOf? v = some entries ↔
      ∃ vs, v = .list vs ∧ entries = vs.map fun v => Entry.ofJson (merged v) := by
  cases v with
  | list vs => simp [entriesOf?, eq_comm]
  | _ => simp [entriesOf?]

/-- What members have to be to give a sketch, and what the sketch is. -/
theorem ofMembers?_eq_some_iff {ms : List (String × Json)} {s : Sketch} :
    ofMembers? ms = some s ↔
      (ms.lookup "vars" = some (Json.texts s.declared) ∨
        ms.lookup "vars" = none ∧ s.declared = []) ∧
      (∃ vs, ms.lookup "rules" = some (.list vs) ∧
        s.entries = vs.map fun v => Entry.ofJson (merged v)) ∧
      ms.lookup "query" = some (.text s.query) := by
  constructor
  · intro h
    obtain ⟨names, hn, h⟩ := Option.bind_eq_some_iff.mp h
    obtain ⟨entries, he, h⟩ := Option.bind_eq_some_iff.mp h
    obtain ⟨query, hq, rfl⟩ := Option.map_eq_some_iff.mp h
    obtain ⟨w, hw, hentries⟩ := Option.bind_eq_some_iff.mp he
    obtain ⟨u, hu, hquery⟩ := Option.bind_eq_some_iff.mp hq
    obtain ⟨vs, rfl, rfl⟩ := entriesOf?_eq_some_iff.mp hentries
    obtain rfl := textOf?_eq_some_iff.mp hquery
    refine ⟨?_, ⟨vs, hw, rfl⟩, hu⟩
    cases hv : ms.lookup "vars" with
    | none =>
      rw [hv] at hn
      obtain rfl := Option.some.inj hn
      exact .inr ⟨rfl, rfl⟩
    | some v =>
      rw [hv] at hn
      obtain ⟨ns, hns, rfl⟩ := Option.map_eq_some_iff.mp hn
      exact .inl (congrArg some (namesOf?_eq_some_iff.mp hns))
  · rintro ⟨hnames, ⟨vs, hrules, hentries⟩, hquery⟩
    obtain ⟨declared, entries, query⟩ := s
    obtain rfl : entries = _ := hentries
    have hq : ms.lookup "query" = some (.text query) := hquery
    rcases hnames with hnames | ⟨hnames, hnone⟩
    · have hn : ms.lookup "vars" = some (Json.texts declared) := hnames
      simp [ofMembers?, field, hn, hrules, hq, namesOf?_eq_some_iff.mpr rfl, entriesOf?, textOf?]
    · obtain rfl : declared = [] := hnone
      simp [ofMembers?, field, hnames, hrules, hq, entriesOf?, textOf?]

/-- The query says something. -/
theorem isBlankText_eq_false_iff {s : String} :
    Text.isBlankText s = false ↔ ∃ c ∈ s.toList, Text.isBlank c = false := by
  simp [Text.isBlankText]

/-- A document in a fence or without one is a sketch if its value gives one and the query of that
is not blank. -/
theorem parse_eq_ok_iff {text : String} {j : Json} (h : Enclosed text j) {s : Sketch} :
    parse text = .ok s ↔ ofDocument? j = some s ∧ Text.isBlankText s.query = false := by
  have hok : parse text = .ok s ↔ (parse text).toOption = some s := by
    cases parse text <;> simp [Except.toOption]
  rw [hok, parse_toOption, run_document h.body, Option.filter_eq_some_iff, Bool.not_eq_true']

theorem parse_object_eq_ok_iff {text : String} {ms : List (String × Json)}
    (h : Document text (.object ms)) (hms : Single ms) {s : Sketch} :
    parse text = .ok s ↔ ofMembers? ms = some s ∧ Text.isBlankText s.query = false := by
  rw [parse_eq_ok_iff (.inl h), ofDocument?_object hms]

/-- The entries of a document as it writes them: under their key, or second in a list. -/
def rulesOf? : Json → Option (List Json)
  | .object ms =>
    match ms.lookup "rules" with
    | some (.list vs) => some vs
    | _ => none
  | .list [_, .list vs, _] => some vs
  | _ => none

/-- A sketch has an entry for each one that the document writes, in order. -/
theorem entries_of_ofDocument? {j : Json} {s : Sketch} (h : ofDocument? j = some s) :
    ∃ vs, rulesOf? j = some vs ∧ s.entries = vs.map fun v => Entry.ofJson (merged v) := by
  cases j with
  | object ms =>
    rw [ofDocument?_object (single_of_ofDocument? h)] at h
    obtain ⟨-, ⟨vs, hrules, hentries⟩, -⟩ := ofMembers?_eq_some_iff.mp h
    exact ⟨vs, by rw [rulesOf?, hrules], hentries⟩
  | list items =>
    rw [ofDocument?_list] at h
    split at h
    · obtain ⟨names, -, h⟩ := Option.bind_eq_some_iff.mp h
      obtain ⟨entries, hentries, h⟩ := Option.bind_eq_some_iff.mp h
      obtain ⟨query, -, rfl⟩ := Option.map_eq_some_iff.mp h
      obtain ⟨vs, rfl, rfl⟩ := entriesOf?_eq_some_iff.mp hentries
      exact ⟨vs, rfl, rfl⟩
    · cases h
  | _ => cases h

/-- A document is a sketch if and only if it has a list of entries, a query that is not blank, and
no names or a list of them.  The sketch says what the document says: entry by entry, and field by
field where an entry is an object. -/
theorem document_accepted {text : String} {ms : List (String × Json)}
    (h : Document text (.object ms)) (hms : Single ms) :
    ((∃ s, parse text = .ok s) ↔
      (∃ vs, ms.lookup "rules" = some (.list vs)) ∧
      (∃ query, ms.lookup "query" = some (.text query) ∧
        ∃ c ∈ query.toList, Text.isBlank c = false) ∧
      (ms.lookup "vars" = none ∨ ∃ names, ms.lookup "vars" = some (Json.texts names))) ∧
    ∀ s, parse text = .ok s →
      (ms.lookup "vars" = some (Json.texts s.declared) ∨
        ms.lookup "vars" = none ∧ s.declared = []) ∧
      ms.lookup "query" = some (.text s.query) ∧
      ∃ vs : List Json, ms.lookup "rules" = some (.list vs) ∧
        s.entries = vs.map (fun v => Entry.ofJson (merged v)) ∧
        ∀ (i : Nat) (es : List (String × Json)), vs[i]? = some (.object es) →
          ∃ e : Entry, s.entries[i]? = some e ∧ e.Follows (lastOf es) := by
  constructor
  · constructor
    · rintro ⟨s, hs⟩
      obtain ⟨hmembers, hblank⟩ := (parse_object_eq_ok_iff h hms).mp hs
      obtain ⟨hnames, ⟨vs, hrules, -⟩, hquery⟩ := ofMembers?_eq_some_iff.mp hmembers
      refine ⟨⟨vs, hrules⟩, ⟨s.query, hquery, isBlankText_eq_false_iff.mp hblank⟩, ?_⟩
      rcases hnames with hnames | ⟨hnames, -⟩
      · exact .inr ⟨_, hnames⟩
      · exact .inl hnames
    · rintro ⟨⟨vs, hrules⟩, ⟨query, hquery, hblank⟩, hnames⟩
      have hblank := isBlankText_eq_false_iff.mpr hblank
      rcases hnames with hnames | ⟨names, hnames⟩
      · exact ⟨⟨[], vs.map fun v => Entry.ofJson (merged v), query⟩,
          (parse_object_eq_ok_iff h hms).mpr
            ⟨ofMembers?_eq_some_iff.mpr ⟨.inr ⟨hnames, rfl⟩, ⟨vs, hrules, rfl⟩, hquery⟩, hblank⟩⟩
      · exact ⟨⟨names, vs.map fun v => Entry.ofJson (merged v), query⟩,
          (parse_object_eq_ok_iff h hms).mpr
            ⟨ofMembers?_eq_some_iff.mpr ⟨.inl hnames, ⟨vs, hrules, rfl⟩, hquery⟩, hblank⟩⟩
  · intro s hs
    obtain ⟨hmembers, -⟩ := (parse_object_eq_ok_iff h hms).mp hs
    obtain ⟨hnames, ⟨vs, hrules, hentries⟩, hquery⟩ := ofMembers?_eq_some_iff.mp hmembers
    refine ⟨hnames, hquery, vs, hrules, hentries, fun i es hi => ?_⟩
    refine ⟨_, ?_, Entry.follows_ofJson es⟩
    rw [hentries, List.getElem?_map, hi]
    rfl

/-- Keys in any order, keys that are no fields, one of them twice and once with a number, an entry
that is no object and one that repeats its kind: still a sketch. -/
theorem document_accepted_mixedEntries :
    let entry : List (String × Json) :=
      [("kind", .text "imply"), ("subject", .text "p"), ("value", .null), ("kind", .text "fact")]
    let ms : List (String × Json) :=
      [("query", .text "p"), ("note", .decimal ⟨false, 25, -1⟩),
        ("rules", .list [.bool true, .object entry]), ("note", .list [.text "again"])]
    (Document (Json.object ms).prettyText (.object ms) ∧ Single ms) ∧
      ∃ s, parse (Json.object ms).prettyText = .ok s ∧ s.declared = [] ∧ s.query = "p" ∧
        s.entries.map (·.kind) = [.unknown, .fact] := by
  intro entry ms
  have hnumber : Json.Writes 126 (.decimal ⟨false, 25, -1⟩) ['2', '.', '5'] := by
    have hwhole : Json.Whole ['2'] := .digits rfl (by decide) fun _ h => nomatch h
    have hfraction : Json.Fraction ['.', '5'] :=
      .point ⟨List.cons_ne_nil _ _, List.forall_mem_singleton.mpr rfl⟩
    have hread : (Json.unsignedNumber false '2' ['.', '5']).toOption.map (·.value) =
        some (.decimal ⟨false, 25, -1⟩) := by decide +kernel
    exact .number (.plain (.parts hwhole hfraction .none))
      ((Json.numberOf?_of_isDigit rfl _).trans (congrArg (Option.map Json.Number.toJson) hread))
  have hquery : Json.Fits 126 (.text "p") := trivial
  have hrules : Json.Fits 126 (.list [.bool true, .object entry]) := by simp [Json.Fits, entry]
  have hagain : Json.Fits 126 (.list [.text "again"]) := by simp [Json.Fits]
  have hobject : Json.Writes Json.depthLimit (.object ms) ((Json.object ms).prettyAt 0) := by
    apply Json.writes_prettyAt_object
    simp only [ms, List.forall_mem_cons]
    exact ⟨Json.writes_prettyAt hquery 1, hnumber, Json.writes_prettyAt hrules 1,
      Json.writes_prettyAt hagain 1, nofun⟩
  have h : Document (Json.object ms).prettyText (.object ms) :=
    ⟨[], _, [], .nil, hobject, .nil, by simp [Json.prettyText]⟩
  have hms : Single ms := by decide
  obtain ⟨haccepted, hsays⟩ := document_accepted h hms
  obtain ⟨s, hs⟩ := haccepted.mpr
    ⟨⟨_, rfl⟩, ⟨"p", rfl, 'p', by decide, by decide⟩, .inl rfl⟩
  obtain ⟨hnames, hquery, vs, hrules, hentries, -⟩ := hsays s hs
  obtain rfl : [.bool true, .object entry] = vs := Json.list.inj (Option.some.inj hrules)
  refine ⟨⟨h, hms⟩, s, hs, ?_, ?_, ?_⟩
  · rcases hnames with hnames | ⟨-, hnone⟩
    · cases hnames
    · exact hnone
  · exact (Json.text.inj (Option.some.inj hquery)).symm
  · rw [hentries]
    rfl

end Sketch

end Entail
