/-
Entail/Proofs/Leniency.lean

Entries that are no rules.

Any value is an entry, but only some of them say of which kind they are (`Entry.kindOf?`): an object
under its key, and a list that is not longer than the fields as its first item.  An entry of no kind
is skipped, and nothing else changes: the sketch without it compiles to the same constraints over
the same atoms, and has the same contradictions (`entry_of_no_kind`).  It does not matter how the
document around it is written, as an object or a list of its fields, bare or in a code fence.

Some entries that are no objects do say a kind, and so do some objects whose kind is no word.  They
become constraints like any other.
-/
import Entail.Proofs.Acceptance
import Entail.Proofs.Compilation
import Entail.Proofs.Contradictions

namespace Entail

open Json (Document Enclosed merged)

/-! ### Entries that are skipped -/

section

variable {e : Entry} {d : Defect} (h : e.rule? = .error d)

include h

namespace Theory

variable {σ : Type} [Incremental σ]

omit h in
/-- Where entries are counted from shows in the report alone. -/
theorem compileEntries_position (n m : Nat) (es : List Entry) (t : Theory σ) :
    (t.compileEntries n es).2 = (t.compileEntries m es).2 ∧
      (t.compileEntries n es).1.2 = (t.compileEntries m es).1.2 := by
  induction es generalizing n m t with
  | nil => exact ⟨rfl, rfl⟩
  | cons e es ih =>
    cases he : e.rule? with
    | error d =>
      rw [compileEntries_of_error he, compileEntries_of_error he, report_of_error he,
        report_of_error he]
      exact ih (n + 1) (m + 1) t
    | ok r =>
      rw [compileEntries_of_ok he, compileEntries_of_ok he, report_of_ok he, report_of_ok he]
      have hrest := ih (n + 1) (m + 1) ((t.formulaOf r).2.require (t.formulaOf r).1)
      exact ⟨hrest.1, congrArg (· + 1) hrest.2⟩

/-- An entry that is no rule is reported, and leaves theory and constraints as they are without
it. -/
theorem compileEntries_skip (n : Nat) (es es' : List Entry) (t : Theory σ) :
    (t.compileEntries n (es ++ e :: es')).2 = (t.compileEntries n (es ++ es')).2 ∧
      (t.compileEntries n (es ++ e :: es')).1.2 = (t.compileEntries n (es ++ es')).1.2 ∧
      (n + es.length, d) ∈ (t.compileEntries n (es ++ e :: es')).1.1 := by
  induction es generalizing n t with
  | nil =>
    -- The entries behind it are counted from one further on.
    have hposition := compileEntries_position (n + 1) n es' t
    rw [List.nil_append, List.nil_append, compileEntries_of_error h, report_of_error h]
    exact ⟨hposition.1, hposition.2, List.mem_cons_self⟩
  | cons e' es ih =>
    rw [List.cons_append, List.cons_append, List.length_cons,
      show n + (es.length + 1) = n + 1 + es.length by omega]
    cases he : e'.rule? with
    | error d' =>
      obtain ⟨htheory, hcount, hskipped⟩ := ih (n + 1) t
      rw [compileEntries_of_error he, compileEntries_of_error he, report_of_error he,
        report_of_error he]
      exact ⟨htheory, hcount, List.mem_cons_of_mem _ hskipped⟩
    | ok r =>
      obtain ⟨htheory, hcount, hskipped⟩ :=
        ih (n + 1) ((t.formulaOf r).2.require (t.formulaOf r).1)
      rw [compileEntries_of_ok he, compileEntries_of_ok he, report_of_ok he, report_of_ok he]
      exact ⟨htheory, congrArg (· + 1) hcount, hskipped⟩

/-- A sketch compiles to the theory that it compiles to without an entry that is no rule. -/
theorem compile_skip (names : List String) (es es' : List Entry) (query : String)
    (t : Theory σ) :
    (t.compile ⟨names, es ++ e :: es', query⟩).2 = (t.compile ⟨names, es ++ es', query⟩).2 ∧
      (t.compile ⟨names, es ++ e :: es', query⟩).1.2.constraints =
        (t.compile ⟨names, es ++ es', query⟩).1.2.constraints ∧
      (es.length, d) ∈ (t.compile ⟨names, es ++ e :: es', query⟩).1.2.skipped := by
  obtain ⟨htheory, hcount, hskipped⟩ := compileEntries_skip h 0 es es' (t.ensureAll names).2
  rw [Nat.zero_add] at hskipped
  refine ⟨?_, hcount, hskipped⟩
  show (Theory.ensure query _).2 = (Theory.ensure query _).2
  rw [htheory]

end Theory

end

namespace Sketch

/-- An entry of a document that says of no kind that it is of it is skipped for that, and changes
nothing else: not the theory, not the number of constraints and not the contradictions.  If it is
neither an object nor a list of fields, it is the empty entry. -/
theorem entry_of_no_kind {text : String} {j : Json} (h : Enclosed text j) {s : Sketch}
    (hs : parse text = .ok s) {before after : List Json} {v : Json}
    (hrules : rulesOf? j = some (before ++ v :: after))
    (hv : ∀ k w, k ≠ Kind.unknown → Entry.kindOf? (merged v) = some w → ¬ k.Spelled w) :
    ∃ es e es', s.entries = es ++ e :: es' ∧ es.length = before.length ∧ e.kind = .unknown ∧
      ((∀ ms', v ≠ .object ms') → (∀ vs, v = .list vs → Entry.fieldNames.length < vs.length) →
        e = {}) ∧
      contradictions s.entries = contradictions (es ++ es') ∧
      ∀ {σ : Type} [Incremental σ] (t : Theory σ),
        (t.compile s).2 = (t.compile { s with entries := es ++ es' }).2 ∧
        (t.compile s).1.2.constraints =
          (t.compile { s with entries := es ++ es' }).1.2.constraints ∧
        (before.length, Defect.unknownKind) ∈ (t.compile s).1.2.skipped := by
  obtain ⟨vs, hvs, hentries⟩ := entries_of_ofDocument? ((parse_eq_ok_iff h).mp hs).1
  obtain rfl : before ++ v :: after = vs := Option.some.inj (hrules.symm.trans hvs)
  have hkind : (Entry.ofJson (merged v)).kind = .unknown := by
    by_contra hk
    obtain ⟨w, hw, hspelled⟩ := (Entry.kind_ofJson_eq_iff hk).mp rfl
    exact hv _ w hk hw hspelled
  have hrule : (Entry.ofJson (merged v)).rule? = .error .unknownKind := by
    simp [Entry.rule?, hkind]
  rw [List.map_append, List.map_cons] at hentries
  refine ⟨_, _, _, hentries, List.length_map _, hkind, fun hobject hlist => ?_, ?_, fun t => ?_⟩
  · refine Entry.ofJson_eq_empty (fun ms' hms' => ?_) fun vs' hvs' => ?_
    · cases v with
      | object ms => exact hobject ms rfl
      | _ => cases hms'
    · cases v with
      | list vs =>
        obtain rfl : Json.mergedItems vs = vs' := Json.list.inj hvs'
        rw [Json.mergedItems_eq_map, List.length_map]
        exact hlist vs rfl
      | _ => cases hvs'
  · rw [hentries]
    exact contradictions_skip hrule _ _
  · obtain ⟨names, entries, query⟩ := s
    obtain rfl : entries = _ := hentries
    have hskip := Theory.compile_skip hrule names (before.map fun v => Entry.ofJson (merged v))
      (after.map fun v => Entry.ofJson (merged v)) query t
    rwa [List.length_map] at hskip

/-- A list whose first item is no word of a kind is skipped between two facts, in a document that is
a list of its fields and stands in a fence. -/
theorem entry_of_no_kind_shortList :
    let p : Json := .object [("kind", .text "fact"), ("subject", .text "p")]
    let v : Json := .list [.text "maybe", .text "p"]
    let j : Json := .list [.list [], .list ([p] ++ v :: [p]), .text "p"]
    let text := "```json\n" ++ j.compactText ++ "\n```"
    (Enclosed text j ∧ rulesOf? j = some ([p] ++ v :: [p]) ∧
      ∀ k w, k ≠ Kind.unknown → Entry.kindOf? (merged v) = some w → ¬ k.Spelled w) ∧
    ∃ s, parse text = .ok s ∧
      ∃ es e es', s.entries = es ++ e :: es' ∧ es.length = 1 ∧ e.kind = .unknown := by
  intro p v j text
  have hbody : String.ofList (Text.fenceBody text.toList) = j.compactText := by
    decide +kernel
  have h : Enclosed text j := by
    refine .inr (hbody ▸ ?_)
    exact Json.document_compactText (by simp [Json.Fits, Json.depthLimit, j, p, v])
  have hv (k : Kind) (w : Json) (hk : k ≠ .unknown)
      (hw : Entry.kindOf? (merged v) = some w) : ¬ k.Spelled w := by
    obtain rfl : Json.text "maybe" = w := Option.some.inj hw
    cases k with
    | unknown => exact absurd rfl hk
    | _ => simp [Kind.Spelled, Kind.word]
  have hs : parse text = .ok ⟨[], ([p] ++ v :: [p]).map fun v => Entry.ofJson (merged v), "p"⟩ :=
    (parse_eq_ok_iff h).mpr ⟨rfl, by decide⟩
  obtain ⟨es, e, es', hentries, hlength, hkind, -⟩ := entry_of_no_kind h hs rfl hv
  exact ⟨⟨h, rfl, hv⟩, _, hs, es, e, es', hentries, hlength, hkind⟩

/-! ### Entries that are read nevertheless -/

/-- A list of fields is read by position, and a kind is read from an object that holds `null` under
its word: both entries become constraints, although the one is no object and the kind of the other
is no word. -/
theorem parse_lenientEntries :
    let entries : List Json :=
      [.list [.text "fact", .text "p"],
        .object [("kind", .object [("imply", .null)]), ("if", .text "p"), ("then", .text "q")]]
    ∃ s, parse (Json.object [("rules", .list entries), ("query", .text "q")]).compactText = .ok s ∧
      s.entries = [{ kind := .fact, subject := some "p" },
        { kind := .imply, premises := some (.one "p"), conclusion := some "q" }] ∧
      ∀ {σ : Type} [Incremental σ] (t : Theory σ),
        (t.compile s).1.2.constraints = 2 ∧ (t.compile s).1.2.skipped = [] := by
  intro entries
  have h : Document (Json.object [("rules", .list entries), ("query", .text "q")]).compactText
      (.object [("rules", .list entries), ("query", .text "q")]) :=
    Json.document_compactText (by simp [Json.Fits, Json.depthLimit, entries])
  refine ⟨⟨[], entries.map fun v => Entry.ofJson (merged v), "q"⟩, ?_, rfl, fun t => ⟨rfl, rfl⟩⟩
  exact (parse_object_eq_ok_iff h (by decide)).mpr
    ⟨ofMembers?_eq_some_iff.mpr ⟨.inr ⟨rfl, rfl⟩, ⟨_, rfl, rfl⟩, rfl⟩, by decide⟩

end Sketch

end Entail
