/-
Entail/Proofs/Calls.lean

What compiling a sketch asks of a solver.

A solver may keep a log of the calls on it (`Called`).  It answers as it does without one, so a
theory over it compiles a sketch as it does without (`Theory.compile_watched`).  While a sketch is
compiled the log grows in step with what was read of the sketch: its declarations are those of the
names mentioned so far that were not known, and its constraints those of the rules so far
(`Theory.Told`).  Each part of compiling keeps that in step, and so does compiling as a whole
(`Theory.Told.compile`).

The report has its numbers from the list of entries alone (`Theory.skipped_compileEntries`).
-/
import Entail.Proofs.Probing
import Entail.Proofs.Purposes
import Entail.Proofs.Recording
import Entail.Scripted
import Mathlib.Data.List.Forall2

namespace Entail

/-! ### Keeping a log of calls -/

/-- A call on a solver, with what came back. -/
inductive Called where
  | declared (name : String) (i : Nat)
  | added (constraint : Formula)
  | pushed
  | popped
  | checked (outcome : Outcome)

namespace Called

/-- The name that is declared, with its variable. -/
def atom? : Called → Option (String × Nat)
  | declared name i => some (name, i)
  | _ => none

/-- The constraint that is added. -/
def constraint? : Called → Option Formula
  | added f => some f
  | _ => none

/-- The call opens or closes no scope and checks nothing. -/
def Builds : Called → Prop
  | declared _ _ | added _ => True
  | pushed | popped | checked _ => False

end Called

/-- Every call is written to the log. -/
instance {σ : Type} [Incremental σ] : Incremental (Recorded σ Called) where
  declare name s :=
    let (i, state) := Incremental.declare name s.state
    (i, ⟨state, s.log ++ [.declared name i]⟩)
  add f s := ⟨Incremental.add f s.state, s.log ++ [.added f]⟩
  push s := ⟨Incremental.push s.state, s.log ++ [.pushed]⟩
  pop s := ⟨Incremental.pop s.state, s.log ++ [.popped]⟩
  check s :=
    let (outcome, state) := Incremental.check s.state
    (outcome, ⟨state, s.log ++ [.checked outcome]⟩)

variable {σ : Type} [Incremental σ]

/-- Keeping a log changes nothing. -/
theorem Recorded.view_state : Incremental.View (Recorded.state : Recorded σ Called → σ) :=
  ⟨fun _ _ => rfl, fun _ _ => rfl, fun _ => rfl, fun _ => rfl, fun _ => rfl⟩

/-! ### What a constraint says -/

/-- The formula says of the variables what the rule says of their names. -/
def Formula.Expresses (atoms : List (String × Nat)) (f : Formula) (r : Rule) : Prop :=
  ∀ ρ v, Agrees atoms ρ v → (f.eval v = true ↔ r.Holds ρ)

/-- Further atoms do not change what a constraint says. -/
theorem Formula.Expresses.of_suffix {atoms atoms' : List (String × Nat)} {f : Formula} {r : Rule}
    (h : f.Expresses atoms r) (hatoms : atoms <:+ atoms') : f.Expresses atoms' r := by
  intro ρ v hagrees
  exact h ρ v (hagrees.of_suffix hatoms)

/-- Over atoms with different names a constraint gives its rule's meaning under every assignment:
the values of the variables are those of the names. -/
theorem Formula.Expresses.eval_iff {atoms : List (String × Nat)} {f : Formula} {r : Rule}
    (h : f.Expresses atoms r) (hnodup : (atoms.map Prod.fst).Nodup) (v : Assignment) :
    f.eval v = true ↔ r.Holds fun name => v ((atoms.lookup name).getD 0) := by
  refine h _ v fun a ha => ?_
  rw [lookup_eq_of_mem hnodup ha]
  rfl

/-! ### What a sketch mentions -/

/-- The names of a rule, in the order in which they are mentioned. -/
def Rule.names : Rule → List String
  | .fact subject _ => [subject]
  | .implication premises conclusion _ => premises ++ [conclusion]

/-- The names of a sketch, in the order in which they are mentioned.  Entries that are no rules
mention none. -/
def Sketch.mentions (s : Sketch) : List String :=
  s.declared ++ s.rules.flatMap Rule.names ++ [s.query]

/-- A further name is a new one if it is not known and not among the names before it. -/
theorem eraseDups_filter_concat (known names : List String) (name : String) :
    ((names ++ [name]).filter (· ∉ known)).eraseDups =
      (names.filter (· ∉ known)).eraseDups ++
        if name ∈ known ∨ name ∈ names then [] else [name] := by
  rw [List.filter_append, List.eraseDups_append]
  congr 1
  by_cases hknown : name ∈ known
  · simp [hknown, List.removeAll]
  · by_cases hname : name ∈ names <;> simp [hknown, hname, List.removeAll, List.eraseDups_cons]

namespace Theory

/-- The theory, with an empty log. -/
def watched (t : Theory σ) : Theory (Recorded σ Called) := ⟨⟨t.engine, []⟩, t.atoms⟩

/-- The theory without its log. -/
def unwatched (t : Theory (Recorded σ Called)) : Theory σ := t.map Recorded.state

/-- The calls on the theory's solver so far. -/
def calls (t : Theory (Recorded σ Called)) : List Called := t.engine.log

/-- A sketch is compiled alike with a log and without. -/
theorem compile_watched (t : Theory σ) (sketch : Sketch) :
    t.compile sketch = ((t.watched.compile sketch).1, (t.watched.compile sketch).2.unwatched) :=
  compile_map Recorded.view_state sketch t.watched

/-- Do again what led to a call. -/
def redo (t : Theory σ) : Called → Theory σ
  | .declared name _ => (t.ensure name).2
  | .added f => t.require f
  | _ => t

/-- The calls on a theory are what mentioning some names and requiring some rules asks for. -/
structure Told (start : Theory σ) (mentions : List String) (rules : List Rule)
    (t : Theory (Recorded σ Called)) : Prop where
  builds : ∀ c ∈ t.calls, c.Builds
  /-- Exactly the names that were not known are declared. -/
  declared_eq : (t.calls.filterMap Called.atom?).map Prod.fst =
    (mentions.filter (· ∉ start.names)).eraseDups
  /-- The declared names are atoms, with the variables they were declared with. -/
  atoms_eq : t.atoms = (t.calls.filterMap Called.atom?).reverse ++ start.atoms
  /-- Every constraint says what its rule says. -/
  added : List.Forall₂ (Formula.Expresses t.atoms) (t.calls.filterMap Called.constraint?) rules
  /-- The calls, done again one after the other, lead to the same theory. -/
  redone : t.calls.foldl redo start = t.unwatched
  /-- The variables of a constraint are those of atoms by the time it is added. -/
  vars : ∀ before f, before ++ [.added f] <+: t.calls →
    ∀ i ∈ f.vars, i ∈ (before.foldl redo start).atoms.map Prod.snd

section

variable {τ : Type} [Incremental τ] {t : Theory τ} {name : String}

theorem ensure_of_mem (h : name ∈ t.names) : (t.ensure name).2 = t := by
  unfold ensure
  split
  case _ => rfl
  case _ hnone => exact absurd h (lookup_eq_none_iff_not_mem.mp hnone)

theorem ensure_of_not_mem (h : name ∉ t.names) :
    (t.ensure name).2 = ⟨(Incremental.declare name t.engine).2,
      (name, (Incremental.declare name t.engine).1) :: t.atoms⟩ := by
  unfold ensure
  rw [lookup_eq_none_iff_not_mem.mpr h]

end

namespace Told

variable {start : Theory σ} {mentions : List String} {rules : List Rule}
  {t : Theory (Recorded σ Called)}

theorem watched (start : Theory σ) : Told start [] [] start.watched where
  builds := fun c hc => absurd hc List.not_mem_nil
  declared_eq := rfl
  atoms_eq := rfl
  added := .nil
  redone := rfl
  vars := by
    intro before f hprefix
    exact absurd (List.prefix_nil.mp hprefix) (by simp)

/-- The names that are known are those of the start and those that were mentioned. -/
theorem mem_names_iff (h : Told start mentions rules t) {name : String} :
    name ∈ t.names ↔ name ∈ start.names ∨ name ∈ mentions := by
  have hnames : t.names = (mentions.filter (· ∉ start.names)).eraseDups.reverse ++ start.names := by
    rw [names, h.atoms_eq, List.map_append, List.map_reverse, h.declared_eq, names]
  rw [hnames]
  simp only [List.mem_append, List.mem_reverse, List.mem_eraseDups, List.mem_filter,
    decide_eq_true_eq]
  tauto

/-- A name is mentioned. -/
theorem ensure (h : Told start mentions rules t) (name : String) :
    Told start (mentions ++ [name]) rules (t.ensure name).2 := by
  by_cases hmem : name ∈ t.names
  · -- The name is known, so nothing is asked.
    rw [ensure_of_mem hmem]
    refine ⟨h.builds, ?_, h.atoms_eq, h.added, h.redone, h.vars⟩
    rw [eraseDups_filter_concat, if_pos (h.mem_names_iff.mp hmem), List.append_nil, h.declared_eq]
  · -- The name is new, and its declaration is the last call.
    obtain ⟨i, hcalls, hatoms⟩ : ∃ i, (t.ensure name).2.calls = t.calls ++ [.declared name i] ∧
        (t.ensure name).2.atoms = (name, i) :: t.atoms := by
      rw [ensure_of_not_mem hmem]
      exact ⟨_, rfl, rfl⟩
    refine ⟨?_, ?_, ?_, ?_, ?_, ?_⟩
    · rw [hcalls]
      exact List.forall_mem_append.mpr ⟨h.builds, List.forall_mem_singleton.mpr trivial⟩
    · rw [hcalls, eraseDups_filter_concat, if_neg (mt h.mem_names_iff.mpr hmem),
        List.filterMap_append, List.map_append, h.declared_eq]
      rfl
    · rw [hatoms, hcalls, List.filterMap_append, List.reverse_append, h.atoms_eq]
      rfl
    · rw [hcalls, List.filterMap_append, hatoms]
      show List.Forall₂ _ (_ ++ []) rules
      rw [List.append_nil]
      exact h.added.imp fun _ _ hfr => hfr.of_suffix (List.suffix_cons _ _)
    · rw [hcalls, List.foldl_concat, h.redone]
      exact congrArg Prod.snd (ensure_map Recorded.view_state name t)
    · rw [hcalls]
      intro before f hprefix
      rcases List.prefix_concat_iff.mp hprefix with heq | hprefix
      · exact absurd (List.append_inj_right' heq rfl) (by simp)
      · exact h.vars before f hprefix

theorem ensureAll (h : Told start mentions rules t) (names : List String) :
    Told start (mentions ++ names) rules (t.ensureAll names).2 := by
  induction names generalizing mentions t with
  | nil =>
    rw [List.append_nil]
    exact h
  | cons name names ih =>
    rw [← List.singleton_append, ← List.append_assoc]
    exact ih (h.ensure name)

theorem formulaOf (h : Told start mentions rules t) (r : Rule) :
    Told start (mentions ++ r.names) rules (t.formulaOf r).2 := by
  cases r with
  | fact subject value => exact h.ensure subject
  | implication premises conclusion value =>
    rw [Rule.names, ← List.append_assoc]
    exact (h.ensureAll premises).ensure conclusion

/-- A constraint is added that says what a rule says. -/
theorem require (h : Told start mentions rules t) {f : Formula} {r : Rule}
    (hvars : ∀ i ∈ f.vars, i ∈ t.atoms.map Prod.snd)
    (hmeans : f.Expresses t.atoms r) :
    Told start mentions (rules ++ [r]) (t.require f) := by
  have hcalls : (t.require f).calls = t.calls ++ [.added f] := rfl
  refine ⟨?_, ?_, ?_, ?_, ?_, ?_⟩
  · rw [hcalls]
    exact List.forall_mem_append.mpr ⟨h.builds, List.forall_mem_singleton.mpr trivial⟩
  · rw [hcalls, List.filterMap_append, List.map_append, h.declared_eq]
    exact List.append_nil _
  · rw [hcalls, List.filterMap_append]
    show t.atoms = (_ ++ []).reverse ++ start.atoms
    rw [List.append_nil, h.atoms_eq]
  · rw [hcalls, List.filterMap_append]
    exact List.rel_append h.added (.cons hmeans .nil)
  · rw [hcalls, List.foldl_concat, h.redone]
    exact require_map Recorded.view_state f t
  · rw [hcalls]
    intro before g hprefix
    rcases List.prefix_concat_iff.mp hprefix with heq | hprefix
    · -- The constraint is the last call, and its variables are those of atoms by now.
      obtain ⟨rfl, hg⟩ := List.append_inj' heq rfl
      obtain rfl := Called.added.inj (List.singleton_inj.mp hg)
      rw [h.redone]
      exact hvars
    · exact h.vars before g hprefix

/-- The entries of a list are compiled. -/
theorem compileEntries (h : Told start mentions rules t) (n : Nat) (es : List Entry) :
    Told start (mentions ++ (compiled es).flatMap Rule.names) (rules ++ compiled es)
      (t.compileEntries n es).2 := by
  induction es generalizing n mentions rules t with
  | nil =>
    show Told start (mentions ++ []) (rules ++ []) t
    rw [List.append_nil, List.append_nil]
    exact h
  | cons e es ih =>
    cases he : e.rule? with
    | error d =>
      rw [compileEntries_of_error he, compiled_cons_of_error he]
      exact ih h (n + 1)
    | ok r =>
      rw [compileEntries_of_ok he, compiled_cons_of_ok he, List.flatMap_cons, ← List.append_assoc,
        ← List.singleton_append, ← List.append_assoc]
      exact ih ((h.formulaOf r).require (vars_formulaOf r t) fun _ _ => eval_formulaOf r t) (n + 1)

/-- **What compiling a sketch asks for**: the names it mentions, and its rules. -/
theorem compile (start : Theory σ) (sketch : Sketch) :
    Told start sketch.mentions sketch.rules (start.watched.compile sketch).2 :=
  (((Told.watched start).ensureAll sketch.declared).compileEntries 0 sketch.entries).ensure
    sketch.query

end Told

/-! ### The log of a scripted solver -/

/-- What a scripted solver has written down is what the calls on it ask for. -/
theorem log_compile (start : Theory Scripted) (sketch : Sketch) :
    let compiled := (start.watched.compile sketch).2
    compiled.engine.state.log.names.toList = start.engine.log.names.toList ++
        (compiled.calls.filterMap Called.atom?).map Prod.fst ∧
      compiled.engine.state.log.constraints.toList = start.engine.log.constraints.toList ++
        compiled.calls.filterMap Called.constraint? := by
  refine compile_induction (p := fun t : Theory (Recorded Scripted Called) =>
    t.engine.state.log.names.toList = start.engine.log.names.toList ++
        (t.calls.filterMap Called.atom?).map Prod.fst ∧
      t.engine.state.log.constraints.toList = start.engine.log.constraints.toList ++
        t.calls.filterMap Called.constraint?) ?_ ?_ sketch ?_
  · rintro name t ⟨hnames, hconstraints⟩
    by_cases hmem : name ∈ t.names
    · rw [ensure_of_mem hmem]
      exact ⟨hnames, hconstraints⟩
    · rw [ensure_of_not_mem hmem]
      constructor
      · show (t.engine.state.log.names.push name).toList =
          _ ++ ((t.calls ++ [_]).filterMap Called.atom?).map Prod.fst
        rw [Array.toList_push, hnames, List.filterMap_append, List.map_append, List.append_assoc]
        rfl
      · show t.engine.state.log.constraints.toList =
          _ ++ (t.calls ++ [_]).filterMap Called.constraint?
        rw [hconstraints, List.filterMap_append]
        exact congrArg _ (List.append_nil _).symm
  · rintro f t ⟨hnames, hconstraints⟩
    constructor
    · show t.engine.state.log.names.toList =
        _ ++ ((t.calls ++ [_]).filterMap Called.atom?).map Prod.fst
      rw [hnames, List.filterMap_append, List.map_append]
      exact congrArg _ (List.append_nil _).symm
    · show (t.engine.state.log.constraints.push f).toList =
        _ ++ (t.calls ++ [_]).filterMap Called.constraint?
      rw [Array.toList_push, hconstraints, List.filterMap_append, List.append_assoc]
      rfl
  · exact ⟨(List.append_nil _).symm, (List.append_nil _).symm⟩

/-! ### The report -/

/-- The defect of an entry that is no rule, with its position. -/
def defectAt (entry : Entry × Nat) : Option (Nat × Defect) :=
  match entry.1.rule? with
  | .error d => some (entry.2, d)
  | .ok _ => none

theorem defectAt_eq_some_iff {entry : Entry × Nat} {n : Nat} {d : Defect} :
    defectAt entry = some (n, d) ↔ entry.2 = n ∧ entry.1.rule? = .error d := by
  unfold defectAt
  cases entry.1.rule? <;> simp

/-- The entries that are skipped are those that are no rules, with their positions. -/
theorem skipped_compileEntries (n : Nat) (es : List Entry) (t : Theory σ) :
    (t.compileEntries n es).1.1 = (es.zipIdx n).filterMap defectAt := by
  induction es generalizing n t with
  | nil => rfl
  | cons e es ih =>
    cases he : e.rule? with
    | error d =>
      have hdefect : defectAt (e, n) = some (n, d) := defectAt_eq_some_iff.mpr ⟨rfl, he⟩
      rw [report_of_error he, List.zipIdx_cons, List.filterMap_cons_some hdefect, ih (n + 1) t]
    | ok r =>
      have hdefect : defectAt (e, n) = none := by
        unfold defectAt
        rw [he]
      rw [report_of_ok he, List.zipIdx_cons, List.filterMap_cons_none hdefect, ih (n + 1)]

theorem count_compileEntries (n : Nat) (es : List Entry) (t : Theory σ) :
    (t.compileEntries n es).1.2 = (compiled es).length ∧
      (t.compileEntries n es).1.2 + (t.compileEntries n es).1.1.length = es.length := by
  induction es generalizing n t with
  | nil => exact ⟨rfl, rfl⟩
  | cons e es ih =>
    cases he : e.rule? with
    | error d =>
      obtain ⟨hcount, hlength⟩ := ih (n + 1) t
      rw [report_of_error he, compiled_cons_of_error he, List.length_cons, List.length_cons,
        ← hlength]
      exact ⟨hcount, rfl⟩
    | ok r =>
      obtain ⟨hcount, hlength⟩ :=
        ih (n + 1) ((t.formulaOf r).2.require (t.formulaOf r).1)
      rw [report_of_ok he, compiled_cons_of_ok he, List.length_cons, List.length_cons, ← hlength,
        hcount]
      exact ⟨rfl, Nat.add_right_comm _ _ _⟩

section

variable (sketch : Sketch) (t : Theory σ)

/-- Every entry adds one constraint or is skipped. -/
theorem constraints_compile :
    (t.compile sketch).1.2.constraints = sketch.rules.length ∧
      (t.compile sketch).1.2.constraints + (t.compile sketch).1.2.skipped.length =
        sketch.entries.length :=
  count_compileEntries 0 sketch.entries (t.ensureAll sketch.declared).2

theorem skipped_compile :
    (t.compile sketch).1.2.skipped = sketch.entries.zipIdx.filterMap defectAt :=
  skipped_compileEntries 0 sketch.entries (t.ensureAll sketch.declared).2

/-- An entry is skipped if it is no rule, for what is wrong with it. -/
theorem mem_skipped_compile {n : Nat} {d : Defect} :
    (n, d) ∈ (t.compile sketch).1.2.skipped ↔
      ∃ e, sketch.entries[n]? = some e ∧ e.rule? = .error d := by
  rw [skipped_compile, List.mem_filterMap]
  constructor
  · rintro ⟨⟨e, i⟩, hmem, hdefect⟩
    obtain ⟨rfl, hd⟩ := defectAt_eq_some_iff.mp hdefect
    exact ⟨e, List.mk_mem_zipIdx_iff_getElem?.mp hmem, hd⟩
  · rintro ⟨e, he, hd⟩
    exact ⟨(e, n), List.mk_mem_zipIdx_iff_getElem?.mpr he, defectAt_eq_some_iff.mpr ⟨rfl, hd⟩⟩

/-- The positions of the skipped entries ascend. -/
theorem skipped_compile_pairwise :
    (t.compile sketch).1.2.skipped.Pairwise fun a b => a.1 < b.1 := by
  have hpositions : sketch.entries.zipIdx.Pairwise fun a b => a.2 < b.2 := by
    rw [← List.pairwise_map, List.zipIdx_map_snd]
    exact List.pairwise_lt_range'
  rw [skipped_compile]
  refine hpositions.filterMap defectAt ?_
  rintro a a' hlt ⟨i, d⟩ ha ⟨i', d'⟩ ha'
  rw [← (defectAt_eq_some_iff.mp ha).1, ← (defectAt_eq_some_iff.mp ha').1]
  exact hlt

end

end Theory

end Entail
