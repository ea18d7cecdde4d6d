/-
Entail/Proofs/Sharing.lean

Theories that share one scripted solver.

All theories over one script share its log, and so one numbering of variables, while each keeps
atoms of its own.  A client starts theories and uses them in any order (`Move`).  Whatever it does,
the variable of an atom is the place of its name in the log, and every variable is that of one atom
of one theory (`Shared.Numbered`).  Each move keeps that (`Shared.Numbered.step`), hence so does a
run of moves (`Shared.Numbered.run`).

Compiling a sketch does what mentioning names and requiring constraints one by one does
(`Shared.step_compile`), so what holds after all runs of moves holds in the middle of compiling too.
Main result: what compiling a sketch asks of the solver in every state the theories can get into
(`Shared.compile_calls`).
-/
import Entail.Proofs.Calls

namespace Entail

/-! ### Moves -/

/-- Theories over one engine: the engine, and the atoms of each theory. -/
structure Shared (σ : Type) where
  engine : σ
  atoms : List (List (String × Nat)) := []

/-- What a client may do: start a theory, or use the theory with some number. -/
inductive Move where
  | start
  | mention (k : Nat) (name : String)
  | require (k : Nat) (f : Formula)
  | assume (k : Nat) (f : Formula)
  | compile (k : Nat) (sketch : Sketch)
  | decide (k : Nat) (i : Nat)

namespace Shared

variable {σ : Type}

/-- The theory with a number, changed. -/
def put (s : Shared σ) (k : Nat) (t : Theory σ) : Shared σ := ⟨t.engine, s.atoms.set k t.atoms⟩

/-- Use the theory with a number.  If there is none, nothing happens. -/
def within (s : Shared σ) (k : Nat) (act : Theory σ → Theory σ) : Shared σ :=
  match s.atoms[k]? with
  | none => s
  | some atoms => s.put k (act ⟨s.engine, atoms⟩)

variable [Incremental σ]

/-- One move. -/
def step (s : Shared σ) : Move → Shared σ
  | .start => { s with atoms := s.atoms ++ [[]] }
  | .mention k name => s.within k fun t => (t.ensure name).2
  | .require k f => s.within k fun t => t.require f
  | .assume k f => s.within k fun t => (t.assuming f).2
  | .compile k sketch => s.within k fun t => (t.compile sketch).2
  | .decide k i => s.within k fun t => (t.decide i).2

/-- Moves one after the other. -/
def run (s : Shared σ) (moves : List Move) : Shared σ := moves.foldl step s

section

variable {s : Shared σ} {k : Nat} {atoms : List (String × Nat)} {t : Theory σ}

omit [Incremental σ] in
theorem within_eq (h : s.atoms[k]? = some atoms) (act : Theory σ → Theory σ) :
    s.within k act = s.put k (act ⟨s.engine, atoms⟩) := by
  rw [within, h]

omit [Incremental σ] in
/-- To put a theory where it is changes nothing. -/
theorem put_self (h : s.atoms[k]? = some atoms) : s.put k ⟨s.engine, atoms⟩ = s := by
  obtain ⟨hk, rfl⟩ := List.getElem?_eq_some_iff.mp h
  rw [put, List.set_getElem_self]

omit [Incremental σ] in
theorem within_put (hk : k < s.atoms.length) (act : Theory σ → Theory σ) :
    (s.put k t).within k act = s.put k (act t) := by
  have hget : (s.put k t).atoms[k]? = some t.atoms := List.getElem?_set_self hk
  rw [within_eq hget, put, put, put, List.set_set]

end

/-! ### Compiling as moves -/

end Shared

/-- The move of the theory with some number that leads to the call. -/
def Called.move? (k : Nat) : Called → Option Move
  | .declared name _ => some (.mention k name)
  | .added f => some (.require k f)
  | _ => none

namespace Shared

section

variable [Incremental σ] {s : Shared σ} {k : Nat} {atoms : List (String × Nat)} {t : Theory σ}

/-- To do calls again is to make the moves that lead to them. -/
theorem run_moves (hk : k < s.atoms.length) (calls : List Called) :
    (s.put k t).run (calls.filterMap (Called.move? k)) = s.put k (calls.foldl Theory.redo t) := by
  induction calls generalizing t with
  | nil => rfl
  | cons c calls ih =>
    cases c with
    | declared name i =>
      have hmove : (s.put k t).step (.mention k name) = s.put k (t.ensure name).2 :=
        within_put hk fun t => (t.ensure name).2
      show ((s.put k t).step (.mention k name)).run _ = _
      rw [hmove]
      exact ih
    | added f =>
      have hmove : (s.put k t).step (.require k f) = s.put k (t.require f) :=
        within_put hk fun t => t.require f
      show ((s.put k t).step (.require k f)).run _ = _
      rw [hmove]
      exact ih
    | pushed | popped | checked => exact ih

/-- The moves that lead to the first calls of compiling a sketch lead to a theory with the same
engine and atoms. -/
theorem run_moves_eq (h : s.atoms[k]? = some atoms) (calls : List Called) :
    s.run (calls.filterMap (Called.move? k)) =
      s.put k (calls.foldl Theory.redo ⟨s.engine, atoms⟩) := by
  rw [← run_moves (List.getElem?_eq_some_iff.mp h).1, put_self h]

/-- **Compiling a sketch is a run of moves**, which mention a name or require a constraint each. -/
theorem step_compile (h : s.atoms[k]? = some atoms) (sketch : Sketch) :
    s.step (.compile k sketch) =
      s.run (((Theory.mk s.engine atoms).watched.compile sketch).2.calls.filterMap
        (Called.move? k)) := by
  rw [run_moves_eq h, (Theory.Told.compile _ sketch).redone, step, within_eq h,
    Theory.compile_watched]

end

/-! ### The numbers of the variables -/

/-- The variable of an atom is the place of its name, every variable is that of one atom of one
theory, and the atoms of a theory have different names. -/
structure Numbered (s : Shared Scripted) : Prop where
  name_eq : ∀ atoms ∈ s.atoms, ∀ a ∈ atoms, s.engine.log.names[a.2]? = some a.1
  handles : (s.atoms.flatten.map Prod.snd).Perm (List.range s.engine.log.names.size)
  names_nodup : ∀ atoms ∈ s.atoms, (atoms.map Prod.fst).Nodup

namespace Numbered

variable {s : Shared Scripted} {k : Nat} {t : Theory Scripted}

theorem start (script : List Outcome) : Numbered ⟨Scripted.ofScript script, []⟩ where
  name_eq := fun _ h => absurd h List.not_mem_nil
  handles := .nil
  names_nodup := fun _ h => absurd h List.not_mem_nil

/-- A name is mentioned in one of the theories. -/
theorem ensure (hk : k < s.atoms.length) (name : String) (t : Theory Scripted)
    (h : (s.put k t).Numbered) : (s.put k (t.ensure name).2).Numbered := by
  by_cases hmem : name ∈ t.names
  · rw [Theory.ensure_of_mem hmem]
    exact h
  · -- The new name gets the next number, and the other atoms keep theirs.
    have hset (atoms : List (String × Nat)) :
        s.atoms.set k atoms = s.atoms.take k ++ atoms :: s.atoms.drop (k + 1) := by
      rw [List.set_eq_take_append_cons_drop, if_pos hk]
    have hold {x : String} {i : Nat} (hi : t.engine.log.names[i]? = some x) :
        (t.engine.log.names.push name)[i]? = some x := by
      obtain ⟨hlt, rfl⟩ := Array.getElem?_eq_some_iff.mp hi
      exact Array.getElem?_push_lt hlt
    obtain ⟨hname, hhandles, hnodup⟩ := h
    simp only [put, hset, List.forall_mem_append, List.forall_mem_cons] at hname hnodup
    simp only [put, hset, List.flatten_append, List.flatten_cons, List.map_append] at hhandles
    obtain ⟨hbefore, hat, hafter⟩ := hname
    rw [Theory.ensure_of_not_mem hmem]
    refine ⟨?_, ?_, ?_⟩
    · simp only [put, hset, List.forall_mem_append, List.forall_mem_cons]
      refine ⟨?_, ⟨?_, ?_⟩, ?_⟩
      · exact fun atoms hatoms a ha => hold (hbefore atoms hatoms a ha)
      · exact Array.getElem?_push_size
      · exact fun a ha => hold (hat a ha)
      · exact fun atoms hatoms a ha => hold (hafter atoms hatoms a ha)
    · simp only [put, hset, List.flatten_append, List.flatten_cons, List.map_append,
        List.map_cons, List.cons_append]
      show (_ ++ t.engine.log.names.size :: _).Perm (List.range (t.engine.log.names.push name).size)
      rw [Array.size_push, List.range_succ]
      exact (List.perm_middle.trans (hhandles.cons _)).trans
        (List.perm_append_singleton _ _).symm
    · simp only [put, hset, List.forall_mem_append, List.forall_mem_cons]
      exact ⟨hnodup.1, List.nodup_cons.mpr ⟨hmem, hnodup.2.1⟩, hnodup.2.2⟩

theorem require (f : Formula) (t : Theory Scripted) (h : (s.put k t).Numbered) :
    (s.put k (t.require f)).Numbered := ⟨h.name_eq, h.handles, h.names_nodup⟩

theorem assuming (f : Formula) (t : Theory Scripted) (h : (s.put k t).Numbered) :
    (s.put k (t.assuming f).2).Numbered := ⟨h.name_eq, h.handles, h.names_nodup⟩

theorem compile (hk : k < s.atoms.length) (sketch : Sketch) (t : Theory Scripted)
    (h : (s.put k t).Numbered) : (s.put k (t.compile sketch).2).Numbered :=
  Theory.compile_induction (p := fun t => (s.put k t).Numbered) (ensure hk) require sketch h

/-- A theory is used. -/
theorem within {act : Theory Scripted → Theory Scripted}
    (hact : k < s.atoms.length → ∀ t, (s.put k t).Numbered → (s.put k (act t)).Numbered)
    (h : s.Numbered) : (s.within k act).Numbered := by
  cases hget : s.atoms[k]? with
  | none =>
    rw [Shared.within, hget]
    exact h
  | some atoms =>
    rw [within_eq hget]
    refine hact (List.getElem?_eq_some_iff.mp hget).1 _ ?_
    rw [put_self hget]
    exact h

/-- **Every move keeps the numbers.** -/
theorem step (h : s.Numbered) (m : Move) : (s.step m).Numbered := by
  cases m with
  | start =>
    refine ⟨?_, ?_, ?_⟩
    · exact List.forall_mem_append.mpr ⟨h.name_eq, by simp⟩
    · show ((s.atoms ++ [[]]).flatten.map Prod.snd).Perm _
      rw [List.flatten_append, List.flatten_singleton, List.append_nil]
      exact h.handles
    · exact List.forall_mem_append.mpr ⟨h.names_nodup, by simp⟩
  | mention k name => exact h.within fun hk => ensure hk name
  | require k f => exact h.within fun _ => require f
  | assume k f => exact h.within fun _ => assuming f
  | compile k sketch => exact h.within fun hk => compile hk sketch
  | decide k i => exact h.within fun _ t ht => assuming _ _ (assuming _ t ht)

theorem run (h : s.Numbered) (moves : List Move) : (s.run moves).Numbered := by
  induction moves generalizing s with
  | nil => exact h
  | cons m moves ih => exact ih (h.step m)

end Numbered

/-! ### Compiling in any state -/

/-- **What compiling a sketch asks of a scripted solver**, in every state that theories which share
it can get into.

The variable of an atom is the place of its name in the log, and every variable is that of one atom
of one theory.  Compiling a sketch into one of the theories, say `t`, is a run of moves, so that is
so in the middle of it as well.  It declares the names that `t` does not know, in the order in which
the sketch mentions them, and adds one constraint for each rule, in order, which says what the rule
says and speaks of atoms that `t` has by then.  It does nothing else, and the log shows it.  The
report counts the rules, and skips the other entries. -/
theorem compile_calls (script : List Outcome) (moves : List Move) :
    let s := run ⟨Scripted.ofScript script, []⟩ moves
    ((∀ atoms ∈ s.atoms, ∀ a ∈ atoms, s.engine.log.names[a.2]? = some a.1) ∧
      (s.atoms.flatten.map Prod.snd).Perm (List.range s.engine.log.names.size)) ∧
    ∀ k atoms sketch, s.atoms[k]? = some atoms →
      let t : Theory Scripted := ⟨s.engine, atoms⟩
      let compiled := t.watched.compile sketch
      let calls := compiled.2.calls
      let after (calls : List Called) := s.run (calls.filterMap (Called.move? k))
      let declared := (calls.filterMap Called.atom?).map Prod.fst
      let added := calls.filterMap Called.constraint?
      let report := compiled.1.2
      (t.compile sketch = (compiled.1, compiled.2.unwatched) ∧
        s.step (.compile k sketch) = after calls ∧
        (after calls).engine.log.names.toList = s.engine.log.names.toList ++ declared ∧
        (after calls).engine.log.constraints.toList = s.engine.log.constraints.toList ++ added ∧
        ∀ c ∈ calls, c.Builds) ∧
      (declared = (sketch.mentions.filter (· ∉ t.names)).eraseDups ∧
        compiled.2.atoms = (calls.filterMap Called.atom?).reverse ++ atoms) ∧
      (List.Forall₂ (fun f r => ∀ v, f.eval v = true ↔
          r.Holds fun name => v ((compiled.2.atoms.lookup name).getD 0)) added sketch.rules ∧
        ∀ before f, before ++ [.added f] <+: calls →
          ∃ known, (after before).atoms[k]? = some known ∧ ∀ i ∈ f.vars, i ∈ known.map Prod.snd) ∧
      (report.constraints = sketch.rules.length ∧
        report.constraints + report.skipped.length = sketch.entries.length ∧
        report.skipped.Pairwise (fun a b => a.1 < b.1) ∧
        ∀ n d, (n, d) ∈ report.skipped ↔
          ∃ e, sketch.entries[n]? = some e ∧ e.rule? = .error d) := by
  intro s
  have hnumbered : s.Numbered := (Numbered.start script).run moves
  refine ⟨⟨hnumbered.name_eq, hnumbered.handles⟩, ?_⟩
  intro k atoms sketch hk t compiled calls after declared added report
  have hlt : k < s.atoms.length := (List.getElem?_eq_some_iff.mp hk).1
  have htold : Theory.Told t sketch.mentions sketch.rules compiled.2 := .compile t sketch
  have hafter (calls : List Called) : after calls = s.put k (calls.foldl Theory.redo t) :=
    run_moves_eq hk calls
  have hdone : after calls = s.put k compiled.2.unwatched := by
    rw [hafter, htold.redone]
  obtain ⟨hnames, hconstraints⟩ := Theory.log_compile t sketch
  refine ⟨⟨Theory.compile_watched t sketch, step_compile hk sketch, ?_, ?_, htold.builds⟩,
    ⟨htold.declared_eq, htold.atoms_eq⟩, ⟨?_, ?_⟩, ?_⟩
  · rw [hdone]
    exact hnames
  · rw [hdone]
    exact hconstraints
  · have hcompiled : (s.put k compiled.2.unwatched).Numbered := by
      rw [← hdone]
      exact hnumbered.run _
    have hnodup : (compiled.2.atoms.map Prod.fst).Nodup :=
      hcompiled.names_nodup _ (List.mem_set hlt _)
    exact htold.added.imp fun _ _ hmeans => hmeans.eval_iff hnodup
  · intro before f hprefix
    refine ⟨_, ?_, htold.vars before f hprefix⟩
    rw [hafter]
    exact List.getElem?_set_self hlt
  · obtain ⟨hcount, hlength⟩ := Theory.constraints_compile sketch t.watched
    exact ⟨hcount, hlength, Theory.skipped_compile_pairwise sketch t.watched,
      fun n d => Theory.mem_skipped_compile sketch t.watched⟩

/-- Two theories, each with an atom of its own. -/
def twoTheories : List Move := [.start, .start, .mention 1 "b", .mention 0 "a"]

/-- A fact, an entry that is no rule, an implication, and a fact without a subject. -/
def patchySketch : Sketch where
  declared := ["a"]
  entries := [.fact "c" true, {}, .ifThen ["b", "a"] "c", .fact "" false]
  query := "d"

/-- The second theory knows `b` but not `a`, although the solver has a variable of that name. -/
theorem compile_calls_patchySketch :
    let s := run ⟨Scripted.ofScript [], []⟩ twoTheories
    let s' := s.step (.compile 1 patchySketch)
    s.atoms[1]? = some [("b", 0)] ∧
    s'.engine.log.names.toList = ["b", "a", "a", "c", "d"] ∧
    s'.engine.log.constraints.size = 2 ∧
    ∃ report : Report, (1, .unknownKind) ∈ report.skipped ∧ (3, .missingSubject) ∈ report.skipped ∧
      report.constraints + report.skipped.length = 4 := by
  intro s s'
  have hk : s.atoms[1]? = some [("b", 0)] := by decide
  obtain ⟨-, hcompile⟩ := compile_calls [] twoTheories
  obtain ⟨⟨-, hstep, hnames, hconstraints, -⟩, ⟨hdeclared, -⟩, ⟨hadded, -⟩, hreport⟩ :=
    hcompile 1 _ patchySketch hk
  obtain ⟨-, hlength, -, hskipped⟩ := hreport
  refine ⟨hk, ?_, ?_, _, (hskipped 1 _).mpr ⟨_, rfl, rfl⟩, (hskipped 3 _).mpr ⟨_, rfl, rfl⟩,
    hlength⟩
  · show (s.step (.compile 1 patchySketch)).engine.log.names.toList = _
    rw [hstep, hnames, hdeclared]
    decide
  · show (s.step (.compile 1 patchySketch)).engine.log.constraints.size = _
    rw [hstep, ← Array.length_toList, hconstraints, List.length_append, hadded.length_eq]
    decide

end Shared

end Entail
