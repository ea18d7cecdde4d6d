/-
Entail/Proofs/Purposes.lean

What the variables of a solver are for.

Besides the constant a solver takes variables for three purposes: as handles for its client, as
switches of scopes, and for the connectives it encodes.  It keeps no record of which is which, and
switches and connectives stay in its clauses long after they were of use.  `Labelled` is a solver
that does keep the record.  Labels change nothing (`Labelled.view_solver`), and since what is seen
of a state through a view behaves alike under whole theories (`Theory.after_map`), what the labels
say of a theory's variables is so for a theory without labels.

Main result: in a theory in use, every variable but the constant has exactly one purpose, and the
atoms have the handles (`Theory.accounted_after`).
-/
import Entail.Proofs.Uses
import Mathlib.Data.List.Range

namespace Entail

/-! ### Views -/

/-- What `view` shows of a state behaves as a state of its own. -/
structure Incremental.View {σ τ : Type} [Incremental σ] [Incremental τ] (view : σ → τ) : Prop where
  declare_eq : ∀ name s, declare name (view s) = ((declare name s).1, view (declare name s).2)
  add_eq : ∀ f s, add f (view s) = view (add f s)
  push_eq : ∀ s, push (view s) = view (push s)
  pop_eq : ∀ s, pop (view s) = view (pop s)
  check_eq : ∀ s, check (view s) = ((check s).1, view (check s).2)

namespace Theory

variable {σ τ : Type} [Incremental σ] [Incremental τ] {view : σ → τ}

/-- The theory over what is seen of its state. -/
def map (view : σ → τ) (t : Theory σ) : Theory τ := ⟨view t.engine, t.atoms⟩

section

variable (hview : Incremental.View view)
include hview

theorem ensure_map (name : String) (t : Theory σ) :
    (t.map view).ensure name = ((t.ensure name).1, (t.ensure name).2.map view) := by
  simp only [ensure, map, hview.declare_eq]
  split <;> rfl

theorem ensureAll_map (names : List String) (t : Theory σ) :
    (t.map view).ensureAll names = ((t.ensureAll names).1, (t.ensureAll names).2.map view) := by
  induction names generalizing t with
  | nil => rfl
  | cons name names ih => simp only [ensureAll, ensure_map hview, ih]

theorem formulaOf_map (r : Rule) (t : Theory σ) :
    (t.map view).formulaOf r = ((t.formulaOf r).1, (t.formulaOf r).2.map view) := by
  cases r <;> simp only [formulaOf, ensure_map hview, ensureAll_map hview]

theorem require_map (f : Formula) (t : Theory σ) :
    (t.map view).require f = (t.require f).map view := by
  simp only [require, map, hview.add_eq]

theorem compileEntries_map (n : Nat) (es : List Entry) (t : Theory σ) :
    (t.map view).compileEntries n es =
      ((t.compileEntries n es).1, (t.compileEntries n es).2.map view) := by
  induction es generalizing n t with
  | nil => rfl
  | cons e es ih =>
    cases he : e.rule? <;>
      simp only [compileEntries, he, formulaOf_map hview, require_map hview, ih]

theorem compile_map (sketch : Sketch) (t : Theory σ) :
    (t.map view).compile sketch = ((t.compile sketch).1, (t.compile sketch).2.map view) := by
  simp only [compile, ensureAll_map hview, compileEntries_map hview, ensure_map hview]

theorem assuming_map (f : Formula) (t : Theory σ) :
    (t.map view).assuming f = ((t.assuming f).1, (t.assuming f).2.map view) := by
  simp only [assuming, map, hview.push_eq, hview.add_eq, hview.check_eq, hview.pop_eq]

theorem decide_map (i : Nat) (t : Theory σ) :
    (t.map view).decide i = ((t.decide i).1, (t.decide i).2.map view) := by
  simp only [Theory.decide, assuming_map hview]

theorem use_map (u : Use) (t : Theory σ) :
    (t.map view).use u = ((t.use u).1, (t.use u).2.map view) := by
  cases u with
  | mention name => simp only [use, ensure_map hview]
  | require s => exact congrArg _ (require_map hview _ t)
  | compile sketch => simp only [use, compile_map hview]
  | assume s => exact congrArg (fun r => (Use.Result.outcome r.1, r.2)) (assuming_map hview _ t)
  | decide name => exact congrArg (fun r => (Use.Result.decision r.1, r.2)) (decide_map hview _ t)

/-- **A view of a theory behaves as a theory.** -/
theorem after_map (uses : List Use) (t : Theory σ) :
    (t.map view).after uses = (t.after uses).map view := by
  induction uses generalizing t with
  | nil => rfl
  | cons u uses ih => simp only [after, use_map hview, ih]

end

end Theory

/-! ### Labels -/

/-- A solver that keeps a record of what its variables were taken for. -/
structure Labelled where
  solver : Solver
  handles : List Nat := []
  switches : List Nat := []
  connectives : List Nat := []

namespace Labelled

/-- The variables that the second solver has and the first has not. -/
def taken (s s' : Solver) : List Nat := List.range' s.size (s'.size - s.size)

/-- What a declaration takes is a handle, what adding a formula takes is for its connectives, and
what opening a scope takes is its switch. -/
instance [SatEngine] : Incremental Labelled where
  declare name s :=
    let (i, solver) := Incremental.declare name s.solver
    (i, { s with solver, handles := taken s.solver solver ++ s.handles })
  add f s :=
    let solver := Incremental.add f s.solver
    { s with solver, connectives := taken s.solver solver ++ s.connectives }
  push s :=
    let solver := Incremental.push s.solver
    { s with solver, switches := taken s.solver solver ++ s.switches }
  pop s := { s with solver := Incremental.pop s.solver }
  check s :=
    let (outcome, solver) := Incremental.check s.solver
    (outcome, { s with solver })

/-- A solver with nothing in it. -/
def fresh : Labelled := { solver := Solver.fresh }

/-- Labels change nothing. -/
theorem view_solver [SatEngine] : Incremental.View Labelled.solver :=
  ⟨fun _ _ => rfl, fun _ _ => rfl, fun _ => rfl, fun _ => rfl, fun _ => rfl⟩

/-- All variables with a label. -/
def labelled (s : Labelled) : List Nat := s.handles ++ (s.switches ++ s.connectives)

/-- Every variable in use is the constant or has one label. -/
def Accounted (s : Labelled) : Prop := (0 :: s.labelled).Perm (List.range s.solver.size)

end Labelled

/-! ### Variables are taken and never given back -/

namespace Solver

theorem size_guarded (c : Clause) (s : Solver) : (s.guarded c).size = s.size := by
  obtain ⟨size, clauses, scopes⟩ := s
  cases scopes <;> rfl

theorem size_defineAnd (ls : List Literal) (s : Solver) : (defineAnd ls s).2.size = s.size + 1 := by
  simp only [defineAnd, newVar]
  rw [foldl_require]
  rfl

theorem size_defineOr (ls : List Literal) (s : Solver) : (defineOr ls s).2.size = s.size + 1 := by
  simp only [defineOr, newVar]
  rw [foldl_require]
  rfl

theorem size_le_encodeAll {fs : List Formula}
    (hfs : ∀ f ∈ fs, ∀ s : Solver, s.size ≤ (encode f s).2.size) (s : Solver) :
    s.size ≤ (encodeAll fs s).2.size := by
  induction fs generalizing s with
  | nil => exact Nat.le_refl _
  | cons f fs ih =>
    rw [List.forall_mem_cons] at hfs
    exact (hfs.1 s).trans (ih hfs.2 _)

theorem size_le_encode (f : Formula) (s : Solver) : s.size ≤ (encode f s).2.size := by
  induction f generalizing s with
  | var i => exact Nat.le_refl _
  | not f ih => exact ih s
  | and fs ih =>
    cases fs with
    | nil => exact Nat.le_refl _
    | cons f fs =>
      rw [encode, size_defineAnd]
      exact (size_le_encodeAll ih s).trans (Nat.le_succ _)
  | or fs ih =>
    cases fs with
    | nil => exact Nat.le_refl _
    | cons f fs =>
      rw [encode, size_defineOr]
      exact (size_le_encodeAll ih s).trans (Nat.le_succ _)

theorem size_le_addAll {fs : List Formula}
    (hfs : ∀ f ∈ fs, ∀ s : Solver, s.size ≤ (add f s).size) (s : Solver) :
    s.size ≤ (addAll fs s).size := by
  induction fs generalizing s with
  | nil => exact Nat.le_refl _
  | cons f fs ih =>
    rw [List.forall_mem_cons] at hfs
    exact (hfs.1 s).trans (ih hfs.2 _)

theorem size_le_add (f : Formula) (s : Solver) : s.size ≤ (add f s).size := by
  induction f generalizing s with
  | var i => exact (size_guarded _ s).ge
  | not f ih =>
    rw [add, size_guarded]
    exact size_le_encode f s
  | and fs ih => exact size_le_addAll ih s
  | or fs ih =>
    rw [add, size_guarded]
    exact size_le_encodeAll (fun f _ => size_le_encode f) s

theorem size_pop (s : Solver) : s.pop.size = s.size := by
  obtain ⟨size, clauses, scopes⟩ := s
  cases scopes <;> rfl

end Solver

/-! ### Every variable has one purpose -/

namespace Labelled

/-- The variables of a greater solver are those of the smaller one and those taken in between. -/
theorem range_eq_append_taken {s s' : Solver} (h : s.size ≤ s'.size) :
    List.range s'.size = List.range s.size ++ taken s s' := by
  have happend := @List.range'_append_1 0 s.size (s'.size - s.size)
  rw [Nat.zero_add, Nat.add_sub_cancel' h] at happend
  rw [taken, List.range_eq_range', List.range_eq_range', happend]

theorem taken_of_size_eq_succ {s s' : Solver} (h : s'.size = s.size + 1) :
    taken s s' = [s.size] := by
  rw [taken, h, Nat.add_sub_cancel_left, List.range'_one]

theorem accounted_fresh : fresh.Accounted := List.Perm.refl _

/-- Whatever is taken has to be labelled. -/
theorem Accounted.take {s s' : Labelled} (h : s.Accounted) (hle : s.solver.size ≤ s'.solver.size)
    (hlabelled : s'.labelled.Perm (taken s.solver s'.solver ++ s.labelled)) : s'.Accounted :=
  calc (0 :: s'.labelled).Perm (0 :: (taken s.solver s'.solver ++ s.labelled)) := hlabelled.cons 0
    _ |>.Perm (taken s.solver s'.solver ++ 0 :: s.labelled) := List.perm_middle.symm
    _ |>.Perm (taken s.solver s'.solver ++ List.range s.solver.size) := h.append_left _
    _ |>.Perm (List.range s'.solver.size) := by
      rw [range_eq_append_taken hle]
      exact List.perm_append_comm

variable [SatEngine] {s : Labelled}

theorem Accounted.declare (h : s.Accounted) (name : String) :
    (Incremental.declare name s).2.Accounted :=
  h.take (Nat.le_succ _) (.of_eq (List.append_assoc ..))

theorem Accounted.add (h : s.Accounted) (f : Formula) : (Incremental.add f s).Accounted := by
  refine h.take (Solver.size_le_add f s.solver) ?_
  exact ((List.perm_append_comm_assoc ..).append_left _).trans (List.perm_append_comm_assoc ..)

theorem Accounted.push (h : s.Accounted) : (Incremental.push s).Accounted := by
  refine h.take ?_ ?_
  · show s.solver.size ≤ s.solver.push.size
    rw [Solver.push_eq]
    exact Nat.le_succ _
  · show (s.handles ++ ((_ ++ s.switches) ++ s.connectives)).Perm _
    rw [List.append_assoc]
    exact List.perm_append_comm_assoc ..

theorem Accounted.pop (h : s.Accounted) : (Incremental.pop s).Accounted := by
  show (0 :: s.labelled).Perm (List.range s.solver.pop.size)
  rw [Solver.size_pop]
  exact h

end Labelled

namespace Theory

variable [SatEngine] {t : Theory Labelled}

/-- Every variable has one purpose, and the handles are those of the atoms. -/
def Accounted (t : Theory Labelled) : Prop :=
  t.engine.Accounted ∧ t.engine.handles = t.atoms.map Prod.snd

theorem Accounted.ensure (name : String) (t : Theory Labelled) (h : t.Accounted) :
    (t.ensure name).2.Accounted := by
  unfold Theory.ensure
  split
  · exact h
  · refine ⟨h.1.declare name, ?_⟩
    show Labelled.taken t.engine.solver _ ++ t.engine.handles = _ :: t.atoms.map Prod.snd
    rw [Labelled.taken_of_size_eq_succ rfl, h.2]
    rfl

theorem Accounted.require (f : Formula) (t : Theory Labelled) (h : t.Accounted) :
    (t.require f).Accounted := ⟨h.1.add f, h.2⟩

theorem Accounted.assuming (f : Formula) (t : Theory Labelled) (h : t.Accounted) :
    (t.assuming f).2.Accounted := ⟨(h.1.push.add f).pop, h.2⟩

/-- **Every variable of a theory in use has one purpose.** -/
theorem accounted_after (uses : List Use) :
    ((Theory.mk Labelled.fresh []).after uses).Accounted :=
  after_induction Accounted.ensure Accounted.require Accounted.assuming uses
    ⟨Labelled.accounted_fresh, rfl⟩

end Theory

end Entail
