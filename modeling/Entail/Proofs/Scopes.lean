/-
Entail/Proofs/Scopes.lean

To its clients a solver is a stack of scopes with constraints in them.

`Ledger` is what a client knows: the handles it was given, the constraints it added while no scope
was open, and those it added in each scope that still is.  A solver keeps none of this.  It has
clauses, to which every call adds and from which none takes away.  The two are tied by what can be
said about the variables a client can see, which are the constant, the switches of the open scopes
and the handles (`Solver.Refines`): an assignment of those extends to a solution of the clauses
exactly when the permanent constraints hold, and with every switch that is on also the constraints
of its scope and the switch of the scope around it.

Each call keeps the tie (`Session.Sound.step`).  Closing a scope hides its switch, and since the
switch is off from then on, whatever it guards says nothing more.

Main result: in every session on a fresh solver, each check answers whether the constraints in
force at that moment can hold together (`checks_run_fresh`).  That a session keeps every check it
was asked for, with its outcome and those constraints, holds of any solver
(`Session.checks_run_check`).
-/
import Entail.Proofs.Encoding

namespace Entail

/-! ### What a client has asked for -/

/-- The requests of a client so far. -/
structure Ledger where
  handles : List Nat := []
  /-- The constraints that were added with no scope open. -/
  permanent : List Formula := []
  /-- The constraints of every open scope, the innermost first. -/
  frames : List (List Formula) := []

namespace Ledger

def declare (i : Nat) (l : Ledger) : Ledger := { l with handles := i :: l.handles }

/-- A constraint belongs to the innermost open scope. -/
def add (f : Formula) (l : Ledger) : Ledger :=
  match l.frames with
  | [] => { l with permanent := f :: l.permanent }
  | fs :: outer => { l with frames := (f :: fs) :: outer }

def push (l : Ledger) : Ledger := { l with frames := [] :: l.frames }

/-- The constraints of the innermost scope are gone. -/
def pop (l : Ledger) : Ledger := { l with frames := l.frames.tail }

/-- The constraints added with no scope open and those of the open scopes. -/
def inForce (l : Ledger) : List Formula := l.permanent ++ l.frames.flatten

end Ledger

/-- A list of formulas can hold together. -/
def Satisfiable (fs : List Formula) : Prop := ∃ v, ∀ f ∈ fs, f.eval v = true

/-! ### Sessions -/

/-- A call on a solver. -/
inductive Call where
  | declare (name : String)
  | add (constraint : Formula)
  | push
  | pop
  | check

/-- The call asks for an outcome. -/
def Call.isCheck : Call → Bool
  | .check => true
  | _ => false

/-- A solver in use, with what its client knows. -/
structure Session (σ : Type) where
  solver : σ
  ledger : Ledger := {}
  /-- The checks so far, each with its outcome and the constraints then in force. -/
  checks : List (Outcome × List Formula) := []

/-- A constraint may speak of handles the client was given before. -/
def Call.Legal (l : Ledger) : Call → Prop
  | .add f => ∀ i ∈ f.vars, i ∈ l.handles
  | _ => True

instance (l : Ledger) : (c : Call) → Decidable (c.Legal l)
  | .add f => inferInstanceAs (Decidable (∀ i ∈ f.vars, i ∈ l.handles))
  | .declare _ | .push | .pop | .check => instDecidableTrue

namespace Session

variable {σ : Type} [Incremental σ]

/-- One call. -/
def step (t : Session σ) : Call → Session σ
  | .declare name =>
    let (i, solver) := Incremental.declare name t.solver
    { t with solver, ledger := t.ledger.declare i }
  | .add f => { t with solver := Incremental.add f t.solver, ledger := t.ledger.add f }
  | .push => { t with solver := Incremental.push t.solver, ledger := t.ledger.push }
  | .pop => { t with solver := Incremental.pop t.solver, ledger := t.ledger.pop }
  | .check =>
    let (outcome, solver) := Incremental.check t.solver
    { t with solver, checks := t.checks ++ [(outcome, t.ledger.inForce)] }

/-- Calls one after the other. -/
def run (t : Session σ) (calls : List Call) : Session σ := calls.foldl step t

/-- Every call is legal when its turn comes. -/
def Legal (t : Session σ) : List Call → Prop
  | [] => True
  | c :: cs => c.Legal t.ledger ∧ (t.step c).Legal cs

instance decidableLegal : (t : Session σ) → (calls : List Call) → Decidable (t.Legal calls)
  | _, [] => instDecidableTrue
  | t, c :: cs =>
    have : Decidable ((t.step c).Legal cs) := decidableLegal (t.step c) cs
    inferInstanceAs (Decidable (c.Legal t.ledger ∧ (t.step c).Legal cs))

end Session

/-! ### What the clauses say to a client -/

namespace Ledger

variable {v w : Assignment}

/-- With a switch on, the constraints of its scope hold, and the switch of the scope around it is
on. -/
def Guarded (w : Assignment) : List Nat → List (List Formula) → Prop
  | i :: scopes, fs :: outer =>
    (w i = true → (∀ f ∈ fs, f.eval w = true) ∧ ∀ j ∈ scopes.head?, w j = true) ∧
      Guarded w scopes outer
  | _, _ => True

/-- The permanent constraints hold, and those of the scopes do under their switches. -/
def Admits (l : Ledger) (scopes : List Nat) (w : Assignment) : Prop :=
  (∀ f ∈ l.permanent, f.eval w = true) ∧ Guarded w scopes l.frames

/-- The constraints in force speak of handles only. -/
def Closed (l : Ledger) : Prop := ∀ f ∈ l.inForce, ∀ i ∈ f.vars, i ∈ l.handles

theorem Guarded.congr {scopes : List Nat} {fss : List (List Formula)}
    (hs : ∀ i ∈ scopes, w i = v i) (hf : ∀ f ∈ fss.flatten, f.eval w = f.eval v)
    (h : Guarded v scopes fss) : Guarded w scopes fss := by
  induction scopes generalizing fss with
  | nil => cases fss <;> trivial
  | cons i scopes ih =>
    cases fss with
    | nil => trivial
    | cons fs fss =>
      rw [List.flatten_cons, List.forall_mem_append] at hf
      rw [List.forall_mem_cons] at hs
      refine ⟨fun hi => ?_, ih hs.2 hf.2 h.2⟩
      obtain ⟨hfs, hhead⟩ := h.1 (hs.1 ▸ hi)
      refine ⟨fun f hfm => (hf.1 f hfm).trans (hfs f hfm), fun j hj => ?_⟩
      exact (hs.2 j (List.mem_of_mem_head? hj)).trans (hhead j hj)

/-- With all switches on nothing is guarded. -/
theorem guarded_iff_of_on {scopes : List Nat} {fss : List (List Formula)}
    (hlen : scopes.length = fss.length) (hon : ∀ i ∈ scopes, w i = true) :
    Guarded w scopes fss ↔ ∀ f ∈ fss.flatten, f.eval w = true := by
  induction scopes generalizing fss with
  | nil =>
    obtain rfl := List.length_eq_zero_iff.mp hlen.symm
    simp [Guarded]
  | cons i scopes ih =>
    cases fss with
    | nil => cases hlen
    | cons fs fss =>
      rw [List.forall_mem_cons] at hon
      rw [Guarded, ih (Nat.succ.inj hlen) hon.2, List.flatten_cons, List.forall_mem_append]
      have hhead : ∀ j ∈ scopes.head?, w j = true :=
        fun j hj => hon.2 j (List.mem_of_mem_head? hj)
      rw [forall_prop_of_true hon.1, and_iff_left hhead]

theorem admits_congr {l : Ledger} {scopes : List Nat} (hl : l.Closed)
    (hs : ∀ i ∈ scopes, w i = v i) (hh : ∀ i ∈ l.handles, w i = v i) :
    l.Admits scopes w ↔ l.Admits scopes v := by
  have heval : ∀ f ∈ l.inForce, f.eval w = f.eval v :=
    fun f hf => Formula.eval_congr fun i hi => hh i (hl f hf i hi)
  rw [inForce, List.forall_mem_append] at heval
  refine and_congr (forall₂_congr fun f hf => by rw [heval.1 f hf]) ⟨?_, ?_⟩
  · exact Guarded.congr (fun i hi => (hs i hi).symm) fun f hf => (heval.2 f hf).symm
  · exact Guarded.congr hs heval.2

theorem admits_iff_of_on {l : Ledger} {scopes : List Nat}
    (hlen : scopes.length = l.frames.length) (hon : ∀ i ∈ scopes, w i = true) :
    l.Admits scopes w ↔ ∀ f ∈ l.inForce, f.eval w = true := by
  rw [Admits, guarded_iff_of_on hlen hon, inForce, List.forall_mem_append]

/-- An open scope without constraints asks only for the scope around it. -/
theorem admits_push {l : Ledger} {scopes : List Nat} {i : Nat} :
    l.push.Admits (i :: scopes) w ↔
      l.Admits scopes w ∧ (w i = true → ∀ j ∈ scopes.head?, w j = true) := by
  simp only [push, Admits, Guarded, List.not_mem_nil, false_implies, implies_true, true_and]
  tauto

theorem pop_eq_self {l : Ledger} (h : l.frames = []) : l.pop = l := by
  rw [pop, h]
  exact congrArg _ h.symm

/-- Under a switch that is off nothing is asked for. -/
theorem admits_iff_pop {l : Ledger} {scopes : List Nat} {i : Nat}
    (hlen : scopes.length + 1 = l.frames.length) (hi : w i = false) :
    l.Admits (i :: scopes) w ↔ l.pop.Admits scopes w := by
  obtain ⟨handles, permanent, frames⟩ := l
  cases frames with
  | nil => cases hlen
  | cons fs frames => simp [pop, Admits, Guarded, hi]

theorem Closed.pop {l : Ledger} (hl : l.Closed) : l.pop.Closed := by
  intro f hf
  rcases List.mem_append.mp hf with hf | hf
  · exact hl f (List.mem_append_left _ hf)
  · obtain ⟨fs, hfs, hf⟩ := List.mem_flatten.mp hf
    exact hl f (List.mem_append_right _
      (List.mem_flatten.mpr ⟨fs, List.mem_of_mem_tail hfs, hf⟩))

@[simp] theorem handles_add (f : Formula) (l : Ledger) : (l.add f).handles = l.handles := by
  unfold add
  split <;> rfl

@[simp] theorem length_frames_add (f : Formula) (l : Ledger) :
    (l.add f).frames.length = l.frames.length := by
  unfold add
  split <;> simp [*]

theorem mem_inForce_add {f g : Formula} {l : Ledger} :
    g ∈ (l.add f).inForce ↔ g = f ∨ g ∈ l.inForce := by
  unfold add
  split <;> simp [inForce, *]
  tauto

theorem Closed.add {l : Ledger} (hl : l.Closed) {f : Formula}
    (hf : ∀ i ∈ f.vars, i ∈ l.handles) : (l.add f).Closed := by
  intro g hg
  rw [handles_add]
  rcases mem_inForce_add.mp hg with rfl | hg
  · exact hf
  · exact hl g hg

/-- A constraint joins the innermost scope. -/
theorem admits_add {l : Ledger} {scopes : List Nat} (hlen : scopes.length = l.frames.length)
    (f : Formula) :
    (l.add f).Admits scopes w ↔
      l.Admits scopes w ∧ ((∀ i ∈ scopes.head?, w i = true) → f.eval w = true) := by
  obtain ⟨handles, permanent, frames⟩ := l
  cases frames with
  | nil =>
    obtain rfl := List.length_eq_zero_iff.mp hlen
    simp [add, Admits, Guarded, and_comm]
  | cons fs outer =>
    cases scopes with
    | nil => cases hlen
    | cons i scopes =>
      simp only [add, Admits, Guarded, List.forall_mem_cons, List.head?_cons, Option.mem_some_iff,
        forall_eq']
      tauto

end Ledger

namespace Solver

variable {s s' : Solver} {l : Ledger} {v w : Assignment}

/-- The variables a client can see: the constant, the switches of the open scopes, the handles. -/
def visible (s : Solver) (l : Ledger) : List Nat := 0 :: (s.scopes ++ l.handles)

/-- The solver says what the ledger asks for, as far as the visible variables can tell. -/
structure Refines (s : Solver) (l : Ledger) : Prop where
  wellFormed : s.WellFormed
  handles_lt : ∀ i ∈ l.handles, i < s.size
  nodup : (s.visible l).Nodup
  length_eq : s.scopes.length = l.frames.length
  closed : l.Closed
  admits_iff : ∀ w, (∃ v, (∀ i ∈ s.visible l, v i = w i) ∧ s.Holds v) ↔
    w 0 = true ∧ l.Admits s.scopes w

theorem Refines.visible_lt (h : s.Refines l) : ∀ i ∈ s.visible l, i < s.size := by
  rw [visible, List.forall_mem_cons, List.forall_mem_append]
  exact ⟨h.wellFormed.size_pos, h.wellFormed.scopes_lt, h.handles_lt⟩

/-- A condition on visible variables may be looked at from outside. -/
theorem exists_and_iff {is : List Nat} {p q : Assignment → Prop}
    (hq : ∀ v, (∀ i ∈ is, v i = w i) → (q v ↔ q w)) :
    (∃ v, (∀ i ∈ is, v i = w i) ∧ p v ∧ q v) ↔ (∃ v, (∀ i ∈ is, v i = w i) ∧ p v) ∧ q w := by
  constructor
  · rintro ⟨v, hvw, hp, hqv⟩
    exact ⟨⟨v, hvw, hp⟩, (hq v hvw).mp hqv⟩
  · rintro ⟨⟨v, hvw, hp⟩, hqw⟩
    exact ⟨v, hvw, hp, (hq v hvw).mpr hqw⟩

/-- The next unused variable may be shown as well: no clause says anything of it. -/
theorem Refines.admits_iff_size (h : s.Refines l) (w : Assignment) :
    (∃ v, (∀ i ∈ s.size :: s.visible l, v i = w i) ∧ s.Holds v) ↔
      w 0 = true ∧ l.Admits s.scopes w := by
  rw [← h.admits_iff w]
  constructor
  · rintro ⟨v, hvw, hv⟩
    exact ⟨v, (List.forall_mem_cons.mp hvw).2, hv⟩
  · rintro ⟨v, hvw, hv⟩
    have he : ∀ i < s.size, Function.update v s.size (w s.size) i = v i :=
      fun i hi => Function.update_of_ne (ne_of_lt hi) _ _
    refine ⟨Function.update v s.size (w s.size), List.forall_mem_cons.mpr ⟨?_, ?_⟩, ?_⟩
    · exact Function.update_self ..
    · exact fun i hi => (he i (h.visible_lt i hi)).trans (hvw i hi)
    · exact hv.congr h.wellFormed he

/-! ### Every call keeps the tie -/

theorem refines_fresh : Solver.fresh.Refines {} where
  wellFormed := by
    refine ⟨List.mem_cons_self, ?_, fun i hi => absurd hi List.not_mem_nil⟩
    simp [fresh, verum]
  handles_lt := fun i hi => absurd hi List.not_mem_nil
  nodup := List.pairwise_singleton _ 0
  length_eq := rfl
  closed := fun f hf => absurd hf List.not_mem_nil
  admits_iff := by
    intro w
    simp only [visible, fresh, Holds, Clause.AllHold, List.nil_append, List.forall_mem_singleton,
      Clause.holds_cons, Clause.holds_nil, Literal.holds, verum, Bool.or_false, beq_true,
      Ledger.Admits, Ledger.Guarded, and_true]
    constructor
    · rintro ⟨v, hvw, hv⟩
      exact ⟨hvw ▸ hv, fun f hf => absurd hf List.not_mem_nil⟩
    · rintro ⟨hw, -⟩
      exact ⟨w, rfl, hw⟩

theorem Refines.declare (h : s.Refines l) : s.newVar.2.Refines (l.declare s.newVar.1) := by
  have hperm : (s.newVar.2.visible (l.declare s.size)).Perm (s.size :: s.visible l) :=
    (List.perm_middle.cons 0).trans (.swap s.size 0 _)
  exact {
    wellFormed := h.wellFormed.newVar
    handles_lt := List.forall_mem_cons.mpr
      ⟨Nat.lt_succ_self _, fun i hi => Nat.lt_succ_of_lt (h.handles_lt i hi)⟩
    nodup := hperm.nodup_iff.mpr
      (List.nodup_cons.mpr ⟨fun hmem => lt_irrefl _ (h.visible_lt _ hmem), h.nodup⟩)
    length_eq := h.length_eq
    closed := fun f hf i hi => List.mem_cons_of_mem _ (h.closed f hf i hi)
    admits_iff := by
      intro w
      show (∃ v, (∀ i ∈ s.newVar.2.visible (l.declare s.size), v i = w i) ∧ s.Holds v) ↔ _
      simp only [hperm.mem_iff]
      exact h.admits_iff_size w }

theorem Refines.add (h : s.Refines l) {f : Formula} (hf : ∀ i ∈ f.vars, i ∈ l.handles) :
    (Solver.add f s).Refines (l.add f) := by
  have himp := imposes_add f h.wellFormed fun i hi => h.handles_lt i (hf i hi)
  have hvis : (Solver.add f s).visible (l.add f) = s.visible l := by
    rw [visible, visible, himp.scopes_eq, Ledger.handles_add]
  exact {
    wellFormed := himp.wellFormed
    handles_lt := by
      rw [Ledger.handles_add]
      exact fun i hi => lt_of_lt_of_le (h.handles_lt i hi) himp.size_le
    nodup := hvis ▸ h.nodup
    length_eq := by rw [himp.scopes_eq, Ledger.length_frames_add, h.length_eq]
    closed := h.closed.add hf
    admits_iff := by
      intro w
      rw [hvis, himp.exists_iff h.visible_lt, exists_and_iff, h.admits_iff, himp.scopes_eq,
        Ledger.admits_add h.length_eq, and_assoc]
      · exact Iff.rfl
      · intro v hvw
        have hon : s.On v ↔ s.On w := forall₂_congr fun i hi => by
          rw [hvw i (List.mem_cons_of_mem _
            (List.mem_append_left _ (List.mem_of_mem_head? hi)))]
        have heval : f.eval v = f.eval w := Formula.eval_congr fun i hi =>
          hvw i (List.mem_cons_of_mem _ (List.mem_append_right _ (hf i hi)))
        rw [hon, heval] }

theorem push_eq (s : Solver) :
    s.push = ⟨s.size + 1, (s.scopes.head?.map fun j => [⟨s.size, false⟩, ⟨j, true⟩]).toList ++
      s.clauses, s.size :: s.scopes⟩ := by
  obtain ⟨size, clauses, scopes⟩ := s
  cases scopes <;> rfl

theorem holds_push : s.push.Holds v ↔
    s.Holds v ∧ (v s.size = true → ∀ j ∈ s.scopes.head?, v j = true) := by
  rw [push_eq]
  cases hs : s.scopes.head? with
  | none => simp [Holds]
  | some j => cases hv : v s.size <;> simp [Holds, Clause.AllHold, Literal.holds, hv, and_comm]

theorem WellFormed.push (h : s.WellFormed) : s.push.WellFormed := by
  rw [push_eq]
  refine ⟨List.mem_append_right _ h.verum_mem, ?_, ?_⟩
  · refine List.forall_mem_append.mpr ⟨?_, h.newVar.clauses_lt⟩
    cases hs : s.scopes.head? with
    | none => exact fun c hc => absurd hc List.not_mem_nil
    | some j =>
      have hj := Nat.lt_succ_of_lt (h.scopes_lt j (List.mem_of_mem_head? hs))
      simpa using hj
  · exact List.forall_mem_cons.mpr ⟨Nat.lt_succ_self _, h.newVar.scopes_lt⟩

theorem Refines.push (h : s.Refines l) : s.push.Refines l.push := by
  have hsize : ∀ i < s.size, i < s.push.size := by
    rw [push_eq]
    exact fun i hi => Nat.lt_succ_of_lt hi
  have hvis : s.push.visible l.push = 0 :: s.size :: (s.scopes ++ l.handles) := by
    rw [push_eq]
    rfl
  have hperm : (s.push.visible l.push).Perm (s.size :: s.visible l) := by
    rw [hvis]
    exact .swap s.size 0 _
  exact {
    wellFormed := h.wellFormed.push
    handles_lt := fun i hi => hsize i (h.handles_lt i hi)
    nodup := hperm.nodup_iff.mpr
      (List.nodup_cons.mpr ⟨fun hmem => lt_irrefl _ (h.visible_lt _ hmem), h.nodup⟩)
    length_eq := by
      rw [push_eq]
      exact congrArg Nat.succ h.length_eq
    closed := h.closed
    admits_iff := by
      intro w
      simp only [hperm.mem_iff, holds_push]
      rw [exists_and_iff, h.admits_iff_size, and_assoc]
      · rw [push_eq, Ledger.admits_push]
      · intro v hvw
        have hsw := hvw s.size List.mem_cons_self
        rw [hsw]
        refine imp_congr_right fun _ => forall₂_congr fun j hj => ?_
        rw [hvw j (List.mem_cons_of_mem _ (List.mem_cons_of_mem _
          (List.mem_append_left _ (List.mem_of_mem_head? hj))))] }

theorem WellFormed.pop (h : s.WellFormed) : s.pop.WellFormed := by
  obtain ⟨size, clauses, scopes⟩ := s
  cases scopes with
  | nil => exact h
  | cons switch outer =>
    obtain ⟨hswitch, houter⟩ := List.forall_mem_cons.mp h.scopes_lt
    exact {
      verum_mem := List.mem_cons_of_mem _ h.verum_mem
      clauses_lt := List.forall_mem_cons.mpr
        ⟨List.forall_mem_singleton.mpr hswitch, h.clauses_lt⟩
      scopes_lt := houter }

/-- The switch of a closed scope is off in every solution, so showing it off is as good as not
showing it. -/
theorem exists_pop_iff {size switch : Nat} {clauses : List Clause} {outer is : List Nat}
    (hswitch : switch ∉ is) :
    (∃ v, (∀ i ∈ is, v i = w i) ∧ (pop ⟨size, clauses, switch :: outer⟩).Holds v) ↔
      ∃ v, (∀ i ∈ switch :: is, v i = Function.update w switch false i) ∧
        Holds v ⟨size, clauses, switch :: outer⟩ := by
  refine exists_congr fun v => ?_
  have hpop : (pop ⟨size, clauses, switch :: outer⟩).Holds v ↔
      v switch = false ∧ Holds v ⟨size, clauses, switch :: outer⟩ := by
    simp [pop, Holds, Clause.AllHold, require, Literal.holds]
  have hagree : (∀ i ∈ is, v i = Function.update w switch false i) ↔ ∀ i ∈ is, v i = w i :=
    forall₂_congr fun i hi => by rw [Function.update_of_ne (ne_of_mem_of_not_mem hi hswitch)]
  rw [hpop, List.forall_mem_cons, Function.update_self, hagree]
  tauto

theorem Refines.pop (h : s.Refines l) : s.pop.Refines l.pop := by
  obtain ⟨size, clauses, scopes⟩ := s
  cases scopes with
  | nil =>
    rw [Ledger.pop_eq_self (List.length_eq_zero_iff.mp h.length_eq.symm)]
    exact h
  | cons switch outer =>
    have hperm : (visible ⟨size, clauses, switch :: outer⟩ l).Perm
        (switch :: visible ⟨size, clauses, outer⟩ l) := .swap switch 0 _
    have hnodup := List.nodup_cons.mp (hperm.nodup_iff.mp h.nodup)
    have hne : ∀ i ∈ visible ⟨size, clauses, outer⟩ l, i ≠ switch :=
      fun i hi => ne_of_mem_of_not_mem hi hnodup.1
    have hlen : outer.length + 1 = l.frames.length := h.length_eq
    exact {
      wellFormed := h.wellFormed.pop
      handles_lt := h.handles_lt
      nodup := hnodup.2
      length_eq := by rw [Ledger.pop, List.length_tail, ← hlen]; rfl
      closed := h.closed.pop
      admits_iff := by
        intro w
        have hoff : ∀ i ∈ visible ⟨size, clauses, outer⟩ l,
            Function.update w switch false i = w i :=
          fun i hi => Function.update_of_ne (hne i hi) _ _
        show (∃ v : Assignment, (∀ i ∈ visible ⟨size, clauses, outer⟩ l, v i = w i) ∧ _) ↔ _
        rw [exists_pop_iff hnodup.1]
        simp only [← hperm.mem_iff]
        rw [h.admits_iff, hoff 0 List.mem_cons_self,
          Ledger.admits_iff_pop hlen (Function.update_self ..)]
        refine and_congr_right fun _ => Ledger.admits_congr h.closed.pop ?_ ?_
        · exact fun i hi => hoff i (List.mem_cons_of_mem _ (List.mem_append_left _ hi))
        · exact fun i hi => hoff i (List.mem_cons_of_mem _ (List.mem_append_right _ hi)) }

/-! ### Checks -/

/-- With all switches on, the clauses can hold exactly when the constraints in force can. -/
theorem Refines.satisfiable_iff (h : s.Refines l) :
    (∃ v, s.Holds v ∧ ∀ i ∈ s.scopes, v i = true) ↔ Satisfiable l.inForce := by
  constructor
  · rintro ⟨v, hv, hon⟩
    have hadmits := ((h.admits_iff v).mp ⟨v, fun _ _ => rfl, hv⟩).2
    exact ⟨v, (Ledger.admits_iff_of_on h.length_eq hon).mp hadmits⟩
  · rintro ⟨w, hw⟩
    -- the constraints say nothing about the constant and the switches, so these may be set
    let u : Assignment := fun i => if i ∈ 0 :: s.scopes then true else w i
    have hon : ∀ i ∈ 0 :: s.scopes, u i = true := fun i hi => if_pos hi
    have hdisjoint : ∀ i ∈ l.handles, i ∉ 0 :: s.scopes := by
      intro i hi hmem
      have hnodup : ((0 :: s.scopes) ++ l.handles).Nodup := h.nodup
      exact (List.nodup_append.mp hnodup).2.2 i hmem i hi rfl
    have hu : ∀ f ∈ l.inForce, f.eval u = true := by
      intro f hf
      rw [← hw f hf]
      exact Formula.eval_congr fun i hi => if_neg (hdisjoint i (h.closed f hf i hi))
    have hscopes := (List.forall_mem_cons.mp hon).2
    obtain ⟨v, hvu, hv⟩ := (h.admits_iff u).mpr ⟨hon 0 List.mem_cons_self,
      (Ledger.admits_iff_of_on h.length_eq hscopes).mpr hu⟩
    refine ⟨v, hv, fun i hi => ?_⟩
    rw [hvu i (List.mem_cons_of_mem _ (List.mem_append_left _ hi))]
    exact hscopes i hi

variable [SatEngine]

/-- A correct engine makes a check answer whether the constraints in force can hold. -/
theorem Refines.check (h : s.Refines l) (correct : SatEngine.Correct) :
    (s.check = .sat ↔ Satisfiable l.inForce) ∧ (s.check = .unsat ↔ ¬ Satisfiable l.inForce) := by
  obtain ⟨answer, hsolve, hanswer⟩ := correct s.clauses (s.scopes.map fun i => ⟨i, true⟩)
  have hiff : answer = true ↔ Satisfiable l.inForce := by
    rw [hanswer, ← h.satisfiable_iff]
    simp only [Holds, List.forall_mem_map, Literal.holds, beq_true]
  rw [← hiff, Solver.check, hsolve]
  cases answer <;> simp

end Solver

/-! ### Whole sessions -/

namespace Session

/-- The solver refines the ledger, and every check so far was answered rightly. -/
structure Sound (t : Session Solver) : Prop where
  refines : t.solver.Refines t.ledger
  checks : ∀ c ∈ t.checks,
    (c.1 = .sat ↔ Satisfiable c.2) ∧ (c.1 = .unsat ↔ ¬ Satisfiable c.2)

/-- A session on a solver with nothing in it. -/
def fresh : Session Solver := { solver := Solver.fresh }

theorem sound_fresh : fresh.Sound := ⟨Solver.refines_fresh, fun _ hc => absurd hc List.not_mem_nil⟩

section

variable {σ : Type} [Incremental σ] {t : Session σ} {before after : List Call}

theorem run_append : t.run (before ++ after) = (t.run before).run after := List.foldl_append

theorem legal_append : t.Legal (before ++ after) ↔ t.Legal before ∧ (t.run before).Legal after := by
  induction before generalizing t with
  | nil => simp [Legal, run]
  | cons c before ih => simp [Legal, run, ih, and_assoc]

/-! #### What a session keeps of its checks -/

/-- A check is kept, and no other call is. -/
theorem checks_step (t : Session σ) (c : Call) :
    (t.step c).checks = t.checks ++
      if c.isCheck then [((Incremental.check t.solver).1, t.ledger.inForce)] else [] := by
  cases c with
  | check => rfl
  | declare _ | add _ | push | pop => exact (List.append_nil _).symm

theorem length_checks_run (t : Session σ) (calls : List Call) :
    (t.run calls).checks.length = t.checks.length + calls.countP Call.isCheck := by
  induction calls generalizing t with
  | nil => rfl
  | cons c calls ih =>
    have hstep : (t.step c).checks.length = t.checks.length + if c.isCheck then 1 else 0 := by
      rw [checks_step, List.length_append]
      cases c.isCheck <;> rfl
    rw [List.countP_cons, ← Nat.add_assoc, Nat.add_right_comm, ← hstep]
    exact ih (t.step c)

/-- What is kept stays. -/
theorem checks_prefix_run (t : Session σ) (calls : List Call) :
    t.checks <+: (t.run calls).checks := by
  induction calls generalizing t with
  | nil => exact List.prefix_rfl
  | cons c calls ih =>
    rw [run, List.foldl_cons]
    refine List.IsPrefix.trans ?_ (ih (t.step c))
    rw [checks_step]
    exact List.prefix_append _ _

/-- The checks are kept in the order of the calls, each with its outcome and with what was in force
when it was its turn. -/
theorem checks_run_check (t : Session σ) (before after : List Call) :
    (t.run (before ++ .check :: after)).checks[t.checks.length + before.countP Call.isCheck]? =
      some ((Incremental.check (t.run before).solver).1, (t.run before).ledger.inForce) := by
  obtain ⟨later, hlater⟩ := checks_prefix_run ((t.run before).step .check) after
  rw [checks_step, Call.isCheck, if_pos rfl, List.append_assoc, List.singleton_append] at hlater
  rw [run_append, ← length_checks_run]
  show (((t.run before).step .check).run after).checks[(t.run before).checks.length]? = _
  rw [← hlater, List.getElem?_append_right le_rfl, Nat.sub_self, List.getElem?_cons_zero]

end

variable [SatEngine]

/-- A legal call keeps a session sound. -/
theorem Sound.step (correct : SatEngine.Correct) {t : Session Solver} (h : t.Sound) {c : Call}
    (legal : c.Legal t.ledger) : (t.step c).Sound := by
  cases c with
  | declare name => exact ⟨h.refines.declare, h.checks⟩
  | add f => exact ⟨h.refines.add legal, h.checks⟩
  | push => exact ⟨h.refines.push, h.checks⟩
  | pop => exact ⟨h.refines.pop, h.checks⟩
  | check =>
    refine ⟨h.refines, fun c hc => ?_⟩
    rcases List.mem_append.mp hc with hc | hc
    · exact h.checks c hc
    · obtain rfl := List.mem_singleton.mp hc
      exact h.refines.check correct

/-- No legal call takes a clause away. -/
theorem Sound.clauses_suffix_step {t : Session Solver} (h : t.Sound) {c : Call}
    (legal : c.Legal t.ledger) : t.solver.clauses <:+ (t.step c).solver.clauses := by
  cases c with
  | declare name => exact List.suffix_rfl
  | add f =>
    exact (Solver.imposes_add f h.refines.wellFormed
      fun i hi => h.refines.handles_lt i (legal i hi)).clauses_suffix
  | push =>
    show _ <:+ t.solver.push.clauses
    rw [Solver.push_eq]
    exact List.suffix_append _ _
  | pop =>
    show _ <:+ t.solver.pop.clauses
    rw [Solver.pop]
    split
    · exact List.suffix_rfl
    · exact List.suffix_cons _ _
  | check => exact List.suffix_rfl

theorem Sound.run (correct : SatEngine.Correct) {t : Session Solver} (h : t.Sound)
    {calls : List Call} (legal : t.Legal calls) : (t.run calls).Sound := by
  induction calls generalizing t with
  | nil => exact h
  | cons c calls ih => exact ih (h.step correct legal.1) legal.2

theorem Sound.clauses_suffix_run (correct : SatEngine.Correct) {t : Session Solver} (h : t.Sound)
    {calls : List Call} (legal : t.Legal calls) :
    t.solver.clauses <:+ (t.run calls).solver.clauses := by
  induction calls generalizing t with
  | nil => exact List.suffix_rfl
  | cons c calls ih =>
    exact (h.clauses_suffix_step legal.1).trans (ih (h.step correct legal.1) legal.2)

end Session

/-- **A solver is a stack of constraint scopes.**  Whatever legal calls a session on a fresh solver
consists of, it keeps one entry for each check, in the order of the calls, with the outcome and the
constraints then in force.  Every check answers sat if some assignment of the handles makes all
constraints in force at that moment true, and unsat if none does.  Closing a scope that is not there
changes nothing, and no clause is ever taken back: what belongs to closed scopes is still there, and
without effect. -/
theorem checks_run_fresh [SatEngine] (correct : SatEngine.Correct) (calls : List Call)
    (legal : Session.fresh.Legal calls) :
    (∀ c ∈ (Session.fresh.run calls).checks,
      (c.1 = .sat ↔ Satisfiable c.2) ∧ (c.1 = .unsat ↔ ¬ Satisfiable c.2)) ∧
    (Session.fresh.run calls).checks.length = calls.countP Call.isCheck ∧
    (∀ before after, calls = before ++ .check :: after →
      (Session.fresh.run calls).checks[before.countP Call.isCheck]? =
        some ((Incremental.check (Session.fresh.run before).solver).1,
          (Session.fresh.run before).ledger.inForce)) ∧
    ((Session.fresh.run calls).ledger.frames = [] →
      Incremental.pop (Session.fresh.run calls).solver = (Session.fresh.run calls).solver) ∧
    ∀ before after, calls = before ++ after →
      (Session.fresh.run before).solver.clauses <:+ (Session.fresh.run calls).solver.clauses := by
  have hsound := Session.sound_fresh.run correct legal
  have hnone : Session.fresh.checks.length = 0 := rfl
  refine ⟨hsound.checks, ?_, ?_, fun hframes => ?_, ?_⟩
  · rw [Session.length_checks_run, hnone, Nat.zero_add]
  · rintro before after rfl
    have hcheck := Session.checks_run_check Session.fresh before after
    rwa [hnone, Nat.zero_add] at hcheck
  · have hscopes : (Session.fresh.run calls).solver.scopes = [] := by
      rw [← List.length_eq_zero_iff, hsound.refines.length_eq, hframes, List.length_nil]
    show Solver.pop _ = _
    rw [Solver.pop, hscopes]
  · rintro before after rfl
    obtain ⟨hbefore, hafter⟩ := Session.legal_append.mp legal
    rw [Session.run_append]
    exact (Session.sound_fresh.run correct hbefore).clauses_suffix_run correct hafter

/-- Two open scopes with a nested connective in the inner one, checks at every depth, and one
closing too many. -/
def nestedScopes : List Call :=
  [.declare "a", .declare "b", .push, .add (.var 1), .push,
    .add (.or [.not (.and [.var 1, .and []]), .and [.var 2]]), .add (.not (.not (.not (.var 2)))),
    .check, .pop, .check, .pop, .pop, .add (.not (.var 1)), .check]

/-- Two open scopes are a legal session, and its three checks are answered. -/
theorem checks_run_nestedScopes :
    Session.fresh.Legal nestedScopes ∧
    (Session.fresh.run nestedScopes).checks.length = 3 ∧
    ∀ c ∈ (Session.fresh.run nestedScopes).checks,
      (c.1 = .sat ↔ Satisfiable c.2) ∧ (c.1 = .unsat ↔ ¬ Satisfiable c.2) := by
  have legal : Session.fresh.Legal nestedScopes := by decide
  obtain ⟨hright, hlength, -⟩ := checks_run_fresh SatEngine.search_correct nestedScopes legal
  exact ⟨legal, hlength, hright⟩

end Entail
