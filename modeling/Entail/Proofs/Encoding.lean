/-
Entail/Proofs/Encoding.lean

What requiring a formula does to the assignments a solver admits.

A solver grows in a way that can be said without its clauses: the new solver says what the old one
said, it also says that some condition holds, and it says nothing else about the variables there
were before (`Solver.Imposes`).  The last part is where fresh variables matter.  A solution of the
old clauses has to be extended to the new variables, which is harmless only because no old clause
mentions them (`Solver.WellFormed`).

Main results: encoding a formula imposes nothing and gives a literal with the value of the formula
(`Solver.encodes_encode`), and adding a formula imposes that it holds as long as the innermost open
scope is on (`Solver.imposes_add`).
-/
import Entail.Solver
import Entail.Proofs.Search
import Mathlib.Order.Interval.Set.Defs
import Mathlib.Data.Set.Function

namespace Entail

/-! ### The variables of a formula -/

namespace Formula

/-- Induction over a formula, with the hypothesis for every operand of a connective. -/
@[induction_eliminator]
theorem induction {motive : Formula → Prop} (var : ∀ i, motive (.var i))
    (not : ∀ f, motive f → motive (.not f))
    (and : ∀ fs, (∀ f ∈ fs, motive f) → motive (.and fs))
    (or : ∀ fs, (∀ f ∈ fs, motive f) → motive (.or fs)) (f : Formula) : motive f :=
  @Formula.rec motive (fun fs => ∀ f ∈ fs, motive f) var not and or
    (fun _ h => absurd h List.not_mem_nil)
    (fun _ _ hf hfs => List.forall_mem_cons.mpr ⟨hf, hfs⟩) f

mutual

/-- The variables of a formula. -/
def vars : Formula → List Nat
  | .var i => [i]
  | .not f => vars f
  | .and fs => varsAll fs
  | .or fs => varsAll fs

/-- The variables of a list of formulas. -/
def varsAll : List Formula → List Nat
  | [] => []
  | f :: fs => vars f ++ varsAll fs

end

theorem mem_varsAll {i : Nat} {fs : List Formula} : i ∈ varsAll fs ↔ ∃ f ∈ fs, i ∈ f.vars := by
  induction fs with
  | nil => simp [varsAll]
  | cons f fs ih => simp [varsAll, ih]

theorem forall_mem_varsAll {p : Nat → Prop} {fs : List Formula} :
    (∀ i ∈ varsAll fs, p i) ↔ ∀ f ∈ fs, ∀ i ∈ f.vars, p i := by
  simp only [mem_varsAll]
  constructor
  · intro h f hf i hi
    exact h i ⟨f, hf, hi⟩
  · rintro h i ⟨f, hf, hi⟩
    exact h f hf i hi

theorem vars_negate (f : Formula) : (negate f).vars = f.vars := by
  cases f <;> rfl

theorem vars_literal (i : Nat) (b : Bool) : (literal i b).vars = [i] := by
  cases b <;> rfl

theorem vars_conjoin (fs : List Formula) : (conjoin fs).vars = varsAll fs := by
  unfold conjoin
  split
  · simp [varsAll]
  · rfl

theorem vars_implies (p c : Formula) : (implies p c).vars = p.vars ++ c.vars := by
  simp [implies, vars, varsAll, vars_negate]

/-- The value of a formula depends on its variables only. -/
theorem eval_congr {v w : Assignment} {f : Formula} (h : ∀ i ∈ f.vars, v i = w i) :
    f.eval v = f.eval w := by
  induction f with
  | var i => exact h i (by simp [vars])
  | not f ih => rw [eval, eval, ih h]
  | and fs ih =>
    simp only [vars, forall_mem_varsAll] at h
    rw [eval, eval, evalAll_eq_all, evalAll_eq_all, Bool.eq_iff_iff, List.all_eq_true,
      List.all_eq_true]
    exact forall₂_congr fun f hf => by rw [ih f hf (h f hf)]
  | or fs ih =>
    simp only [vars, forall_mem_varsAll] at h
    rw [eval, eval, evalAny_eq_any, evalAny_eq_any, Bool.eq_iff_iff, List.any_eq_true,
      List.any_eq_true]
    exact exists_congr fun f => and_congr_right fun hf => by rw [ih f hf (h f hf)]

end Formula

namespace Solver

variable {s s' s'' : Solver} {v w : Assignment} {p q : Assignment → Prop}

/-! ### States and the assignments they admit -/

/-- All clauses hold. -/
def Holds (v : Assignment) (s : Solver) : Prop := Clause.AllHold v s.clauses

/-- The innermost open scope, if there is one, is switched on. -/
def On (v : Assignment) (s : Solver) : Prop := ∀ i ∈ s.scopes.head?, v i = true

/-- The constant is required, and every variable that is mentioned is in use. -/
structure WellFormed (s : Solver) : Prop where
  verum_mem : [verum] ∈ s.clauses
  clauses_lt : ∀ c ∈ s.clauses, ∀ l ∈ c, l.index < s.size
  scopes_lt : ∀ i ∈ s.scopes, i < s.size

theorem WellFormed.size_pos (h : s.WellFormed) : 0 < s.size :=
  h.clauses_lt _ h.verum_mem verum List.mem_cons_self

theorem Holds.verum (hv : s.Holds v) (h : s.WellFormed) : v 0 = true := by
  have := hv _ h.verum_mem
  simpa [Clause.holds, Literal.holds, Solver.verum] using this

/-- Only the variables in use decide whether the clauses hold. -/
theorem Holds.congr (hv : s.Holds v) (h : s.WellFormed) (he : Set.EqOn w v (Set.Iio s.size)) :
    s.Holds w := by
  intro c hc
  obtain ⟨l, hl, hlv⟩ := Clause.holds_eq_true_iff.mp (hv c hc)
  refine Clause.holds_eq_true_iff.mpr ⟨l, hl, ?_⟩
  rw [Literal.holds, he (h.clauses_lt c hc l hl)]
  exact hlv

theorem Holds.of_suffix (hv : s'.Holds v) (h : s.clauses <:+ s'.clauses) : s.Holds v :=
  fun c hc => hv c (h.subset hc)

theorem On.congr (hv : s.On v) (h : s.WellFormed) (he : Set.EqOn w v (Set.Iio s.size)) :
    s.On w := by
  intro i hi
  rw [he (h.scopes_lt i (List.mem_of_mem_head? hi))]
  exact hv i hi

@[simp] theorem holds_require {c : Clause} :
    (s.require c).Holds v ↔ c.holds v = true ∧ s.Holds v := by
  simp [Holds, require, Clause.AllHold]

theorem WellFormed.require (h : s.WellFormed) {c : Clause} (hc : ∀ l ∈ c, l.index < s.size) :
    (s.require c).WellFormed where
  verum_mem := List.mem_cons_of_mem _ h.verum_mem
  clauses_lt := List.forall_mem_cons.mpr ⟨hc, h.clauses_lt⟩
  scopes_lt := h.scopes_lt

/-- A new variable may be taken at any time. -/
theorem WellFormed.newVar (h : s.WellFormed) : s.newVar.2.WellFormed where
  verum_mem := h.verum_mem
  clauses_lt := fun c hc l hl => Nat.lt_succ_of_lt (h.clauses_lt c hc l hl)
  scopes_lt := fun i hi => Nat.lt_succ_of_lt (h.scopes_lt i hi)

/-! ### Imposing a condition -/

/-- `s'` says what `s` says and that `p` holds, and nothing else about the variables of `s`. -/
structure Imposes (s s' : Solver) (p : Assignment → Prop) : Prop where
  scopes_eq : s'.scopes = s.scopes
  size_le : s.size ≤ s'.size
  clauses_suffix : s.clauses <:+ s'.clauses
  wellFormed : s'.WellFormed
  sound : ∀ v, s'.Holds v → p v
  complete : ∀ v, s.Holds v → p v → ∃ w, Set.EqOn w v (Set.Iio s.size) ∧ s'.Holds w

theorem Imposes.refl (h : s.WellFormed) : Imposes s s fun _ => True where
  scopes_eq := rfl
  size_le := Nat.le_refl _
  clauses_suffix := List.suffix_rfl
  wellFormed := h
  sound := fun _ _ => trivial
  complete := fun v hv _ => ⟨v, fun _ _ => rfl, hv⟩

theorem Imposes.congr (h : Imposes s s' p) (hpq : ∀ v, p v ↔ q v) : Imposes s s' q := by
  obtain rfl : p = q := funext fun v => propext (hpq v)
  exact h

/-- Two conditions, one after the other.  The second has to be about variables that were there
before the first. -/
theorem Imposes.trans (h : Imposes s s' p) (h' : Imposes s' s'' q)
    (hq : ∀ v w, Set.EqOn w v (Set.Iio s.size) → q v → q w) :
    Imposes s s'' fun v => p v ∧ q v where
  scopes_eq := h'.scopes_eq.trans h.scopes_eq
  size_le := h.size_le.trans h'.size_le
  clauses_suffix := h.clauses_suffix.trans h'.clauses_suffix
  wellFormed := h'.wellFormed
  sound := fun v hv => ⟨h.sound v (hv.of_suffix h'.clauses_suffix), h'.sound v hv⟩
  complete := by
    rintro v hv ⟨hp, hqv⟩
    obtain ⟨w, hw, hws⟩ := h.complete v hv hp
    obtain ⟨x, hx, hxs⟩ := h'.complete w hws (hq v w hw hqv)
    refine ⟨x, fun i hi => ?_, hxs⟩
    rw [hx (lt_of_lt_of_le hi h.size_le), hw hi]

/-- An assignment of variables that were there extends to a solution afterwards exactly when it
did so before with the condition. -/
theorem Imposes.exists_iff (h : Imposes s s' p) {is : List Nat} (his : ∀ i ∈ is, i < s.size) :
    (∃ v, (∀ i ∈ is, v i = w i) ∧ s'.Holds v) ↔
      ∃ v, (∀ i ∈ is, v i = w i) ∧ s.Holds v ∧ p v := by
  constructor
  · rintro ⟨v, hvw, hv⟩
    exact ⟨v, hvw, hv.of_suffix h.clauses_suffix, h.sound v hv⟩
  · rintro ⟨v, hvw, hv, hp⟩
    obtain ⟨x, hx, hxs⟩ := h.complete v hv hp
    exact ⟨x, fun i hi => (hx (his i hi)).trans (hvw i hi), hxs⟩

/-- Clauses over variables in use are imposed as they are, under the guard of the innermost
scope. -/
theorem imposes_guarded (h : s.WellFormed) {c : Clause} (hc : ∀ l ∈ c, l.index < s.size) :
    Imposes s (s.guarded c) fun v => s.On v → c.holds v = true := by
  obtain ⟨size, clauses, scopes⟩ := s
  cases scopes with
  | nil =>
    exact {
      scopes_eq := rfl
      size_le := Nat.le_refl _
      clauses_suffix := List.suffix_cons c clauses
      wellFormed := h.require hc
      sound := fun v hv _ => (holds_require.mp hv).1
      complete := fun v hv hp =>
        ⟨v, fun _ _ => rfl, holds_require.mpr ⟨hp (by simp [On]), hv⟩⟩ }
  | cons scope outer =>
    have hguard : ∀ v, Clause.holds v (c ++ [⟨scope, false⟩]) = true ↔
        (On v ⟨size, clauses, scope :: outer⟩ → c.holds v = true) := by
      intro v
      cases hs : v scope <;> simp [On, hs, Clause.holds, Literal.holds]
    exact {
      scopes_eq := rfl
      size_le := Nat.le_refl _
      clauses_suffix := List.suffix_cons _ clauses
      wellFormed := h.require (by
        intro l hl
        rcases List.mem_append.mp hl with hl | hl
        · exact hc l hl
        · obtain rfl := List.mem_singleton.mp hl
          exact h.scopes_lt scope List.mem_cons_self)
      sound := fun v hv => (hguard v).mp (holds_require.mp hv).1
      complete := fun v hv hp =>
        ⟨v, fun _ _ => rfl, holds_require.mpr ⟨(hguard v).mpr hp, hv⟩⟩ }

/-- Encode first, then guard a clause that means `q` by what was encoded. -/
theorem Imposes.guarded (h : Imposes s s' fun _ => True) (hs : s.WellFormed) {c : Clause}
    (hc : ∀ l ∈ c, l.index < s'.size) (hcq : ∀ v, s'.Holds v → (c.holds v = true ↔ q v))
    (hq : ∀ v w, Set.EqOn w v (Set.Iio s.size) → q v → q w) :
    Imposes s (s'.guarded c) fun v => s.On v → q v := by
  have hg := imposes_guarded h.wellFormed hc
  have hon : ∀ v, s'.On v ↔ s.On v := fun v => by rw [On, On, h.scopes_eq]
  exact {
    scopes_eq := hg.scopes_eq.trans h.scopes_eq
    size_le := h.size_le.trans hg.size_le
    clauses_suffix := h.clauses_suffix.trans hg.clauses_suffix
    wellFormed := hg.wellFormed
    sound := fun v hv hv_on =>
      (hcq v (hv.of_suffix hg.clauses_suffix)).mp (hg.sound v hv ((hon v).mpr hv_on))
    complete := by
      intro v hv hp
      obtain ⟨w, hw, hws⟩ := h.complete v hv trivial
      have hwc : s'.On w → c.holds w = true := fun hw_on =>
        (hcq w hws).mpr (hq v w hw (hp (((hon w).mp hw_on).congr hs hw.symm)))
      obtain ⟨x, hx, hxs⟩ := hg.complete w hws hwc
      exact ⟨x, fun i hi => (hx (lt_of_lt_of_le hi h.size_le)).trans (hw hi), hxs⟩ }

/-! ### Connectives -/

/-- A literal for one more variable, with clauses that say that its value is computed from the
values of other literals. -/
structure Defines (op : List Bool → Bool) (ls : List Literal) (s : Solver)
    (r : Literal × Solver) : Prop where
  literal_eq : r.1 = ⟨s.size, true⟩
  exists_clauses : ∃ cs, r.2 = ⟨s.size + 1, cs ++ s.clauses, s.scopes⟩ ∧
    (∀ c ∈ cs, ∀ l ∈ c, l.index < s.size + 1) ∧
    ∀ v, Clause.AllHold v cs ↔ v s.size = op (ls.map (Literal.holds v))

theorem foldl_require (g : Literal → Clause) (ls : List Literal) (s : Solver) :
    ls.foldl (fun s l => s.require (g l)) s =
      { s with clauses := (ls.map g).reverse ++ s.clauses } := by
  induction ls generalizing s with
  | nil => rfl
  | cons l ls ih =>
    rw [List.foldl_cons, ih]
    simp [require]

theorem defines_defineAnd {ls : List Literal} (hls : ∀ l ∈ ls, l.index < s.size) :
    Defines (fun bs => bs.all id) ls s (defineAnd ls s) := by
  refine ⟨rfl, (⟨s.size, true⟩ :: ls.map Literal.negate) ::
    (ls.map fun l => [⟨s.size, false⟩, l]).reverse, ?_, ?_, fun v => ?_⟩
  · simp only [defineAnd, newVar]
    rw [foldl_require]
    rfl
  · have hlt := fun l hl => Nat.lt_succ_of_lt (hls l hl)
    simp only [List.forall_mem_cons, List.mem_reverse, List.forall_mem_map, Literal.negate,
      List.not_mem_nil, false_implies, implies_true, and_true]
    exact ⟨⟨Nat.lt_succ_self _, hlt⟩, fun l hl => ⟨Nat.lt_succ_self _, hlt l hl⟩⟩
  · simp only [Clause.AllHold, List.forall_mem_cons, List.mem_reverse, List.forall_mem_map,
      Clause.holds_cons, Clause.holds_nil, Clause.holds_map_negate, Literal.holds, Bool.or_false,
      List.all_map, Function.id_comp]
    cases v s.size
    · simp
    · simp [Literal.holds]

theorem defines_defineOr {ls : List Literal} (hls : ∀ l ∈ ls, l.index < s.size) :
    Defines (fun bs => bs.any id) ls s (defineOr ls s) := by
  refine ⟨rfl, (⟨s.size, false⟩ :: ls) ::
    (ls.map fun l => [⟨s.size, true⟩, l.negate]).reverse, ?_, ?_, fun v => ?_⟩
  · simp only [defineOr, newVar]
    rw [foldl_require]
    rfl
  · have hlt := fun l hl => Nat.lt_succ_of_lt (hls l hl)
    simp only [List.forall_mem_cons, List.mem_reverse, List.forall_mem_map, Literal.negate,
      List.not_mem_nil, false_implies, implies_true, and_true]
    exact ⟨⟨Nat.lt_succ_self _, hlt⟩, fun l hl => ⟨Nat.lt_succ_self _, hlt l hl⟩⟩
  · simp only [Clause.AllHold, List.forall_mem_cons, List.mem_reverse, List.forall_mem_map,
      Clause.holds_cons, Clause.holds_nil, Literal.holds_negate, Bool.or_false, List.any_map,
      Function.id_comp]
    rw [Clause.holds]
    cases hi : v s.size
    · simp [Literal.holds, hi]
    · simp [Literal.holds, hi]

section

variable {op : List Bool → Bool} {ls : List Literal} {r : Literal × Solver}

theorem Defines.index_lt (hd : Defines op ls s r) : r.1.index < r.2.size := by
  obtain ⟨cs, hr, -⟩ := hd.exists_clauses
  rw [hd.literal_eq, hr]
  exact Nat.lt_succ_self _

/-- The clauses fix the value of the literal and say nothing else. -/
theorem Defines.holds_iff (hd : Defines op ls s r) :
    r.2.Holds v ↔ s.Holds v ∧ r.1.holds v = op (ls.map (Literal.holds v)) := by
  obtain ⟨cs, hr, -, hcs⟩ := hd.exists_clauses
  rw [hd.literal_eq, hr, Literal.holds, beq_true, ← hcs, Holds, Clause.AllHold,
    List.forall_mem_append]
  exact and_comm

/-- One more variable, with clauses that fix its value, imposes nothing. -/
theorem Defines.imposes (hd : Defines op ls s r) (h : s.WellFormed)
    (hls : ∀ l ∈ ls, l.index < s.size) : Imposes s r.2 fun _ => True := by
  have hiff := fun v => hd.holds_iff (v := v)
  rw [hd.literal_eq] at hiff
  obtain ⟨cs, hr, hlt, -⟩ := hd.exists_clauses
  rw [hr] at hiff ⊢
  exact {
    scopes_eq := rfl
    size_le := Nat.le_succ _
    clauses_suffix := List.suffix_append cs s.clauses
    wellFormed := {
      verum_mem := List.mem_append_right cs h.verum_mem
      clauses_lt := List.forall_mem_append.mpr ⟨hlt, h.newVar.clauses_lt⟩
      scopes_lt := h.newVar.scopes_lt }
    sound := fun _ _ => trivial
    complete := by
      intro v hv _
      let b := op (ls.map (Literal.holds v))
      have he : Set.EqOn (Function.update v s.size b) v (Set.Iio s.size) :=
        fun i hi => Function.update_of_ne (ne_of_lt hi) _ _
      have hmap : ls.map (Literal.holds (Function.update v s.size b)) =
          ls.map (Literal.holds v) :=
        List.map_congr_left fun l hl => by rw [Literal.holds, Literal.holds, he (hls l hl)]
      refine ⟨Function.update v s.size b, he, (hiff _).mpr ⟨hv.congr h he, ?_⟩⟩
      rw [hmap, Literal.holds, Function.update_self, beq_true] }

end

/-! ### Encoding -/

/-- The literal that stands for a formula: it has the value of the formula wherever the clauses
hold, and making it imposed nothing. -/
structure Encodes (f : Formula) (s : Solver) (r : Literal × Solver) : Prop where
  imposes : Imposes s r.2 fun _ => True
  index_lt : r.1.index < r.2.size
  holds_eq : ∀ v, r.2.Holds v → r.1.holds v = f.eval v

/-- The literals that stand for the formulas of a list. -/
structure EncodesAll (fs : List Formula) (s : Solver) (r : List Literal × Solver) : Prop where
  imposes : Imposes s r.2 fun _ => True
  index_lt : ∀ l ∈ r.1, l.index < r.2.size
  holds_eq : ∀ v, r.2.Holds v → r.1.map (Literal.holds v) = fs.map (Formula.eval v)

/-- Operands are encoded one after the other. -/
theorem encodesAll_encodeAll {fs : List Formula}
    (hfs : ∀ f ∈ fs, ∀ s : Solver, s.WellFormed → (∀ i ∈ f.vars, i < s.size) →
      Encodes f s (encode f s)) {s : Solver} (h : s.WellFormed)
    (hlt : ∀ f ∈ fs, ∀ i ∈ f.vars, i < s.size) : EncodesAll fs s (encodeAll fs s) := by
  induction fs generalizing s with
  | nil =>
    rw [encodeAll]
    exact ⟨.refl h, fun l hl => absurd hl List.not_mem_nil, fun v _ => rfl⟩
  | cons f fs ih =>
    rw [List.forall_mem_cons] at hfs hlt
    rw [encodeAll]
    have hf := hfs.1 s h hlt.1
    have hrest := ih hfs.2 hf.imposes.wellFormed
      fun g hg i hi => lt_of_lt_of_le (hlt.2 g hg i hi) hf.imposes.size_le
    refine ⟨?_, ?_, ?_⟩
    · exact (hf.imposes.trans hrest.imposes fun _ _ _ h => h).congr fun v => and_self_iff
    · rw [List.forall_mem_cons]
      exact ⟨lt_of_lt_of_le hf.index_lt hrest.imposes.size_le, hrest.index_lt⟩
    · intro v hv
      rw [List.map_cons, List.map_cons, hrest.holds_eq v hv,
        hf.holds_eq v (hv.of_suffix hrest.imposes.clauses_suffix)]

/-- Operands that are encoded make a connective encoded. -/
theorem EncodesAll.define {fs : List Formula} {f : Formula} {op : List Bool → Bool}
    {r : List Literal × Solver} {r' : Literal × Solver} (h : EncodesAll fs s r)
    (hd : Defines op r.1 r.2 r') (hop : ∀ v, op (fs.map (Formula.eval v)) = f.eval v) :
    Encodes f s r' where
  imposes := (h.imposes.trans (hd.imposes h.imposes.wellFormed h.index_lt)
    fun _ _ _ h => h).congr fun v => and_self_iff
  index_lt := hd.index_lt
  holds_eq := by
    intro v hv
    obtain ⟨hv, hvalue⟩ := hd.holds_iff.mp hv
    rw [hvalue, h.holds_eq v hv, hop]

/-- **Encoding is faithful**: over variables in use, a formula gets a literal with its value, and
no assignment of the variables there were is lost. -/
theorem encodes_encode (f : Formula) {s : Solver} (h : s.WellFormed)
    (hlt : ∀ i ∈ f.vars, i < s.size) : Encodes f s (encode f s) := by
  induction f generalizing s with
  | var i =>
    rw [encode]
    exact ⟨.refl h, hlt i (by simp [Formula.vars]),
      fun v _ => by simp [Literal.holds, Formula.eval]⟩
  | not f ih =>
    have hf := ih h hlt
    rw [encode]
    refine ⟨hf.imposes, hf.index_lt, fun v hv => ?_⟩
    rw [Literal.holds_negate, hf.holds_eq v hv, Formula.eval]
  | and fs ih =>
    cases fs with
    | nil =>
      rw [encode]
      refine ⟨.refl h, h.size_pos, fun v hv => ?_⟩
      simp [Literal.holds, verum, hv.verum h, Formula.eval, Formula.evalAll]
    | cons f fs =>
      have hfs := encodesAll_encodeAll (fun g hg s hs hl => ih g hg hs hl) h
        (Formula.forall_mem_varsAll.mp hlt)
      refine hfs.define (defines_defineAnd hfs.index_lt) fun v => ?_
      rw [Formula.eval, Formula.evalAll_eq_all, List.all_map, Function.id_comp]
  | or fs ih =>
    cases fs with
    | nil =>
      rw [encode]
      refine ⟨.refl h, h.size_pos, fun v hv => ?_⟩
      simp [Literal.holds, Literal.negate, verum, hv.verum h, Formula.eval, Formula.evalAny]
    | cons f fs =>
      have hfs := encodesAll_encodeAll (fun g hg s hs hl => ih g hg hs hl) h
        (Formula.forall_mem_varsAll.mp hlt)
      refine hfs.define (defines_defineOr hfs.index_lt) fun v => ?_
      rw [Formula.eval, Formula.evalAny_eq_any, List.any_map, Function.id_comp]

/-! ### Requiring a formula -/

/-- That a formula is true is a condition on its variables. -/
theorem eval_of_eqOn {f : Formula} {n : Nat} (hlt : ∀ i ∈ f.vars, i < n) (v w : Assignment)
    (he : Set.EqOn w v (Set.Iio n)) (hv : f.eval v = true) : f.eval w = true := by
  rw [Formula.eval_congr fun i hi => he (hlt i hi)]
  exact hv

theorem EncodesAll.holds_eq_or {fs : List Formula} {r : List Literal × Solver}
    (h : EncodesAll fs s r) (hv : r.2.Holds v) : Clause.holds v r.1 = (Formula.or fs).eval v := by
  have hany : Clause.holds v r.1 = (r.1.map (Literal.holds v)).any id := by
    rw [Clause.holds, List.any_map, Function.id_comp]
  rw [hany, h.holds_eq v hv, Formula.eval, Formula.evalAny_eq_any, List.any_map, Function.id_comp]

/-- Formulas required one after the other are required together. -/
theorem imposes_addAll {fs : List Formula}
    (hfs : ∀ f ∈ fs, ∀ s : Solver, s.WellFormed → (∀ i ∈ f.vars, i < s.size) →
      Imposes s (add f s) fun v => s.On v → f.eval v = true) {s : Solver} (h : s.WellFormed)
    (hlt : ∀ f ∈ fs, ∀ i ∈ f.vars, i < s.size) :
    Imposes s (addAll fs s) fun v => s.On v → ∀ f ∈ fs, f.eval v = true := by
  induction fs generalizing s with
  | nil =>
    rw [addAll]
    exact (Imposes.refl h).congr fun v => by simp
  | cons f fs ih =>
    rw [List.forall_mem_cons] at hfs hlt
    rw [addAll]
    have hf := hfs.1 s h hlt.1
    have hrest := ih hfs.2 hf.wellFormed
      fun g hg i hi => lt_of_lt_of_le (hlt.2 g hg i hi) hf.size_le
    have hon : ∀ v, (add f s).On v ↔ s.On v := fun v => by rw [On, On, hf.scopes_eq]
    refine (hf.trans hrest ?_).congr fun v => ?_
    · intro v w he hq hw g hg
      have hv := hq ((hon v).mpr (((hon w).mp hw).congr h he.symm)) g hg
      exact eval_of_eqOn (hlt.2 g hg) v w he hv
    · rw [hon, List.forall_mem_cons, imp_and]

/-- A negation is named by a literal. -/
theorem imposes_add_not {f : Formula} (h : s.WellFormed) (hlt : ∀ i ∈ f.vars, i < s.size) :
    Imposes s (add (.not f) s) fun v => s.On v → (Formula.not f).eval v = true := by
  have hf := encodes_encode f h hlt
  rw [add]
  refine hf.imposes.guarded h (List.forall_mem_singleton.mpr hf.index_lt) ?_ (eval_of_eqOn hlt)
  intro v hv
  rw [Clause.holds_cons, Clause.holds_nil, Bool.or_false, Literal.holds_negate,
    hf.holds_eq v hv, Formula.eval]

/-- A disjunction is made one clause of its operands. -/
theorem imposes_add_or {fs : List Formula} (h : s.WellFormed)
    (hlt : ∀ i ∈ (Formula.or fs).vars, i < s.size) :
    Imposes s (add (.or fs) s) fun v => s.On v → (Formula.or fs).eval v = true := by
  have hfs := encodesAll_encodeAll (fun g _ s hs hl => encodes_encode g hs hl) h
    (Formula.forall_mem_varsAll.mp hlt)
  rw [add]
  refine hfs.imposes.guarded h ?_ ?_ (eval_of_eqOn hlt)
  · split
    · exact List.forall_mem_singleton.mpr hfs.imposes.wellFormed.size_pos
    · exact hfs.index_lt
  · intro v hv
    rw [← hfs.holds_eq_or hv]
    split
    case isTrue hempty =>
      -- both sides are false: the constant is true, and there is no operand
      rw [List.isEmpty_iff.mp hempty]
      simp [Literal.holds, Literal.negate, verum, hv.verum hfs.imposes.wellFormed]
    case isFalse => exact Iff.rfl

/-- **Adding a formula imposes it under the innermost scope**, whatever its shape: split at the
top, made one clause, or named by a literal. -/
theorem imposes_add (f : Formula) {s : Solver} (h : s.WellFormed)
    (hlt : ∀ i ∈ f.vars, i < s.size) :
    Imposes s (add f s) fun v => s.On v → f.eval v = true := by
  induction f generalizing s with
  | var i =>
    rw [add]
    refine (imposes_guarded h ?_).congr fun v => ?_
    · simpa [Formula.vars] using hlt
    · simp [Literal.holds, Formula.eval]
  | not f ih => exact imposes_add_not h hlt
  | and fs ih =>
    have hall := Formula.forall_mem_varsAll.mp hlt
    rw [add]
    refine (imposes_addAll (fun g hg s hs hl => ih g hg hs hl) h hall).congr fun v => ?_
    rw [Formula.eval, Formula.evalAll_eq_all, List.all_eq_true]
  | or fs ih => exact imposes_add_or h hlt

end Solver

end Entail
