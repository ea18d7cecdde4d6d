/-
Entail/Proofs/Extension.lean

Encoding a formula only gives names to what it says.

Clauses fix variables (`Fixes`) if they can be made to hold over all values of the variables there
were, as long as the constant is true, and in one way only.  No clauses at all fix no variable, the
clauses of a connective fix the one variable that stands for it, and clauses that fix variables one
after the other fix all of them together (`Fixes.append`).  The last is why the variables of
different operands must not clash, and it needs both directions of each definition: one for the way
to exist, the other for there to be no second way.

What the solver held before plays no part in this, so it is said of the added clauses alone.

Main result: encoding a formula fixes one more variable for each of its connectives that has
operands, and gives a literal with the value of the formula (`Solver.encode_extends`).
-/
import Entail.Proofs.Encoding

namespace Entail

namespace Formula

mutual

/-- How many conjunctions and disjunctions with operands stand in a formula. -/
def connectives : Formula → Nat
  | .var _ => 0
  | .not f => connectives f
  | .and [] => 0
  | .and (f :: fs) => connectives f + connectivesAll fs + 1
  | .or [] => 0
  | .or (f :: fs) => connectives f + connectivesAll fs + 1

/-- How many conjunctions and disjunctions with operands stand in the formulas of a list. -/
def connectivesAll : List Formula → Nat
  | [] => 0
  | f :: fs => connectives f + connectivesAll fs

end

end Formula

/-! ### Values for more variables -/

namespace Assignment

/-- The assignment with other values for the variables from `n` on, as far as values are given. -/
def extend (v : Assignment) (n : Nat) {k : Nat} (values : Fin k → Bool) : Assignment := fun i =>
  if n ≤ i then if h : i - n < k then values ⟨i - n, h⟩ else v i else v i

variable {v w : Assignment} {n k : Nat} {values values' : Fin k → Bool}

theorem extend_of_lt {i : Nat} (hi : i < n) : v.extend n values i = v i := by
  rw [extend, if_neg (Nat.not_le_of_lt hi)]

theorem extend_add (j : Fin k) : v.extend n values (n + j) = values j := by
  have hj : n + j - n < k := by
    rw [Nat.add_sub_cancel_left]
    exact j.isLt
  rw [extend, if_pos (Nat.le_add_right n j), dif_pos hj]
  congr 1
  exact Fin.ext (Nat.add_sub_cancel_left n j)

/-- Every assignment of the variables below `n + k` gives values for the last `k` of them. -/
theorem eqOn_extend (h : Set.EqOn w v (Set.Iio n)) :
    Set.EqOn (v.extend n fun j : Fin k => w (n + j)) w (Set.Iio (n + k)) := by
  intro i hi
  by_cases hn : i < n
  · rw [extend_of_lt hn, h hn]
  · obtain ⟨j, rfl⟩ := Nat.exists_eq_add_of_le (Nat.le_of_not_lt hn)
    exact extend_add (⟨j, Nat.add_lt_add_iff_left.mp hi⟩ : Fin k)

theorem extend_injective
    (h : Set.EqOn (v.extend n values) (v.extend n values') (Set.Iio (n + k))) :
    values = values' := by
  funext j
  have hj := h (show n + j.val ∈ Set.Iio (n + k) from Nat.add_lt_add_left j.isLt n)
  rwa [extend_add, extend_add] at hj

end Assignment

/-- Whether clauses hold depends on the variables in them only. -/
theorem Clause.AllHold.congr {v w : Assignment} {cs : List Clause} (hv : Clause.AllHold v cs)
    (h : ∀ c ∈ cs, ∀ l ∈ c, w l.index = v l.index) : Clause.AllHold w cs := by
  intro c hc
  obtain ⟨l, hl, hlv⟩ := Clause.holds_eq_true_iff.mp (hv c hc)
  refine Clause.holds_eq_true_iff.mpr ⟨l, hl, ?_⟩
  rw [Literal.holds, h c hc l hl]
  exact hlv

theorem Clause.allHold_append {v : Assignment} {cs ds : List Clause} :
    Clause.AllHold v (cs ++ ds) ↔ Clause.AllHold v cs ∧ Clause.AllHold v ds :=
  List.forall_mem_append

namespace Solver

variable {s : Solver} {v w : Assignment} {n k : Nat} {cs : List Clause}

/-! ### Clauses that fix variables -/

/-- Over all values of the first `n` variables in which the constant is true, the clauses hold for
exactly one choice of values for the `k` variables after them, and they speak of no others. -/
structure Fixes (n k : Nat) (cs : List Clause) : Prop where
  index_lt : ∀ c ∈ cs, ∀ l ∈ c, l.index < n + k
  exists_eqOn : ∀ v : Assignment, v verum.index = true →
    ∃ w, Set.EqOn w v (Set.Iio n) ∧ Clause.AllHold w cs
  eqOn : ∀ v w : Assignment, v verum.index = true → Clause.AllHold v cs → Clause.AllHold w cs →
    Set.EqOn w v (Set.Iio n) → Set.EqOn w v (Set.Iio (n + k))

theorem Fixes.nil (n : Nat) : Fixes n 0 [] where
  index_lt := fun _ hc => absurd hc List.not_mem_nil
  exists_eqOn := fun v _ => ⟨v, fun _ _ => rfl, fun _ hc => absurd hc List.not_mem_nil⟩
  eqOn := fun _ _ _ _ _ he => he

/-- Variables that are fixed one after the other are fixed together. -/
theorem Fixes.append {k' : Nat} {cs' : List Clause} (hn : verum.index < n) (h : Fixes n k cs)
    (h' : Fixes (n + k) k' cs') : Fixes n (k + k') (cs' ++ cs) where
  index_lt := by
    rw [List.forall_mem_append, ← Nat.add_assoc]
    exact ⟨h'.index_lt, fun c hc l hl => Nat.lt_add_right k' (h.index_lt c hc l hl)⟩
  exists_eqOn := by
    intro v hv
    obtain ⟨w, hw, hcs⟩ := h.exists_eqOn v hv
    obtain ⟨x, hx, hcs'⟩ := h'.exists_eqOn w ((hw hn).trans hv)
    -- the first clauses speak only of variables that are not touched again
    have hxw : Clause.AllHold x cs := hcs.congr fun c hc l hl => hx (h.index_lt c hc l hl)
    refine ⟨x, fun i hi => ?_, Clause.allHold_append.mpr ⟨hcs', hxw⟩⟩
    rw [hx (Nat.lt_add_right k hi), hw hi]
  eqOn := by
    intro v w hverum hv hw he
    rw [Clause.allHold_append] at hv hw
    rw [← Nat.add_assoc]
    exact h'.eqOn v w hverum hv.1 hw.1 (h.eqOn v w hverum hv.2 hw.2 he)

/-- The clauses of a connective fix the variable that stands for it. -/
theorem Defines.fixes {op : List Bool → Bool} {ls : List Literal} {r : Literal × Solver}
    (hd : Defines op ls s r) (hls : ∀ l ∈ ls, l.index < s.size) :
    ∃ cs, r.2 = ⟨s.size + 1, cs ++ s.clauses, s.scopes⟩ ∧ Fixes s.size 1 cs ∧
      ∀ v, Clause.AllHold v cs → r.1.holds v = op (ls.map (Literal.holds v)) := by
  obtain ⟨cs, hr, hlt, hcs⟩ := hd.exists_clauses
  have hmap : ∀ v w : Assignment, Set.EqOn w v (Set.Iio s.size) →
      ls.map (Literal.holds w) = ls.map (Literal.holds v) := by
    intro v w he
    refine List.map_congr_left fun l hl => ?_
    rw [Literal.holds, Literal.holds, he (hls l hl)]
  refine ⟨cs, hr, ⟨hlt, ?_, ?_⟩, ?_⟩
  · intro v _
    let b := op (ls.map (Literal.holds v))
    have he : Set.EqOn (Function.update v s.size b) v (Set.Iio s.size) :=
      fun i hi => Function.update_of_ne (ne_of_lt hi) _ _
    refine ⟨Function.update v s.size b, he, (hcs _).mpr ?_⟩
    rw [hmap v _ he, Function.update_self]
  · intro v w _ hv hw he i hi
    rcases Nat.lt_succ_iff_lt_or_eq.mp hi with hi | rfl
    · exact he hi
    · rw [(hcs w).mp hw, (hcs v).mp hv, hmap v w he]
  · intro v hv
    rw [hd.literal_eq, Literal.holds, beq_true]
    exact (hcs v).mp hv

/-- Clauses that fix a variable speak of it: else its value could be changed. -/
theorem Fixes.exists_mem (h : Fixes n k cs) (hn : verum.index < n) {i : Nat} (hni : n ≤ i)
    (hi : i < n + k) : ∃ c ∈ cs, ∃ l ∈ c, l.index = i := by
  by_contra hnone
  obtain ⟨w, hw, hcs⟩ := h.exists_eqOn (fun _ => true) rfl
  have hx : Clause.AllHold (Function.update w i (!w i)) cs := by
    refine hcs.congr fun c hc l hl => Function.update_of_ne ?_ _ _
    intro heq
    exact hnone ⟨c, hc, l, hl, heq⟩
  have hxw : Set.EqOn (Function.update w i (!w i)) w (Set.Iio n) :=
    fun j hj => Function.update_of_ne (ne_of_lt (lt_of_lt_of_le hj hni)) _ _
  have hsame : Function.update w i (!w i) i = w i := h.eqOn w _ (hw hn) hcs hx hxw hi
  rw [Function.update_self] at hsame
  exact Bool.not_ne_self _ hsame

/-- The values of the fixed variables, as values for these variables alone. -/
theorem Fixes.existsUnique (h : Fixes n k cs) (hn : verum.index < n)
    (hv : v verum.index = true) :
    ∃! values : Fin k → Bool, Clause.AllHold (v.extend n values) cs := by
  obtain ⟨w, hw, hcs⟩ := h.exists_eqOn v hv
  have he := Assignment.eqOn_extend (k := k) hw
  refine ⟨fun j => w (n + j), ?_, ?_⟩
  · exact hcs.congr fun c hc l hl => he (h.index_lt c hc l hl)
  · intro values hvalues
    refine Assignment.extend_injective (v := v) (n := n) ?_
    have hext : Clause.AllHold (v.extend n fun j : Fin k => w (n + j)) cs :=
      hcs.congr fun c hc l hl => he (h.index_lt c hc l hl)
    refine h.eqOn _ _ ((Assignment.extend_of_lt hn).trans hv) hext hvalues fun i hi => ?_
    rw [Assignment.extend_of_lt hi, Assignment.extend_of_lt hi]

/-! ### Encoding -/

/-- A literal stands for a formula, by clauses that fix a variable for each of its connectives. -/
structure Names (f : Formula) (s : Solver) (added : List Clause) (r : Literal × Solver) :
    Prop where
  eq : r.2 = ⟨s.size + f.connectives, added ++ s.clauses, s.scopes⟩
  fixes : Fixes s.size f.connectives added
  index_lt : r.1.index < s.size + f.connectives
  holds_eq : ∀ v : Assignment, v verum.index = true → Clause.AllHold v added →
    r.1.holds v = f.eval v

/-- Literals stand for the formulas of a list. -/
structure NamesAll (fs : List Formula) (s : Solver) (added : List Clause)
    (r : List Literal × Solver) : Prop where
  eq : r.2 = ⟨s.size + Formula.connectivesAll fs, added ++ s.clauses, s.scopes⟩
  fixes : Fixes s.size (Formula.connectivesAll fs) added
  index_lt : ∀ l ∈ r.1, l.index < s.size + Formula.connectivesAll fs
  holds_eq : ∀ v : Assignment, v verum.index = true → Clause.AllHold v added →
    r.1.map (Literal.holds v) = fs.map (Formula.eval v)

/-- Operands are named one after the other. -/
theorem namesAll_encodeAll {fs : List Formula}
    (hfs : ∀ f ∈ fs, ∀ s : Solver, verum.index < s.size → (∀ i ∈ f.vars, i < s.size) →
      ∃ added, Names f s added (encode f s)) {s : Solver} (h : verum.index < s.size)
    (hlt : ∀ f ∈ fs, ∀ i ∈ f.vars, i < s.size) :
    ∃ added, NamesAll fs s added (encodeAll fs s) := by
  induction fs generalizing s with
  | nil =>
    rw [encodeAll]
    exact ⟨[], rfl, .nil s.size, fun l hl => absurd hl List.not_mem_nil, fun v _ _ => rfl⟩
  | cons f fs ih =>
    rw [List.forall_mem_cons] at hfs hlt
    obtain ⟨added, hf⟩ := hfs.1 s h hlt.1
    have hsize : (encode f s).2.size = s.size + f.connectives := by rw [hf.eq]
    have hle : s.size ≤ (encode f s).2.size := hsize ▸ Nat.le_add_right _ _
    obtain ⟨added', hrest⟩ := ih hfs.2 (lt_of_lt_of_le h hle)
      fun g hg i hi => lt_of_lt_of_le (hlt.2 g hg i hi) hle
    rw [encodeAll]
    refine ⟨added' ++ added, ?_, ?_, ?_, ?_⟩
    · show (encodeAll fs (encode f s).2).2 = _
      rw [hrest.eq, hf.eq, Formula.connectivesAll, Nat.add_assoc, List.append_assoc]
    · have hfixes := hrest.fixes
      rw [hsize] at hfixes
      exact hf.fixes.append h hfixes
    · have hindex := hrest.index_lt
      rw [hsize, Nat.add_assoc] at hindex
      rw [List.forall_mem_cons, Formula.connectivesAll, ← Nat.add_assoc]
      exact ⟨Nat.lt_add_right _ hf.index_lt, by simpa only [Nat.add_assoc] using hindex⟩
    · intro v hverum hv
      rw [Clause.allHold_append] at hv
      rw [List.map_cons, List.map_cons, hf.holds_eq v hverum hv.2,
        hrest.holds_eq v hverum hv.1]

/-- Operands that are named make a connective named, by one more variable. -/
theorem NamesAll.define {fs : List Formula} {f : Formula} {op : List Bool → Bool}
    {added : List Clause} {r : List Literal × Solver} {r' : Literal × Solver}
    (h : NamesAll fs s added r) (hs : verum.index < s.size) (hd : Defines op r.1 r.2 r')
    (hcount : f.connectives = Formula.connectivesAll fs + 1)
    (hop : ∀ v, op (fs.map (Formula.eval v)) = f.eval v) : ∃ added', Names f s added' r' := by
  have hsize : r.2.size = s.size + Formula.connectivesAll fs := by rw [h.eq]
  obtain ⟨cs, hr, hfixes, hvalue⟩ := hd.fixes (by rw [hsize]; exact h.index_lt)
  rw [hsize] at hfixes
  refine ⟨cs ++ added, ?_, ?_, ?_, ?_⟩
  · rw [hr, h.eq, hcount, Nat.add_assoc, List.append_assoc]
  · rw [hcount]
    exact h.fixes.append hs hfixes
  · rw [hd.literal_eq, hcount, hsize]
    exact Nat.lt_succ_self _
  · intro v hverum hv
    rw [Clause.allHold_append] at hv
    rw [hvalue v hv.1, h.holds_eq v hverum hv.2, hop]

/-- A formula over variables in use is named. -/
theorem names_encode (f : Formula) {s : Solver} (h : verum.index < s.size)
    (hlt : ∀ i ∈ f.vars, i < s.size) : ∃ added, Names f s added (encode f s) := by
  induction f generalizing s with
  | var i =>
    rw [encode]
    refine ⟨[], rfl, .nil s.size, hlt i (by simp [Formula.vars]), fun v _ _ => ?_⟩
    simp [Literal.holds, Formula.eval]
  | not f ih =>
    obtain ⟨added, hf⟩ := ih h hlt
    rw [encode]
    refine ⟨added, hf.eq, hf.fixes, hf.index_lt, fun v hverum hv => ?_⟩
    rw [Literal.holds_negate, hf.holds_eq v hverum hv, Formula.eval]
  | and fs ih =>
    cases fs with
    | nil =>
      -- the constant, which is true
      rw [encode]
      refine ⟨[], rfl, .nil s.size, h, fun v hverum _ => ?_⟩
      rw [Literal.holds, hverum]
      rfl
    | cons f fs =>
      obtain ⟨added, hfs⟩ := namesAll_encodeAll (fun g hg s hs hl => ih g hg hs hl) h
        (Formula.forall_mem_varsAll.mp hlt)
      have hlt' : ∀ l ∈ (encodeAll (f :: fs) s).1, l.index < (encodeAll (f :: fs) s).2.size := by
        rw [hfs.eq]
        exact hfs.index_lt
      refine hfs.define h (defines_defineAnd hlt') rfl fun v => ?_
      rw [Formula.eval, Formula.evalAll_eq_all, List.all_map, Function.id_comp]
  | or fs ih =>
    cases fs with
    | nil =>
      rw [encode]
      refine ⟨[], rfl, .nil s.size, h, fun v hverum _ => ?_⟩
      rw [Literal.holds_negate, Literal.holds, hverum]
      rfl
    | cons f fs =>
      obtain ⟨added, hfs⟩ := namesAll_encodeAll (fun g hg s hs hl => ih g hg hs hl) h
        (Formula.forall_mem_varsAll.mp hlt)
      have hlt' : ∀ l ∈ (encodeAll (f :: fs) s).1, l.index < (encodeAll (f :: fs) s).2.size := by
        rw [hfs.eq]
        exact hfs.index_lt
      refine hfs.define h (defines_defineOr hlt') rfl fun v => ?_
      rw [Formula.eval, Formula.evalAny_eq_any, List.any_map, Function.id_comp]

/-- **Encoding is a definitional extension.**  A formula over variables in use is encoded by adding
clauses, and by taking the next unused variables, one for each connective with operands.  The added
clauses speak of all these variables, and else only of variables there were.  Whatever the solver
holds, every assignment in which the constant is true can be continued to the new variables in
exactly one way such that the added clauses hold, and then the literal has the value of the
formula. -/
theorem encode_extends (f : Formula) (s : Solver) (hverum : verum.index < s.size)
    (hvars : ∀ i ∈ f.vars, i < s.size) :
    ∃ added, (encode f s).2 = ⟨s.size + f.connectives, added ++ s.clauses, s.scopes⟩ ∧
      (encode f s).1.index < s.size + f.connectives ∧
      (∀ i, s.size ≤ i →
        ((∃ c ∈ added, ∃ l ∈ c, l.index = i) ↔ i < s.size + f.connectives)) ∧
      ∀ v : Assignment, v verum.index = true →
        (∃! values : Fin f.connectives → Bool, Clause.AllHold (v.extend s.size values) added) ∧
        ∀ values : Fin f.connectives → Bool, Clause.AllHold (v.extend s.size values) added →
          (encode f s).1.holds (v.extend s.size values) = f.eval v := by
  obtain ⟨added, h⟩ := names_encode f hverum hvars
  refine ⟨added, h.eq, h.index_lt, fun i hi => ⟨?_, h.fixes.exists_mem hverum hi⟩, ?_⟩
  · rintro ⟨c, hc, l, hl, rfl⟩
    exact h.fixes.index_lt c hc l hl
  · intro v hv
    refine ⟨h.fixes.existsUnique hverum hv, fun values hvalues => ?_⟩
    rw [h.holds_eq _ ((Assignment.extend_of_lt hverum).trans hv) hvalues]
    exact Formula.eval_congr fun i hi => Assignment.extend_of_lt (hvars i hi)

/-- Empty connectives and those of one operand, a connective under a negation, and the same kind of
connective under itself. -/
def layered : Formula :=
  .or [.and [.var 1, .not (.and [])], .not (.and [.var 2]), .or [.or []]]

/-- Four variables in use, and a scope that holds a constraint. -/
def withinScope : Solver := add (.not (.var 1)) (push fresh.newVar.2.newVar.2)

theorem encode_extends_layered :
    verum.index < withinScope.size ∧ (∀ i ∈ layered.vars, i < withinScope.size) ∧
      ∃ added, (encode layered withinScope).2 =
          ⟨4 + 4, added ++ withinScope.clauses, withinScope.scopes⟩ ∧
        ∀ v : Assignment, v verum.index = true →
          (∃! values : Fin 4 → Bool, Clause.AllHold (v.extend 4 values) added) ∧
          ∀ values : Fin 4 → Bool, Clause.AllHold (v.extend 4 values) added →
            (encode layered withinScope).1.holds (v.extend 4 values) = layered.eval v := by
  have hverum : verum.index < withinScope.size := by decide
  have hvars : ∀ i ∈ layered.vars, i < withinScope.size := by decide
  obtain ⟨added, heq, -, -, hunique⟩ := encode_extends layered withinScope hverum hvars
  exact ⟨hverum, hvars, added, heq, hunique⟩

end Solver

end Entail
