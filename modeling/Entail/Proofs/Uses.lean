/-
Entail/Proofs/Uses.lean

A theory in use.

A client mentions names, requires and assumes statements about them, compiles sketches and has names
decided (`Use`).  Variables are the theory's own affair: a statement speaks of names, and becomes a
formula over the variables the names have when its turn comes (`Statement.formulaAt`), so the same
uses can be put to two theories that number their variables differently.

Whatever a theory runs over, a use is made of mentioning, requiring and assuming
(`Theory.use_induction`).  Two consequences: what a solver does under another's view of it carries
over from calls to uses (`Theory.use_map`, `Theory.after_map`), and which names a theory knows
depends on the uses alone (`Theory.names_use_congr`).
-/
import Entail.Decision
import Entail.Proofs.Compilation
import Mathlib.Data.List.Basic

namespace Entail

/-! ### Renaming the variables of a formula -/

namespace Formula

mutual

/-- The formula with another variable for each of its variables. -/
def rename (g : Nat → Nat) : Formula → Formula
  | .var i => .var (g i)
  | .not f => .not (rename g f)
  | .and fs => .and (renameAll g fs)
  | .or fs => .or (renameAll g fs)

/-- The formulas of a list, renamed. -/
def renameAll (g : Nat → Nat) : List Formula → List Formula
  | [] => []
  | f :: fs => rename g f :: renameAll g fs

end

variable {g : Nat → Nat} {f : Formula}

theorem renameAll_eq_map (g : Nat → Nat) (fs : List Formula) :
    renameAll g fs = fs.map (rename g) := by
  induction fs with
  | nil => rfl
  | cons f fs ih => rw [renameAll, ih, List.map_cons]

theorem eval_rename (v : Assignment) (f : Formula) :
    (f.rename g).eval v = f.eval fun i => v (g i) := by
  induction f with
  | var i => rfl
  | not f ih => rw [rename, eval, eval, ih]
  | and fs ih =>
    simp only [rename, eval, renameAll_eq_map, evalAll_eq_all, List.all_map]
    rw [Bool.eq_iff_iff, List.all_eq_true, List.all_eq_true]
    exact forall₂_congr fun f hf => by rw [Function.comp_apply, ih f hf]
  | or fs ih =>
    simp only [rename, eval, renameAll_eq_map, evalAny_eq_any, List.any_map]
    rw [Bool.eq_iff_iff, List.any_eq_true, List.any_eq_true]
    exact exists_congr fun f => and_congr_right fun hf => by rw [Function.comp_apply, ih f hf]

theorem varsAll_eq_flatMap (fs : List Formula) : varsAll fs = fs.flatMap vars := by
  induction fs with
  | nil => rfl
  | cons f fs ih => rw [varsAll, ih, List.flatMap_cons]

theorem vars_rename (f : Formula) : (f.rename g).vars = f.vars.map g := by
  induction f with
  | var i => rfl
  | not f ih => rw [rename, vars, vars, ih]
  | and fs ih | or fs ih =>
    rw [rename, vars, vars, renameAll_eq_map, varsAll_eq_flatMap, varsAll_eq_flatMap,
      List.flatMap_map, List.map_flatMap]
    exact List.flatMap_congr fun f hf => ih f hf

/-- Only the variables that occur are renamed. -/
theorem rename_eq_self (h : ∀ i ∈ f.vars, g i = i) : f.rename g = f := by
  induction f with
  | var i => rw [rename, h i (by simp [vars])]
  | not f ih => rw [rename, ih h]
  | and fs ih | or fs ih =>
    simp only [vars, forall_mem_varsAll] at h
    rw [rename, renameAll_eq_map, List.map_congr_left fun f hf => ih f hf (h f hf), List.map_id']

end Formula

/-! ### Statements -/

/-- A formula that speaks of names: each of its variables stands for one. -/
structure Statement where
  formula : Formula
  name : Nat → String

namespace Statement

/-- The names it speaks of. -/
def names (s : Statement) : List String := s.formula.vars.map s.name

/-- The valuation is in accord with the statement. -/
def Holds (ρ : Valuation) (s : Statement) : Prop := s.formula.eval (fun i => ρ (s.name i)) = true

/-- That a name has a value. -/
def literal (name : String) (value : Bool) : Statement := ⟨.literal 0 value, fun _ => name⟩

/-- The formula that says it of the variables of the names. -/
def formulaAt (atoms : List (String × Nat)) (s : Statement) : Formula :=
  s.formula.rename fun i => (atoms.lookup (s.name i)).getD 0

theorem holds_literal {ρ : Valuation} {name : String} {value : Bool} :
    (literal name value).Holds ρ ↔ ρ name = value := by
  rw [Holds, literal, Formula.eval_literal, beq_iff_eq]

end Statement

/-! ### Uses and results -/

/-- What a client may do with a theory. -/
inductive Use where
  | mention (name : String)
  | require (s : Statement)
  | compile (sketch : Sketch)
  | assume (s : Statement)
  | decide (name : String)

/-- What a client gets back. -/
inductive Use.Result where
  | handle (i : Nat)
  | accepted
  | compiled (query : Nat) (report : Report)
  | outcome (o : Outcome)
  | decision (d : Decision)

/-- The result, but for the numbers of variables in it. -/
def Use.Result.anonymous : Use.Result → Use.Result
  | .handle _ => .handle 0
  | .compiled _ report => .compiled 0 report
  | r => r

/-- The use asks and tells nothing. -/
def Use.Probes : Use → Prop
  | .assume _ | .decide _ => True
  | _ => False

/-- What the use tells a theory is in accord with the valuation. -/
def Use.Tells (ρ : Valuation) : Use → Prop
  | .require s => s.Holds ρ
  | .compile sketch => sketch.Models ρ
  | _ => True

/-- A statement may speak of names that are known, and a name that is known may be decided. -/
def Use.Legal (names : List String) : Use → Prop
  | .require s | .assume s => ∀ n ∈ s.names, n ∈ names
  | .decide name => name ∈ names
  | _ => True

instance (names : List String) : (u : Use) → Decidable (u.Legal names)
  | .require s | .assume s => inferInstanceAs (Decidable (∀ n ∈ s.names, n ∈ names))
  | .decide name => inferInstanceAs (Decidable (name ∈ names))
  | .mention _ | .compile _ => instDecidableTrue

namespace Theory

variable {σ τ : Type} [Incremental σ] [Incremental τ]

/-- The names a theory knows. -/
def names (t : Theory σ) : List String := t.atoms.map Prod.fst

/-- One use. -/
def use (t : Theory σ) : Use → Use.Result × Theory σ
  | .mention name =>
    let (i, t) := t.ensure name
    (.handle i, t)
  | .require s => (.accepted, t.require (s.formulaAt t.atoms))
  | .compile sketch =>
    let ((query, report), t) := t.compile sketch
    (.compiled query report, t)
  | .assume s =>
    let (outcome, t) := t.assuming (s.formulaAt t.atoms)
    (.outcome outcome, t)
  | .decide name =>
    let (decision, t) := t.decide ((t.atoms.lookup name).getD 0)
    (.decision decision, t)

/-- The theory after some uses. -/
def after (t : Theory σ) : List Use → Theory σ
  | [] => t
  | u :: us => (t.use u).2.after us

/-- The results of some uses, in order. -/
def results (t : Theory σ) : List Use → List Use.Result
  | [] => []
  | u :: us => (t.use u).1 :: (t.use u).2.results us

/-- Every use is legal when its turn comes. -/
def Legal (t : Theory σ) : List Use → Prop
  | [] => True
  | u :: us => u.Legal t.names ∧ (t.use u).2.Legal us

instance decidableLegal : (t : Theory σ) → (uses : List Use) → Decidable (t.Legal uses)
  | _, [] => instDecidableTrue
  | t, u :: us =>
    have : Decidable ((t.use u).2.Legal us) := decidableLegal (t.use u).2 us
    inferInstanceAs (Decidable (u.Legal t.names ∧ (t.use u).2.Legal us))

section

variable {t : Theory σ} {before later : List Use}

theorem after_append : t.after (before ++ later) = (t.after before).after later := by
  induction before generalizing t with
  | nil => rfl
  | cons u before ih => exact ih

theorem results_append :
    t.results (before ++ later) = t.results before ++ (t.after before).results later := by
  induction before generalizing t with
  | nil => rfl
  | cons u before ih => rw [List.cons_append, results, ih]; rfl

theorem length_results (t : Theory σ) (uses : List Use) :
    (t.results uses).length = uses.length := by
  induction uses generalizing t with
  | nil => rfl
  | cons u uses ih => rw [results, List.length_cons, ih, List.length_cons]

/-- The results are those of the uses, each on the theory that the uses before it left. -/
theorem getElem?_results (t : Theory σ) (before : List Use) (u : Use) (later : List Use) :
    (t.results (before ++ u :: later))[before.length]? = some ((t.after before).use u).1 := by
  rw [results_append, List.getElem?_append_right (length_results t before).le, length_results,
    Nat.sub_self, results, List.getElem?_cons_zero]

theorem legal_append_iff :
    t.Legal (before ++ later) ↔ t.Legal before ∧ (t.after before).Legal later := by
  induction before generalizing t with
  | nil => simp [Legal, after]
  | cons u before ih => simp [Legal, after, ih, and_assoc]

end

/-! ### What a use is made of -/

section

variable {p : Theory σ → Prop} (hensure : ∀ name t, p t → p (t.ensure name).2)
  (hrequire : ∀ f t, p t → p (t.require f)) {t : Theory σ}
include hensure

theorem ensureAll_induction (names : List String) (h : p t) : p (t.ensureAll names).2 := by
  induction names generalizing t with
  | nil => exact h
  | cons name names ih => exact ih (hensure name t h)

theorem formulaOf_induction (r : Rule) (h : p t) : p (t.formulaOf r).2 := by
  cases r with
  | fact subject value => exact hensure subject t h
  | implication premises conclusion value =>
    exact hensure conclusion _ (ensureAll_induction hensure premises h)

include hrequire

theorem compileEntries_induction (n : Nat) (es : List Entry) (h : p t) :
    p (t.compileEntries n es).2 := by
  induction es generalizing n t with
  | nil => exact h
  | cons e es ih =>
    cases he : e.rule? with
    | error d =>
      rw [compileEntries_of_error he]
      exact ih (n + 1) h
    | ok r =>
      rw [compileEntries_of_ok he]
      exact ih (n + 1) (hrequire _ _ (formulaOf_induction hensure r h))

theorem compile_induction (sketch : Sketch) (h : p t) : p (t.compile sketch).2 :=
  hensure sketch.query _ (compileEntries_induction hensure hrequire 0 sketch.entries
    (ensureAll_induction hensure sketch.declared h))

/-- **A use is made of mentioning, requiring and assuming**: what these keep every use keeps. -/
theorem use_induction (hassuming : ∀ f t, p t → p (t.assuming f).2) (u : Use) (h : p t) :
    p (t.use u).2 := by
  cases u with
  | mention name => exact hensure name t h
  | require s => exact hrequire _ t h
  | compile sketch => exact compile_induction hensure hrequire sketch h
  | assume s => exact hassuming _ t h
  | decide name => exact hassuming _ _ (hassuming _ t h)

theorem after_induction (hassuming : ∀ f t, p t → p (t.assuming f).2) (uses : List Use) (h : p t) :
    p (t.after uses) := by
  induction uses generalizing t with
  | nil => exact h
  | cons u uses ih => exact ih (use_induction hensure hrequire hassuming u h)

end

/-- The atoms stay, with their variables. -/
theorem atoms_suffix_compile (sketch : Sketch) (t : Theory σ) :
    t.atoms <:+ (t.compile sketch).2.atoms :=
  compile_induction (p := fun t' => t.atoms <:+ t'.atoms)
    (fun name t' h => h.trans (atoms_suffix_ensure name t')) (fun _ _ h => h) sketch
    List.suffix_rfl

theorem atoms_suffix_after (uses : List Use) (t : Theory σ) :
    t.atoms <:+ (t.after uses).atoms :=
  after_induction (p := fun t' => t.atoms <:+ t'.atoms)
    (fun name t' h => h.trans (atoms_suffix_ensure name t')) (fun _ _ h => h) (fun _ _ h => h) uses
    List.suffix_rfl

/-! ### Names and reports depend on the uses alone -/

section

variable {t : Theory σ} {t' : Theory τ}

theorem names_ensure (name : String) (t : Theory σ) :
    (t.ensure name).2.names = if name ∈ t.names then t.names else name :: t.names := by
  unfold ensure
  split
  case _ i hi =>
    obtain ⟨before, after, heq, -⟩ := List.lookup_eq_some_iff.mp hi
    rw [if_pos]
    simp [names, heq]
  case _ hnone =>
    exact (if_neg (lookup_eq_none_iff_not_mem.mp hnone)).symm

theorem names_ensure_congr (name : String) (h : t.names = t'.names) :
    (t.ensure name).2.names = (t'.ensure name).2.names := by
  rw [names_ensure, names_ensure, h]

theorem names_ensureAll_congr (ns : List String) (h : t.names = t'.names) :
    (t.ensureAll ns).2.names = (t'.ensureAll ns).2.names := by
  induction ns generalizing t t' with
  | nil => exact h
  | cons name ns ih => exact ih (names_ensure_congr name h)

theorem names_formulaOf_congr (r : Rule) (h : t.names = t'.names) :
    (t.formulaOf r).2.names = (t'.formulaOf r).2.names := by
  cases r with
  | fact subject value => exact names_ensure_congr subject h
  | implication premises conclusion value =>
    exact names_ensure_congr conclusion (names_ensureAll_congr premises h)

/-- Entries are skipped and counted as they are, and they mention the same names, whatever the
variables are. -/
theorem compileEntries_congr (n : Nat) (es : List Entry) (h : t.names = t'.names) :
    (t.compileEntries n es).1 = (t'.compileEntries n es).1 ∧
      (t.compileEntries n es).2.names = (t'.compileEntries n es).2.names := by
  induction es generalizing n t t' with
  | nil => exact ⟨rfl, h⟩
  | cons e es ih =>
    cases he : e.rule? with
    | error d =>
      obtain ⟨hreport, hnames⟩ := ih (n + 1) h
      rw [report_of_error he, report_of_error he, compileEntries_of_error he,
        compileEntries_of_error he, hreport]
      exact ⟨rfl, hnames⟩
    | ok r =>
      have hrequired : ((t.formulaOf r).2.require (t.formulaOf r).1).names =
          ((t'.formulaOf r).2.require (t'.formulaOf r).1).names := names_formulaOf_congr r h
      obtain ⟨hreport, hnames⟩ := ih (n + 1) hrequired
      rw [report_of_ok he, report_of_ok he, compileEntries_of_ok he, compileEntries_of_ok he,
        hreport]
      exact ⟨rfl, hnames⟩

theorem compile_congr (sketch : Sketch) (h : t.names = t'.names) :
    (t.compile sketch).1.2 = (t'.compile sketch).1.2 ∧
      (t.compile sketch).2.names = (t'.compile sketch).2.names := by
  obtain ⟨hreport, hnames⟩ :=
    compileEntries_congr 0 sketch.entries (names_ensureAll_congr sketch.declared h)
  refine ⟨?_, names_ensure_congr sketch.query hnames⟩
  rw [compile, compile]
  simp only [hreport]

theorem names_use_congr (u : Use) (h : t.names = t'.names) :
    (t.use u).2.names = (t'.use u).2.names := by
  cases u with
  | mention name => exact names_ensure_congr name h
  | compile sketch => exact (compile_congr sketch h).2
  | require s | assume s | decide name => exact h

/-- A probe makes no name known. -/
theorem names_use_of_probes {u : Use} (hu : u.Probes) : (t.use u).2.names = t.names := by
  cases u with
  | assume s | decide name => rfl
  | mention name | require s | compile sketch => exact hu.elim

theorem legal_congr {uses : List Use} (h : t.names = t'.names) : t.Legal uses ↔ t'.Legal uses := by
  induction uses generalizing t t' with
  | nil => exact Iff.rfl
  | cons u uses ih => rw [Legal, Legal, h, ih (names_use_congr u h)]

end

end Theory

end Entail
