/-
Entail/Proofs/Probing.lean

A theory only learns, and asking it something teaches it nothing.

What a theory was told is a condition on valuations of the names (`Theory.Knows`).  Statements and
sketches add to the condition, mentioning a name and probing leave it as it is, although each probe
takes variables and leaves clauses behind (`Theory.Knows.use`).  The result of a probe depends on
the condition only (`Theory.Knows.right_use`), and not on the variables, so a probe may be left out
without a difference to any other (`Theory.map_anonymous_results_eq`).

Main result: this for every sequence of uses of one theory, together with what keeps the variables
of its names apart from all others (`uses_of_theory`).
-/
import Entail.Proofs.Entailment
import Entail.Proofs.Purposes
import Mathlib.Data.List.Nodup

namespace Entail

/-! ### Statements as formulas -/

section

variable {atoms : List (String × Nat)} {name : String} {i : Nat}

theorem mem_of_mem_names (h : name ∈ atoms.map Prod.fst) :
    (name, (atoms.lookup name).getD 0) ∈ atoms := by
  cases hi : atoms.lookup name with
  | none => exact absurd h (lookup_eq_none_iff_not_mem.mp hi)
  | some i =>
    obtain ⟨before, after, rfl, -⟩ := List.lookup_eq_some_iff.mp hi
    exact List.mem_append_right _ List.mem_cons_self

theorem lookup_eq_of_mem (hnodup : (atoms.map Prod.fst).Nodup) (h : (name, i) ∈ atoms) :
    atoms.lookup name = some i := by
  obtain ⟨before, after, rfl⟩ := List.append_of_mem h
  rw [List.map_append, List.nodup_append] at hnodup
  refine List.lookup_eq_some_iff.mpr ⟨before, after, rfl, fun a ha => ?_⟩
  exact bne_iff_ne.mpr (hnodup.2.2 a.1 (List.mem_map_of_mem ha) name List.mem_cons_self).symm

end

namespace Statement

variable {s : Statement} {atoms : List (String × Nat)}

/-- Over the variables of its names a statement says what it says. -/
theorem eval_formulaAt (hs : ∀ n ∈ s.names, n ∈ atoms.map Prod.fst) {ρ : Valuation} {v : Assignment}
    (h : Agrees atoms ρ v) : (s.formulaAt atoms).eval v = true ↔ s.Holds ρ := by
  rw [formulaAt, Formula.eval_rename, Holds]
  refine Eq.congr_left (Formula.eval_congr fun i hi => ?_)
  exact h _ (mem_of_mem_names (hs _ (List.mem_map_of_mem hi)))

theorem vars_formulaAt (hs : ∀ n ∈ s.names, n ∈ atoms.map Prod.fst) :
    ∀ i ∈ (s.formulaAt atoms).vars, i ∈ atoms.map Prod.snd := by
  rw [formulaAt, Formula.vars_rename, List.forall_mem_map]
  exact fun i hi => List.mem_map_of_mem (mem_of_mem_names (hs _ (List.mem_map_of_mem hi)))

theorem formulaAt_literal (name : String) (value : Bool) :
    (literal name value).formulaAt atoms = .literal ((atoms.lookup name).getD 0) value := by
  cases value <;> rfl

/-- Every formula over handles is a statement about names. -/
theorem exists_formulaAt_eq (hnodup : (atoms.map Prod.fst).Nodup) {f : Formula}
    (hf : ∀ i ∈ f.vars, i ∈ atoms.map Prod.snd) :
    ∃ s : Statement, (∀ n ∈ s.names, n ∈ atoms.map Prod.fst) ∧ s.formulaAt atoms = f := by
  have hname : ∀ i ∈ f.vars, ∃ n, (n, i) ∈ atoms := by
    intro i hi
    obtain ⟨a, ha, rfl⟩ := List.mem_map.mp (hf i hi)
    exact ⟨a.1, ha⟩
  choose! name hname using hname
  refine ⟨⟨f, name⟩, ?_, Formula.rename_eq_self fun i hi => ?_⟩
  · rw [names, List.forall_mem_map]
    exact fun i hi => List.mem_map_of_mem (hname i hi)
  · rw [lookup_eq_of_mem hnodup (hname i hi)]
    rfl

end Statement

/-! ### What a theory knows -/

namespace Theory

variable {t t' : Theory Solver} {fs : List Formula} {p q : Valuation → Prop} {s : Statement}

/-- A theory that knows nothing yet. -/
def fresh : Theory Solver := ⟨Solver.fresh, []⟩

/-- The constraints of the theory hold exactly where the condition does. -/
def Knows (t : Theory Solver) (p : Valuation → Prop) : Prop :=
  ∃ fs, t.Asserts fs ∧ ∀ ρ v, Agrees t.atoms ρ v → ((∀ f ∈ fs, f.eval v = true) ↔ p ρ)

theorem knows_fresh : fresh.Knows fun _ => True :=
  ⟨[], asserts_fresh, fun _ _ _ => by simp⟩

theorem Knows.congr (h : t.Knows p) (hpq : ∀ ρ, p ρ ↔ q ρ) : t.Knows q := by
  obtain rfl : p = q := funext fun ρ => propext (hpq ρ)
  exact h

theorem Knows.names_nodup (h : t.Knows p) : t.names.Nodup := by
  obtain ⟨fs, hfs, -⟩ := h
  exact hfs.names_nodup

theorem Knows.handles_nodup (h : t.Knows p) : (t.atoms.map Prod.snd).Nodup := by
  obtain ⟨fs, hfs, -⟩ := h
  exact hfs.handles_nodup

/-- Different names have different handles. -/
theorem Knows.name_eq_iff (h : t.Knows p) {a b : String × Nat} (ha : a ∈ t.atoms)
    (hb : b ∈ t.atoms) : a.1 = b.1 ↔ a.2 = b.2 := by
  constructor
  · exact fun heq => congrArg Prod.snd (List.inj_on_of_nodup_map h.names_nodup ha hb heq)
  · exact fun heq => congrArg Prod.fst (List.inj_on_of_nodup_map h.handles_nodup ha hb heq)

/-- A statement can be satisfied together with the constraints exactly where a valuation is in
accord with both. -/
theorem Asserts.satisfiable_iff (h : t.Asserts fs)
    (hp : ∀ ρ v, Agrees t.atoms ρ v → ((∀ f ∈ fs, f.eval v = true) ↔ p ρ))
    (hs : ∀ n ∈ s.names, n ∈ t.names) :
    Satisfiable (s.formulaAt t.atoms :: fs) ↔ ∃ ρ, p ρ ∧ s.Holds ρ := by
  have hvalue : ∀ ρ v, Agrees t.atoms ρ v →
      ((∀ f ∈ s.formulaAt t.atoms :: fs, f.eval v = true) ↔ p ρ ∧ s.Holds ρ) := by
    intro ρ v hag
    rw [List.forall_mem_cons, hp ρ v hag, Statement.eval_formulaAt hs hag, and_comm]
  constructor
  · rintro ⟨v, hv⟩
    obtain ⟨ρ, hag⟩ := exists_agrees_valuation h.names_nodup v
    exact ⟨ρ, (hvalue ρ v hag).mp hv⟩
  · rintro ⟨ρ, hρ⟩
    obtain ⟨v, hag⟩ := exists_agrees_assignment h.handles_nodup ρ
    exact ⟨v, (hvalue ρ v hag).mpr hρ⟩

section

variable [SatEngine]

theorem Knows.ensure (h : t.Knows p) (name : String) : (t.ensure name).2.Knows p := by
  obtain ⟨fs, hfs, hp⟩ := h
  exact ⟨fs, hfs.ensure name, fun ρ v hag => hp ρ v (hag.of_suffix (atoms_suffix_ensure name t))⟩

/-- A statement that is required is known from then on. -/
theorem Knows.require (h : t.Knows p) (hs : ∀ n ∈ s.names, n ∈ t.names) :
    (t.require (s.formulaAt t.atoms)).Knows fun ρ => s.Holds ρ ∧ p ρ := by
  obtain ⟨fs, hfs, hp⟩ := h
  refine ⟨_, hfs.require (Statement.vars_formulaAt hs), fun ρ v hag => ?_⟩
  rw [List.forall_mem_cons]
  exact and_congr (Statement.eval_formulaAt hs hag) (hp ρ v hag)

/-- So is all that a sketch says, once it is compiled. -/
theorem Knows.compile (h : t.Knows p) (sketch : Sketch) :
    (t.compile sketch).2.Knows fun ρ => sketch.Models ρ ∧ p ρ := by
  obtain ⟨fs, hfs, hp⟩ := h
  obtain ⟨gs, hgs, hsays, -⟩ := hfs.compile sketch
  refine ⟨_, hgs, fun ρ v hag => ?_⟩
  rw [List.forall_mem_append, hsays ρ v hag, ← Sketch.models_iff,
    hp ρ v (hag.of_suffix (atoms_suffix_compile sketch t))]

/-- Assuming a statement tells whether a valuation is in accord with it and with what is known, and
nothing is known afterwards that was not known before. -/
theorem Knows.assuming (correct : SatEngine.Correct) (h : t.Knows p)
    (hs : ∀ n ∈ s.names, n ∈ t.names) :
    (t.assuming (s.formulaAt t.atoms)).2.Knows p ∧
      ((t.assuming (s.formulaAt t.atoms)).1 = .sat ↔ ∃ ρ, p ρ ∧ s.Holds ρ) ∧
      ((t.assuming (s.formulaAt t.atoms)).1 = .unsat ↔ ¬ ∃ ρ, p ρ ∧ s.Holds ρ) := by
  obtain ⟨fs, hfs, hp⟩ := h
  obtain ⟨hafter, houtcome⟩ := hfs.assuming correct (Statement.vars_formulaAt hs)
  rw [hfs.satisfiable_iff hp hs] at houtcome
  exact ⟨⟨fs, hafter, hp⟩, houtcome⟩

theorem Knows.decide (correct : SatEngine.Correct) (h : t.Knows p) {name : String}
    (hname : name ∈ t.names) (b : Bool) :
    let d := (t.decide ((t.atoms.lookup name).getD 0)).1
    (t.decide ((t.atoms.lookup name).getD 0)).2.Knows p ∧
      (d.outcome b = .sat ↔ ∃ ρ, p ρ ∧ ρ name = b) ∧
      (d.outcome b = .unsat ↔ ¬ ∃ ρ, p ρ ∧ ρ name = b) := by
  obtain ⟨fs, hfs, hp⟩ := h
  have hs : ∀ n ∈ (Statement.literal name b).names, n ∈ t.names := by
    intro n hn
    obtain ⟨i, -, rfl⟩ := List.mem_map.mp hn
    exact hname
  obtain ⟨hafter, houtcome⟩ := hfs.decide correct (List.mem_map_of_mem (mem_of_mem_names hname))
  have hsat := hfs.satisfiable_iff hp hs
  rw [Statement.formulaAt_literal] at hsat
  simp only [Statement.holds_literal] at hsat
  have hb := houtcome b
  rw [hsat] at hb
  exact ⟨⟨fs, hafter, hp⟩, hb⟩

/-- **What a use tells is learned, and nothing is forgotten.** -/
theorem Knows.use (correct : SatEngine.Correct) (h : t.Knows p) {u : Use} (hu : u.Legal t.names) :
    (t.use u).2.Knows fun ρ => u.Tells ρ ∧ p ρ := by
  have hsame : ∀ ρ, p ρ ↔ True ∧ p ρ := fun ρ => by rw [true_and]
  cases u with
  | mention name => exact (h.ensure name).congr hsame
  | require s => exact h.require hu
  | compile sketch => exact h.compile sketch
  | assume s => exact (h.assuming correct hu).1.congr hsame
  | decide name => exact (h.decide correct hu true).1.congr hsame

theorem Knows.after (correct : SatEngine.Correct) (h : t.Knows p) {uses : List Use}
    (legal : t.Legal uses) : (t.after uses).Knows fun ρ => (∀ u ∈ uses, u.Tells ρ) ∧ p ρ := by
  induction uses generalizing t p with
  | nil => exact h.congr fun ρ => by simp
  | cons u uses ih =>
    refine (ih (h.use correct legal.1) legal.2).congr fun ρ => ?_
    rw [List.forall_mem_cons]
    tauto

end

end Theory

/-! ### Right results -/

/-- Both checks of the decision are right about what is possible under a condition, so its verdict
and its reason are. -/
structure Decision.Settles (p : Valuation → Prop) (name : String) (d : Decision) : Prop where
  sat_iff : ∀ b, d.outcome b = .sat ↔ ∃ ρ, p ρ ∧ ρ name = b
  unsat_iff : ∀ b, d.outcome b = .unsat ↔ ¬ ∃ ρ, p ρ ∧ ρ name = b
  yes_iff : d.verdict = .yes ↔ (∃ ρ, p ρ) ∧ ∀ ρ, p ρ → ρ name = true
  no_iff : d.verdict = .no ↔ (∃ ρ, p ρ) ∧ ∀ ρ, p ρ → ρ name = false
  inconsistent_iff : d.reason = .inconsistent ↔ ¬ ∃ ρ, p ρ

/-- The result is right under a condition on valuations, where names have the given variables. -/
def Use.Right (p : Valuation → Prop) (atoms : List (String × Nat)) : Use → Use.Result → Prop
  | .mention name, .handle i => (name, i) ∈ atoms
  | .require _, .accepted => True
  | .compile sketch, .compiled query _ => (sketch.query, query) ∈ atoms
  | .assume s, .outcome o =>
    (o = .sat ↔ ∃ ρ, p ρ ∧ s.Holds ρ) ∧ (o = .unsat ↔ ¬ ∃ ρ, p ρ ∧ s.Holds ρ)
  | .decide name, .decision d => d.Settles p name
  | _, _ => False

/-- A handle that was right stays right. -/
theorem Use.Right.of_suffix {p : Valuation → Prop} {atoms atoms' : List (String × Nat)} {u : Use}
    {r : Use.Result} (h : u.Right p atoms r) (hs : atoms <:+ atoms') : u.Right p atoms' r := by
  cases u <;> cases r <;> first | exact h | exact hs.subset h

theorem Decision.settles_ofOutcomes {p : Valuation → Prop} {name : String} {a b : Outcome}
    (hsat : ∀ c, (ofOutcomes a b).outcome c = .sat ↔ ∃ ρ, p ρ ∧ ρ name = c)
    (hunsat : ∀ c, (ofOutcomes a b).outcome c = .unsat ↔ ¬ ∃ ρ, p ρ ∧ ρ name = c) :
    (ofOutcomes a b).Settles p name where
  sat_iff := hsat
  unsat_iff := hunsat
  yes_iff := by
    rw [verdict_eq_yes_iff, ← forced_iff true]
    exact and_congr (hsat true) (hunsat false)
  no_iff := by
    rw [verdict_eq_no_iff, ← forced_iff false, and_comm]
    exact and_congr (hsat false) (hunsat true)
  inconsistent_iff := by
    rw [reason_eq_inconsistent_iff, ← impossible_iff name]
    exact and_congr (hunsat true) (hunsat false)

namespace Theory

variable [SatEngine] {t t' : Theory Solver} {p : Valuation → Prop} {u : Use} {uses : List Use}

/-- **Every result is right**, given what is known. -/
theorem Knows.right_use (correct : SatEngine.Correct) (h : t.Knows p) (hu : u.Legal t.names) :
    u.Right p (t.use u).2.atoms (t.use u).1 := by
  cases u with
  | mention name => exact mem_atoms_ensure name t
  | require s => exact trivial
  | compile sketch => exact mem_atoms_ensure sketch.query _
  | assume s => exact (h.assuming correct hu).2
  | decide name =>
    have hdecide := h.decide correct hu
    exact Decision.settles_ofOutcomes (fun b => (hdecide b).2.1) fun b => (hdecide b).2.2

/-- Theories that know the same give the same results, but for the numbers of variables. -/
theorem anonymous_use_eq (correct : SatEngine.Correct) (h : t.Knows p) (h' : t'.Knows p)
    (hnames : t.names = t'.names) (hu : u.Legal t.names) :
    (t.use u).1.anonymous = (t'.use u).1.anonymous := by
  have hu' : u.Legal t'.names := hnames ▸ hu
  cases u with
  | mention name => rfl
  | require s => rfl
  | compile sketch => exact congrArg (Use.Result.compiled 0) (compile_congr sketch hnames).1
  | assume s =>
    obtain ⟨-, hsat, hunsat⟩ := h.assuming correct hu
    obtain ⟨-, hsat', hunsat'⟩ := h'.assuming correct hu'
    exact congrArg Use.Result.outcome (Outcome.eq_of_iff hsat hunsat hsat' hunsat')
  | decide name =>
    refine congrArg Use.Result.decision (Decision.eq_of_outcome fun b => ?_)
    obtain ⟨-, hsat, hunsat⟩ := h.decide correct hu b
    obtain ⟨-, hsat', hunsat'⟩ := h'.decide correct hu' b
    exact Outcome.eq_of_iff hsat hunsat hsat' hunsat'

theorem map_anonymous_results_eq (correct : SatEngine.Correct) (h : t.Knows p) (h' : t'.Knows p)
    (hnames : t.names = t'.names) (legal : t.Legal uses) :
    (t.results uses).map Use.Result.anonymous = (t'.results uses).map Use.Result.anonymous := by
  induction uses generalizing t t' p with
  | nil => rfl
  | cons u uses ih =>
    obtain ⟨hu, hrest⟩ := legal
    have hu' : u.Legal t'.names := hnames ▸ hu
    rw [results, results, List.map_cons, List.map_cons, anonymous_use_eq correct h h' hnames hu,
      ih (h.use correct hu) (h'.use correct hu') (names_use_congr u hnames) hrest]

/-- A probe leaves behind a theory that knows the same. -/
theorem Knows.use_of_probes (correct : SatEngine.Correct) (h : t.Knows p) (hu : u.Legal t.names)
    (hprobes : u.Probes) : (t.use u).2.Knows p := by
  refine (h.use correct hu).congr fun ρ => ?_
  cases u with
  | assume s | decide name => exact and_iff_right trivial
  | mention name | require s | compile sketch => exact hprobes.elim

theorem knows_after_fresh (correct : SatEngine.Correct) (legal : fresh.Legal uses) :
    (fresh.after uses).Knows fun ρ => ∀ u ∈ uses, u.Tells ρ :=
  (knows_fresh.after correct legal).congr fun _ => and_iff_left trivial

/-! ### From an empty theory on -/

section

variable {before later : List Use}

theorem atoms_suffix_append (before later : List Use) :
    (fresh.after before).atoms <:+ (fresh.after (before ++ later)).atoms := by
  rw [after_append]
  exact atoms_suffix_after later _

/-- A result is right about what the uses before it told. -/
theorem right_result (correct : SatEngine.Correct) (legal : fresh.Legal (before ++ u :: later)) :
    u.Right (fun ρ => ∀ b ∈ before, b.Tells ρ) (fresh.after (before ++ u :: later)).atoms
      ((fresh.after before).use u).1 := by
  obtain ⟨hbefore, hu, -⟩ := legal_append_iff.mp legal
  have hright := (knows_after_fresh correct hbefore).right_use correct hu
  -- The result speaks of the atoms of its time, and they are there to the end.
  refine hright.of_suffix ?_
  rw [after_append]
  exact atoms_suffix_after later _

/-- Without a probe all other uses are legal and have the same results. -/
theorem results_without_probe (correct : SatEngine.Correct)
    (legal : fresh.Legal (before ++ u :: later)) (hprobes : u.Probes) :
    fresh.Legal (before ++ later) ∧
      (fresh.results (before ++ later)).map Use.Result.anonymous =
        ((fresh.results (before ++ u :: later)).eraseIdx before.length).map
          Use.Result.anonymous := by
  obtain ⟨hbefore, hu, hlater⟩ := legal_append_iff.mp legal
  have hknows := knows_after_fresh correct hbefore
  have hnames : ((fresh.after before).use u).2.names = (fresh.after before).names :=
    names_use_of_probes hprobes
  refine ⟨legal_append_iff.mpr ⟨hbefore, (legal_congr hnames).mp hlater⟩, ?_⟩
  have hsame := map_anonymous_results_eq correct (hknows.use_of_probes correct hu hprobes) hknows
    hnames hlater
  rw [results_append, results_append, List.eraseIdx_append_of_length_le (length_results _ _).le,
    length_results, Nat.sub_self, results, List.eraseIdx_cons_zero, List.map_append,
    List.map_append, hsame]

/-- The labels of a theory in use account for the variables of the theory without labels. -/
theorem perm_range_after (uses : List Use) :
    let labelled := (Theory.mk Labelled.fresh []).after uses
    labelled.map Labelled.solver = fresh.after uses ∧
      (0 :: ((fresh.after uses).atoms.map Prod.snd ++ (labelled.engine.switches ++
        labelled.engine.connectives))).Perm (List.range (fresh.after uses).engine.size) := by
  intro labelled
  have hmap : labelled.map Labelled.solver = fresh.after uses :=
    (after_map Labelled.view_solver uses _).symm
  obtain ⟨haccounted, hhandles⟩ := accounted_after uses
  have hatoms : labelled.atoms = (fresh.after uses).atoms := congrArg Theory.atoms hmap
  have hsize : labelled.engine.solver.size = (fresh.after uses).engine.size :=
    congrArg (fun t => t.engine.size) hmap
  refine ⟨hmap, ?_⟩
  rw [← hatoms, ← hsize, ← hhandles]
  exact haccounted

end

end Theory

/-! ### Every sequence of uses -/

/-- **A theory only learns, and probing leaves it as it is.**  Whatever uses a theory is put to, the
following holds.  Every name keeps its handle, and different names have different ones.  Labelling
the variables changes nothing; besides the constant, each is the handle of one atom, or the switch
of one scope, or stands for one connective, and never two of these.  There is one result for each
use, the one it has on the theory that the uses before it left, and it is right about what those
told, be it required or compiled.  A probe may be left out: all other uses stay legal and have the
same results, up to the numbers of handles.  And every formula over handles is a statement about
names, so the uses speak of any. -/
theorem uses_of_theory [SatEngine] (correct : SatEngine.Correct) (uses : List Use)
    (legal : Theory.fresh.Legal uses) :
    let t := Theory.fresh.after uses
    let labelled := (Theory.mk Labelled.fresh []).after uses
    (∀ before later, uses = before ++ later → (Theory.fresh.after before).atoms <:+ t.atoms) ∧
    (∀ a ∈ t.atoms, ∀ b ∈ t.atoms, a.1 = b.1 ↔ a.2 = b.2) ∧
    labelled.map Labelled.solver = t ∧
    (0 :: (t.atoms.map Prod.snd ++ (labelled.engine.switches ++
      labelled.engine.connectives))).Perm (List.range t.engine.size) ∧
    (∀ a ∈ t.atoms, a.2 ≠ 0 ∧ a.2 ∉ labelled.engine.switches ∧
      a.2 ∉ labelled.engine.connectives) ∧
    (Theory.fresh.results uses).length = uses.length ∧
    (∀ before u later, uses = before ++ u :: later →
      (Theory.fresh.results uses)[before.length]? = some ((Theory.fresh.after before).use u).1 ∧
      u.Right (fun ρ => ∀ b ∈ before, b.Tells ρ) t.atoms ((Theory.fresh.after before).use u).1) ∧
    (∀ before probe later, uses = before ++ probe :: later → probe.Probes →
      Theory.fresh.Legal (before ++ later) ∧
      (Theory.fresh.results (before ++ later)).map Use.Result.anonymous =
        ((Theory.fresh.results uses).eraseIdx before.length).map Use.Result.anonymous) ∧
    ∀ f : Formula, (∀ i ∈ f.vars, i ∈ t.atoms.map Prod.snd) →
      ∃ s : Statement, (∀ n ∈ s.names, n ∈ t.names) ∧ s.formulaAt t.atoms = f := by
  intro t labelled
  have hknows := Theory.knows_after_fresh correct legal
  obtain ⟨hmap, hperm⟩ := Theory.perm_range_after uses
  obtain ⟨hzero, hrest⟩ := List.nodup_cons.mp (hperm.nodup_iff.mpr List.nodup_range)
  refine ⟨?_, fun a ha b hb => hknows.name_eq_iff ha hb, hmap, hperm, ?_,
    Theory.length_results _ _, ?_, ?_, fun f => Statement.exists_formulaAt_eq hknows.names_nodup⟩
  · rintro before later rfl
    exact Theory.atoms_suffix_append before later
  · intro a ha
    have hmem : a.2 ∈ t.atoms.map Prod.snd := List.mem_map_of_mem ha
    have hdisjoint := (List.nodup_append.mp hrest).2.2 a.2 hmem
    refine ⟨?_, fun h => ?_, fun h => ?_⟩
    · rintro h
      exact hzero (List.mem_append_left _ (h ▸ hmem))
    · exact hdisjoint a.2 (List.mem_append_left _ h) rfl
    · exact hdisjoint a.2 (List.mem_append_right _ h) rfl
  · rintro before u later rfl
    exact ⟨Theory.getElem?_results _ before u later, Theory.right_result correct legal⟩
  · rintro before probe later rfl hprobes
    exact Theory.results_without_probe correct legal hprobes

/-- Two sketches compiled into one theory, with probes, a mention and a nested constraint between
them. -/
def interleavedUses : List Use :=
  [.compile { declared := ["a"], entries := [.ifThen ["a"] "b"], query := "b" },
    .assume (.literal "a" true),
    .mention "c",
    .require ⟨.or [.var 0, .and [.var 1, .not (.var 2)]], (["a", "b", "c"].getD · "")⟩,
    .decide "b",
    .compile { entries := [.fact "d" true, .ifThen ["d", "b"] "a"], query := "c" },
    .decide "a"]

/-- The interleaved uses are legal, and the first probe among them makes no difference. -/
theorem uses_interleaved :
    Theory.fresh.Legal interleavedUses ∧
    (Theory.fresh.results (interleavedUses.take 1 ++ interleavedUses.drop 2)).map
        Use.Result.anonymous =
      ((Theory.fresh.results interleavedUses).eraseIdx 1).map Use.Result.anonymous := by
  have legal : Theory.fresh.Legal interleavedUses := by decide
  obtain ⟨-, -, -, -, -, -, -, hprobe, -⟩ :=
    uses_of_theory SatEngine.search_correct interleavedUses legal
  exact ⟨legal, (hprobe (interleavedUses.take 1) (.assume (.literal "a" true))
    (interleavedUses.drop 2) rfl trivial).2⟩

end Entail
