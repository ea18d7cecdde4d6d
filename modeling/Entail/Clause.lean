/-
Entail/Clause.lean

Literals and clauses, and a complete search for an assignment that satisfies a list of clauses.

`satisfiable` takes a shortest clause, tries its first literal and, if that fails, the negated
literal.  A clause of one literal is thereby propagated: its negation leaves an empty clause at
once.  Each step removes at least one literal occurrence (`size_assign_lt`), which is why the
search ends.

`SatEngine` is what the solver asks of a search: an answer for clauses and assumed literals, or
none.  The search of this module is one, and a solver may be run over any other.
-/
import Entail.Formula

namespace Entail

/-- A variable with the value it is claimed to have. -/
structure Literal where
  index : Nat
  positive : Bool
  deriving DecidableEq, Repr, Inhabited

namespace Literal

/-- The literal that claims the opposite. -/
def negate (l : Literal) : Literal := ⟨l.index, !l.positive⟩

/-- A literal holds when its variable has the claimed value. -/
def holds (v : Assignment) (l : Literal) : Bool := v l.index == l.positive

@[simp] theorem negate_negate (l : Literal) : l.negate.negate = l := by
  simp [negate]

theorem holds_negate (v : Assignment) (l : Literal) : l.negate.holds v = !l.holds v := by
  cases h : v l.index <;> cases hp : l.positive <;> simp [holds, negate, h, hp]

end Literal

/-- A disjunction of literals. -/
abbrev Clause := List Literal

/-- A clause holds when one of its literals does. -/
def Clause.holds (v : Assignment) (c : Clause) : Bool := c.any (Literal.holds v)

namespace Clause

/-! ### Committing to a literal -/

/-- The clauses that are left once a literal is taken to be true: those that hold it are done
with, and the others lose its negation. -/
def assign (l : Literal) (cs : List Clause) : List Clause :=
  (cs.filter fun c => !c.contains l).map fun c => c.filter fun k => k != l.negate

/-- The number of literal occurrences. -/
def size (cs : List Clause) : Nat := cs.foldr (fun c n => c.length + n) 0

/-- A clause of least length. -/
def shortest : List Clause → Option Clause
  | [] => none
  | c :: cs => some (cs.foldl (fun best d => if d.length < best.length then d else best) c)

theorem foldl_shorter_mem (cs : List Clause) (c : Clause) :
    cs.foldl (fun best d => if d.length < best.length then d else best) c ∈ c :: cs := by
  induction cs generalizing c with
  | nil => simp
  | cons d cs ih =>
    simp only [List.foldl_cons]
    split
    · exact List.mem_cons_of_mem _ (ih d)
    · rcases List.mem_cons.1 (ih c) with h | h
      · rw [h]; exact List.mem_cons_self
      · exact List.mem_cons_of_mem _ (List.mem_cons_of_mem _ h)

theorem mem_of_shortest {cs : List Clause} {c : Clause} (h : shortest cs = some c) : c ∈ cs := by
  cases cs with
  | nil => simp [shortest] at h
  | cons d cs =>
    simp only [shortest, Option.some.injEq] at h
    exact h ▸ foldl_shorter_mem cs d

theorem size_cons (c : Clause) (cs : List Clause) : size (c :: cs) = c.length + size cs := by
  rfl

theorem size_assign_le (l : Literal) (cs : List Clause) : size (assign l cs) ≤ size cs := by
  induction cs with
  | nil => simp [assign, size]
  | cons c cs ih =>
    have hlen : (c.filter fun k => k != l.negate).length ≤ c.length := List.length_filter_le ..
    by_cases h : c.contains l
    · have : assign l (c :: cs) = assign l cs := by
        simp only [assign, List.filter_cons, h, Bool.not_true, Bool.false_eq_true, if_false]
      rw [this, size_cons]; omega
    · have : assign l (c :: cs) = (c.filter fun k => k != l.negate) :: assign l cs := by
        simp only [assign, List.filter_cons, h, Bool.not_false, if_true, List.map_cons]
      rw [this, size_cons, size_cons]; omega

/-- Taking a stand on a literal that occurs removes an occurrence. -/
theorem size_assign_lt {l : Literal} {cs : List Clause} {c : Clause} (hc : c ∈ cs)
    (hl : l ∈ c ∨ l.negate ∈ c) : size (assign l cs) < size cs := by
  induction cs with
  | nil => simp at hc
  | cons d cs ih =>
    have hlen : (d.filter fun k => k != l.negate).length ≤ d.length := List.length_filter_le ..
    have hrest := size_assign_le l cs
    by_cases h : d.contains l
    · have e : assign l (d :: cs) = assign l cs := by
        simp only [assign, List.filter_cons, h, Bool.not_true, Bool.false_eq_true, if_false]
      have hpos : 0 < d.length := by
        cases d with
        | nil => simp at h
        | cons => simp
      rw [e, size_cons]; omega
    · have e : assign l (d :: cs) = (d.filter fun k => k != l.negate) :: assign l cs := by
        simp only [assign, List.filter_cons, h, Bool.not_false, if_true, List.map_cons]
      rw [e, size_cons, size_cons]
      rcases List.mem_cons.1 hc with rfl | hc
      · have hneg : l.negate ∈ c := by
          rcases hl with hl | hl
          · exact absurd (List.contains_iff_mem.2 hl) h
          · exact hl
        have : (c.filter fun k => k != l.negate).length < c.length := by
          apply List.length_filter_lt_length_iff_exists.2
          exact ⟨l.negate, hneg, by simp⟩
        omega
      · have := ih hc
        omega

/-! ### The search -/

/-- Whether some assignment makes every clause of the list hold. -/
def satisfiable (cs : List Clause) : Bool :=
  match _found : shortest cs with
  | none => true
  | some [] => false
  | some (l :: _) =>
    -- If `l` is the whole clause, the second branch holds an empty clause and fails at once.
    satisfiable (assign l cs) || satisfiable (assign l.negate cs)
termination_by size cs
decreasing_by
  · exact size_assign_lt (mem_of_shortest _found) (.inl List.mem_cons_self)
  · exact size_assign_lt (mem_of_shortest _found) (.inr (by simp))

end Clause

/-! ### Engines -/

/-- An engine is asked whether clauses can hold together while literals are assumed.  It answers,
or it fails. -/
class SatEngine where
  solve : List Clause → List Literal → Option Bool

/-- The search as an engine.  An assumed literal is a clause of its own, and there is always an
answer. -/
instance SatEngine.search : SatEngine where
  solve clauses assumed := some (Clause.satisfiable (assumed.map (fun l => [l]) ++ clauses))

end Entail
