/-
Entail/Proofs/Printing.lean

What the printers write is in the grammar.

A value without numbers, whose brackets are nested no deeper than a limit (`Fits`), is written by
each of its printed forms: without blanks, and with one item a line from any level of indentation
on.  What is printed is therefore read back, by every reader that is settled on the grammar.
-/
import Entail.Proofs.Grammar

namespace Entail.Json

/-- The value holds no number and opens at most so many brackets inside each other. -/
def Fits : Nat → Json → Prop
  | _, .null => True
  | _, .bool _ => True
  | _, .text _ => True
  | _, .integer _ => False
  | _, .decimal _ => False
  | 0, .list _ => False
  | 0, .object _ => False
  | depth + 1, .list vs => ∀ v ∈ vs, Fits depth v
  | depth + 1, .object ms => ∀ m ∈ ms, Fits depth m.2

/-! ### Strings -/

/-- The two last digits of the escape of a control character. -/
theorem hexFour?_control {n : Nat} (h : n < 0x20) :
    hexFour? '0' '0' (Nat.digitChar (n / 16)) (Nat.digitChar (n % 16)) = some n := by
  have hall : ∀ n < 0x20,
      hexFour? '0' '0' (Nat.digitChar (n / 16)) (Nat.digitChar (n % 16)) = some n := by decide
  exact hall n h

theorem charText_escape (c : Char) : CharText c (escape c) := by
  unfold escape
  split
  · exact .letter rfl
  · exact .letter rfl
  · exact .letter rfl
  · exact .letter rfl
  · exact .letter rfl
  · next hquote hslash _ _ _ =>
    split
    · next h => exact h ▸ .letter rfl
    split
    · next h => exact h ▸ .letter rfl
    split
    · next h =>
      have := CharText.escape (hexFour?_control h) (.inl (by omega))
      rwa [Char.ofNat_toNat] at this
    · next h => exact .plain (by omega) hquote hslash

theorem stringText_escape (s : List Char) : StringText s (s.flatMap escape ++ ['"']) := by
  induction s with
  | nil => exact .close
  | cons c s ih =>
    rw [List.flatMap_cons, List.append_assoc]
    exact .char (charText_escape c) ih

/-! ### Brackets -/

section

variable {depth : Nat} (write : Json → List Char) {gap last : List Char} (hgap : Blanks gap)
  (hlast : Blanks last)

include hgap hlast

/-- Items after the first, with the same blanks in front of each. -/
theorem writesItems_of_layout (rest : List Json → List Char) (hnil : rest [] = last ++ [']'])
    (hcons : ∀ v vs, rest (v :: vs) = ',' :: gap ++ (write v ++ rest vs)) {vs : List Json}
    (h : ∀ v ∈ vs, Writes depth v (write v)) : WritesItems depth false vs (rest vs) := by
  induction vs with
  | nil =>
    rw [hnil]
    exact .close hlast
  | cons v vs ih =>
    rw [hcons]
    exact .more (.comma Blanks.nil hgap) (h v List.mem_cons_self)
      (ih fun w hw => h w (List.mem_cons_of_mem v hw))

/-- Members after the first, with the same blanks in front of each and of each value. -/
theorem writesMembers_of_layout {pad : List Char} (hpad : Blanks pad)
    (rest : List (String × Json) → List Char) (hnil : rest [] = last ++ ['\x7d'])
    (hcons : ∀ k v ms, rest ((k, v) :: ms) =
      ',' :: gap ++ (quoted k.toList ++ ':' :: (pad ++ (write v ++ rest ms))))
    {ms : List (String × Json)} (h : ∀ m ∈ ms, Writes depth m.2 (write m.2)) :
    WritesMembers depth false ms (rest ms) := by
  induction ms with
  | nil =>
    rw [hnil]
    exact .close hlast
  | cons m ms ih =>
    obtain ⟨k, v⟩ := m
    have hmore := WritesMembers.more (.comma Blanks.nil hgap) (stringText_escape k.toList)
      Blanks.nil hpad (h (k, v) List.mem_cons_self)
      (ih fun m hm => h m (List.mem_cons_of_mem _ hm))
    rw [String.ofList_toList] at hmore
    rw [hcons]
    simpa [quoted] using hmore

end

/-! ### Printed values -/

/-- What a value that fits is: one that holds no others, or brackets around values that fit. -/
theorem Fits.shape {depth : Nat} {j : Json} (h : Fits depth j) :
    (Writes depth j (scalar j) ∧ compact j = scalar j ∧ ∀ level, prettyAt level j = scalar j) ∨
      (∃ d vs, depth = d + 1 ∧ j = .list vs ∧ ∀ v ∈ vs, Fits d v) ∨
      (∃ d ms, depth = d + 1 ∧ j = .object ms ∧ ∀ m ∈ ms, Fits d m.2) := by
  cases j with
  | null => exact .inl ⟨.null, rfl, fun _ => rfl⟩
  | bool b =>
    cases b with
    | true => exact .inl ⟨.yes, rfl, fun _ => rfl⟩
    | false => exact .inl ⟨.no, rfl, fun _ => rfl⟩
  | text s =>
    have ht : Writes depth (.text (String.ofList s.toList)) (quoted s.toList) :=
      .text (stringText_escape s.toList)
    rw [String.ofList_toList] at ht
    exact .inl ⟨ht, rfl, fun _ => rfl⟩
  | integer i => cases depth <;> exact h.elim
  | decimal d => cases depth <;> exact h.elim
  | list vs =>
    cases depth with
    | zero => exact h.elim
    | succ d => exact .inr (.inl ⟨d, vs, rfl, rfl, h⟩)
  | object ms =>
    cases depth with
    | zero => exact h.elim
    | succ d => exact .inr (.inr ⟨d, ms, rfl, rfl, h⟩)

/-- The form without blanks of a value that fits is in the grammar. -/
theorem writes_compact {depth : Nat} {j : Json} (h : Fits depth j) : Writes depth j j.compact := by
  induction depth generalizing j with
  | zero =>
    rcases h.shape with ⟨hw, hc, -⟩ | ⟨_, _, hd, _⟩ | ⟨_, _, hd, _⟩
    · rwa [hc]
    · cases hd
    · cases hd
  | succ depth ih =>
    rcases h.shape with ⟨hw, hc, -⟩ | ⟨d, vs, hd, rfl, hvs⟩ | ⟨d, ms, hd, rfl, hms⟩
    · rwa [hc]
    · obtain rfl := Nat.succ.inj hd
      cases vs with
      | nil => exact .list (.close Blanks.nil)
      | cons v vs =>
        -- The first item has nothing in front of it, the others have a comma.
        rw [compact]
        refine .list (.more (.first Blanks.nil) (ih (hvs v List.mem_cons_self)) ?_)
        exact writesItems_of_layout compact Blanks.nil Blanks.nil compactItems rfl (fun _ _ => rfl)
          fun w hw => ih (hvs w (List.mem_cons_of_mem v hw))
    · obtain rfl := Nat.succ.inj hd
      cases ms with
      | nil => exact .object (.close Blanks.nil)
      | cons m ms =>
        obtain ⟨k, v⟩ := m
        have hrest := writesMembers_of_layout compact Blanks.nil Blanks.nil Blanks.nil
          compactMembers rfl (fun _ _ _ => by simp [compactMembers])
          fun m hm => ih (hms m (List.mem_cons_of_mem _ hm))
        have hmore := WritesMembers.more (.first Blanks.nil) (stringText_escape k.toList)
          Blanks.nil Blanks.nil (ih (hms (k, v) List.mem_cons_self)) hrest
        rw [String.ofList_toList] at hmore
        simpa [compact, quoted] using Writes.object hmore

theorem Blanks.newline (level : Nat) : Blanks (newline level) := by
  intro c hc
  rcases List.mem_cons.mp hc with rfl | hc
  · decide
  · rw [List.eq_of_mem_replicate hc]
    decide

theorem Blanks.space : Blanks [' '] := fun c hc => by rw [List.mem_singleton.mp hc]; decide

/-- An object is written with one member a line if its values are written so, one level deeper. -/
theorem writes_prettyAt_object {depth level : Nat} {ms : List (String × Json)}
    (h : ∀ m ∈ ms, Writes depth m.2 (m.2.prettyAt (level + 1))) :
    Writes (depth + 1) (.object ms) ((object ms).prettyAt level) := by
  cases ms with
  | nil => exact .object (.close Blanks.nil)
  | cons m ms =>
    obtain ⟨k, v⟩ := m
    have hrest := writesMembers_of_layout (prettyAt (level + 1)) (Blanks.newline (level + 1))
      (Blanks.newline level) Blanks.space (prettyMembers level) rfl
      (fun _ _ _ => by simp [prettyMembers]) fun m hm => h m (List.mem_cons_of_mem _ hm)
    have hmore := WritesMembers.more (.first (Blanks.newline (level + 1)))
      (stringText_escape k.toList) Blanks.nil Blanks.space (h (k, v) List.mem_cons_self) hrest
    rw [String.ofList_toList] at hmore
    simpa [prettyAt, quoted] using Writes.object hmore

/-- The form with one item a line of a value that fits is in the grammar, at every level. -/
theorem writes_prettyAt {depth : Nat} {j : Json} (h : Fits depth j) (level : Nat) :
    Writes depth j (j.prettyAt level) := by
  induction depth generalizing j level with
  | zero =>
    rcases h.shape with ⟨hw, -, hp⟩ | ⟨_, _, hd, _⟩ | ⟨_, _, hd, _⟩
    · rwa [hp]
    · cases hd
    · cases hd
  | succ depth ih =>
    rcases h.shape with ⟨hw, -, hp⟩ | ⟨d, vs, hd, rfl, hvs⟩ | ⟨d, ms, hd, rfl, hms⟩
    · rwa [hp]
    · obtain rfl := Nat.succ.inj hd
      cases vs with
      | nil => exact .list (.close Blanks.nil)
      | cons v vs =>
        have hrest := writesItems_of_layout (prettyAt (level + 1)) (Blanks.newline (level + 1))
          (Blanks.newline level) (prettyItems level) rfl (fun _ _ => by simp [prettyItems])
          fun w hw => ih (hvs w (List.mem_cons_of_mem v hw)) (level + 1)
        have hmore := WritesItems.more (.first (Blanks.newline (level + 1)))
          (ih (hvs v List.mem_cons_self) (level + 1)) hrest
        simpa [prettyAt] using Writes.list hmore
    · obtain rfl := Nat.succ.inj hd
      exact writes_prettyAt_object fun m hm => ih (hms m hm) (level + 1)

/-! ### Printed documents -/

theorem document_compactText {j : Json} (h : Fits depthLimit j) : Document j.compactText j :=
  ⟨[], j.compact, [], Blanks.nil, writes_compact h, Blanks.nil, by simp [compactText]⟩

theorem document_prettyAt {j : Json} (h : Fits depthLimit j) (level : Nat) :
    Document (String.ofList (j.prettyAt level)) j :=
  ⟨[], j.prettyAt level, [], Blanks.nil, writes_prettyAt h level, Blanks.nil, by simp⟩

end Entail.Json
