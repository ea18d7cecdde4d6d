/-
Entail/Proofs/Records.lean

Readers of a shape, and the grammar.

A reader of strings or of lists fails on every value of another shape.  A record that is written as
an object is a loop over the members in the order of the text: a member that names a field is read
by the field, once, and any other member is passed over (`Record.step`), and in the end no field may
be missing (`Record.complete`).  A record that is written as a list is a loop over its fields, of
which each takes the next item (`Record.takeItems`).  How the fields are read is a parameter here,
one fact for each field (`Record.read_interprets`).
-/
import Entail.Document.Sketch
import Entail.Proofs.Reading

namespace Entail.Json

/-! ### Strings and lists -/

section

variable {s r rest : List Char} {c : Char}

theorem stringNamed_of_quote (hs : skipSpace s = '"' :: r) (wanted : String) (depth : Nat)
    {o : Option String} (h : Yields (stringBody [] r) o rest) :
    Yields (stringNamed wanted depth s) o rest := by
  rw [stringNamed]
  refine of_skipSpace (P := (Yields · _ rest)) hs ?_
  rw [if_pos rfl]
  exact h.keep fun _ => ⟨rfl, rfl⟩

theorem stringNamed_of_ne (hs : skipSpace s = c :: r) (hc : c ≠ '"') (wanted : String)
    (depth : Nat) : Yields (stringNamed wanted depth s) none rest := by
  rw [stringNamed]
  refine of_skipSpace (P := (Yields · _ rest)) hs ?_
  rw [if_neg hc]
  rfl

theorem listOf_of_list (hs : skipSpace s = '[' :: r) {α : Type} {item : Reader α} {depth : Nat}
    {o : Option (List α)} (h : Yields (items (item depth) true [] r) o rest) :
    Yields (listOf item (depth + 1) s) o rest := by
  rw [listOf]
  refine of_skipSpace (P := (Yields · _ rest)) hs ?_
  rw [if_pos rfl]
  exact h.keep fun _ => ⟨rfl, rfl⟩

theorem listOf_of_ne (hs : skipSpace s = c :: r) (hc : c ≠ '[') {α : Type} (item : Reader α)
    (depth : Nat) : Yields (listOf item depth s) none rest := by
  rw [listOf]
  refine of_skipSpace (P := (Yields · _ rest)) hs ?_
  rw [if_neg hc]
  rfl

end

/-- A reader of strings takes the strings and nothing else. -/
theorem stringNamed_interprets (wanted : String) (depth : Nat) :
    Interprets (stringNamed wanted depth) depth textOf? := by
  intro ws t rest v hws hv hrest
  rcases hv.shape with ⟨c, r, rfl, hs⟩ | ⟨_, vs, u, rfl, rfl, rfl, -⟩ |
    ⟨_, ms, u, rfl, rfl, rfl, -⟩
  · have hskip := hws.skipSpace hs.plain.1 (r ++ rest)
    rcases hs.text with ⟨hc, hv⟩ | ⟨cs, rfl, ht, rfl⟩
    · have hnone : textOf? v = none := by
        cases v with
        | text s => exact absurd rfl (hv s)
        | _ => rfl
      rw [hnone]
      exact stringNamed_of_ne hskip hc wanted depth
    · exact stringNamed_of_quote hskip wanted depth (ht.yields [] rest)
  · exact stringNamed_of_ne (hws.skipSpace (by decide) _) (by decide) wanted _
  · exact stringNamed_of_ne (hws.skipSpace (by decide) _) (by decide) wanted _

/-- What a list of values means, if each of them means something. -/
def listMeaning {α : Type} (meaning : Json → Option α) : Json → Option (List α)
  | .list vs => vs.mapM meaning
  | _ => none

/-- A reader of lists takes the lists of what its reader of items takes, and nothing else. -/
theorem listOf_interprets {α : Type} {item : Reader α} {meaning : Json → Option α}
    (hitem : ∀ depth, Interprets (item depth) depth meaning) (depth : Nat) :
    Interprets (listOf item depth) depth (listMeaning meaning) := by
  intro ws t rest v hws hv hrest
  rcases hv.shape with ⟨c, r, rfl, hs⟩ | ⟨d, vs, u, rfl, rfl, rfl, hvs⟩ |
    ⟨_, ms, u, rfl, rfl, rfl, -⟩
  · have hnone : listMeaning meaning v = none := by
      cases v with
      | list _ => exact hs.scalar.elim
      | _ => rfl
    rw [hnone]
    exact listOf_of_ne (hws.skipSpace hs.plain.1 _) hs.plain.2.1 item depth
  · have := items_yields (hitem d) hvs [] rest
    refine listOf_of_list (hws.skipSpace (by decide) _) ?_
    simpa [listMeaning] using this
  · exact listOf_of_ne (hws.skipSpace (by decide) _) (by decide) item _

/-! ### Records -/

namespace Record

variable {ρ : Type} (record : Record ρ) (take : Field ρ → ρ → Json → Option ρ)

/-- What a record makes of one member. -/
def step (read : ρ) (m : String × Json) : Option ρ :=
  match record.fields.find? fun f => f.name == m.1 with
  | some field => if field.seen read then none else take field read m.2
  | none => some read

/-- What a record makes of the end of its members. -/
def complete (read : ρ) : Option ρ :=
  match record.fields.find? fun f => !f.optional && !f.seen read with
  | some _ => none
  | none => some read

/-- What fields make of the items of a list.  Only those that may be omitted are left without. -/
def takeItems : List (Field ρ) → ρ → List Json → Option ρ
  | fields, read, [] => if fields.all (·.omittable) then some read else none
  | [], _, _ :: _ => none
  | field :: fields, read, v :: vs =>
    (take field read v).bind fun read => takeItems fields read vs

/-- What a record makes of a value. -/
def meaning (start : ρ) : Json → Option ρ
  | .list vs => takeItems take record.fields start vs
  | .object ms => (ms.foldlM (record.step take) start).bind record.complete
  | _ => none

variable {record take}

/-- A field is read at most once from the members of an object, and not if it has been read before.
What it asks for is that fields take note of being read, each one for itself. -/
theorem count_le_one_of_foldlM {field : Field ρ} {ms : List (String × Json)} {read read' : ρ}
    (hfind : record.fields.find? (fun f => f.name == field.name) = some field)
    (hseen : ∀ f ∈ record.fields, ∀ p v q, take f p v = some q →
      field.seen q = (f.name == field.name || field.seen p))
    (h : ms.foldlM (record.step take) read = some read') :
    (ms.map (·.1)).count field.name + (if field.seen read then 1 else 0) ≤ 1 := by
  induction ms generalizing read with
  | nil => split <;> simp
  | cons m ms ih =>
    obtain ⟨k, v⟩ := m
    rw [List.foldlM_cons] at h
    obtain ⟨q, hstep, hrest⟩ := Option.bind_eq_some_iff.mp h
    have hcount := ih hrest
    simp only [step] at hstep
    rw [List.map_cons, List.count_cons]
    cases hf : record.fields.find? fun f => f.name == k with
    | none =>
      -- A member of another name.
      rw [hf] at hstep
      obtain rfl : read = q := Option.some.inj hstep
      have hname : k ≠ field.name := by
        rintro rfl
        rw [hf] at hfind
        cases hfind
      simpa [hname] using hcount
    | some f =>
      have hk := List.find?_some hf
      obtain rfl : f.name = k := eq_of_beq hk
      have hread : f.seen read = false := by
        cases hread : f.seen read with
        | false => rfl
        | true => simp [hf, hread] at hstep
      simp only [hf, hread, Bool.false_eq_true, if_false] at hstep
      rw [hseen f (List.mem_of_find?_eq_some hf) read v q hstep] at hcount
      by_cases hname : f.name = field.name
      · obtain rfl : f = field := Option.some.inj (by rw [← hf, ← hfind, hname])
        simpa [hread] using hcount
      · simpa [hname] using hcount

/-- A record written as an object is read member by member. -/
theorem readMembers_yields {depth : Nat}
    (hfields : ∀ f ∈ record.fields, ∀ read, Interprets (f.read read depth) depth (take f read))
    {first : Bool} {ms : List (String × Json)} {t : List Char}
    (h : WritesMembers depth first ms t) (read : ρ) (rest : List Char) :
    Yields (record.readMembers depth first read (t ++ rest))
      ((ms.foldlM (record.step take) read).bind record.complete) rest := by
  induction ms generalizing first t read with
  | nil =>
    cases h with
    | close hws =>
      obtain ⟨_, hnext⟩ := nextKey_close first hws rest
      rw [List.append_assoc, List.singleton_append, readMembers]
      simp only [hnext]
      show Yields _ (record.complete read) rest
      rw [complete]
      cases record.fields.find? fun f => !f.optional && !f.seen read with
      | some f => rfl
      | none => exact ⟨rfl, rfl⟩
  | cons m ms ih =>
    cases h with
    | @more _ _ lead k ws ws' t u name v _ hl hk hws hws' hv hms =>
      obtain ⟨_, hnext⟩ := nextKey_more hl (k ++ (ws ++ ':' :: (ws' ++ (t ++ (u ++ rest)))))
      obtain ⟨_, hname⟩ := (hk.yields [] (ws ++ ':' :: (ws' ++ (t ++ (u ++ rest))))).ok
      obtain ⟨_, hcolon⟩ := (colon_passes hws (ws' ++ (t ++ (u ++ rest)))).ok
      rw [member_append, readMembers]
      simp only [hnext, hname, List.foldlM_cons]
      rcases hfield : record.fields.find? (fun f => f.name == String.ofList name) with - | field
      · -- A member of another name.
        have hstep : record.step take read (String.ofList name, v) = some read := by
          simp only [step, hfield]
        obtain ⟨_, hskip⟩ := (skip_interprets depth hws' hv (hms.unbroken rest)).ok
        simp only [List.reverse_nil, List.nil_append, hfield, hstep, hcolon, hskip]
        exact (ih hms read).keep fun _ => ⟨rfl, rfl⟩
      · by_cases hseen : field.seen read = true
        · -- A field that is read already.
          have hstep : record.step take read (String.ofList name, v) = none := by
            simp only [step, hfield, hseen, if_true]
          simp only [List.reverse_nil, List.nil_append, hfield, hseen, if_true, hstep]
          rfl
        · have hstep : record.step take read (String.ofList name, v) = take field read v := by
            simp only [step, hfield, hseen, Bool.false_eq_true, if_false]
          have hread := hfields field (List.mem_of_find?_eq_some hfield) read hws' hv
            (hms.unbroken rest)
          simp only [List.reverse_nil, List.nil_append, hfield, hseen, hstep, hcolon]
          cases htake : take field read v with
          | none =>
            rw [htake] at hread
            obtain ⟨_, hread⟩ := hread.error
            simp only [hread]
            rfl
          | some read' =>
            rw [htake] at hread
            obtain ⟨_, hread⟩ := hread.ok
            simp only [hread]
            exact (ih hms read').keep fun _ => ⟨rfl, rfl⟩

theorem closeList_of_ne {s r : List Char} {c : Char} (hs : skipSpace s = c :: r) (hc : c ≠ ']')
    (read : ρ) (rest : List Char) : Yields (closeList read s) none rest := by
  rw [closeList]
  refine of_skipSpace (P := (Yields · _ rest)) hs ?_
  rw [if_neg hc]
  split
  · split <;> rfl
  · rfl

/-- A list of fields ends where no item is left. -/
theorem closeList_yields {depth : Nat} {first : Bool} {vs : List Json} {t : List Char}
    (h : WritesItems depth first vs t) (read : ρ) (rest : List Char) :
    Yields (closeList read (t ++ rest)) (takeItems take [] read vs) rest := by
  cases h with
  | @close _ _ ws hws =>
    have hskip : skipSpace (ws ++ ([']'] ++ rest)) = ']' :: rest := hws.skipSpace (by decide) rest
    rw [List.append_assoc, closeList]
    refine of_skipSpace (P := (Yields · _ rest)) hskip ?_
    rw [if_pos rfl]
    exact ⟨rfl, rfl⟩
  | @more _ _ lead t u _ _ hl hv _ =>
    obtain ⟨c, r, rfl, hc, hne⟩ := hv.head
    rw [List.append_assoc, List.append_assoc, List.cons_append]
    cases hl with
    | first hws => exact closeList_of_ne (hws.skipSpace hc _) hne read rest
    | @comma ws ws' hws _ =>
      rw [List.append_assoc]
      exact closeList_of_ne (hws.skipSpace (by decide) _) (by decide) read rest

/-- Fields are left without an item if there is none that may not be. -/
theorem takeItems_nil (fields : List (Field ρ)) (read : ρ) :
    takeItems take fields read [] =
      match fields.findIdx? fun f => !f.omittable with
      | some _ => none
      | none => some read := by
  have hall : fields.all (·.omittable) = true ↔
      fields.findIdx? (fun f => !f.omittable) = none := by
    simp [List.findIdx?_eq_none_iff]
  rw [takeItems]
  cases hi : fields.findIdx? fun f => !f.omittable with
  | none => exact if_pos (hall.mpr hi)
  | some i => exact if_neg fun h => by cases hi.symm.trans (hall.mp h)

/-- A record written as a list is read field by field. -/
theorem readItems_yields {depth : Nat} {fields : List (Field ρ)}
    (hfields : ∀ f ∈ fields, ∀ read, Interprets (f.read read depth) depth (take f read))
    (count : Nat) {vs : List Json} {t : List Char} (h : WritesItems depth (count == 0) vs t)
    (read : ρ) (rest : List Char) :
    Yields (record.readItems depth count fields read (t ++ rest)) (takeItems take fields read vs)
      rest := by
  induction fields generalizing count vs t read with
  | nil => exact closeList_yields h read rest
  | cons field fields ih =>
    obtain ⟨hfield, hfields⟩ := List.forall_mem_cons.mp hfields
    cases h with
    | close hws =>
      obtain ⟨_, hnext⟩ := nextItem_close (count == 0) hws rest
      rw [List.append_assoc, List.singleton_append, readItems, takeItems_nil]
      simp only [hnext]
      cases (field :: fields).findIdx? fun f => !f.omittable with
      | none => exact ⟨rfl, rfl⟩
      | some i => rfl
    | @more _ _ lead t u v vs hl hv hvs =>
      obtain ⟨c, r, rfl, hc, hne⟩ := hv.head
      obtain ⟨_, hnext⟩ := nextItem_more hl hc hne (r ++ (u ++ rest))
      have hread := hfield read Blanks.nil hv (hvs.unbroken rest)
      rw [List.append_assoc, List.append_assoc, List.cons_append, readItems, takeItems]
      simp only [hnext]
      rw [List.nil_append, List.cons_append] at hread
      cases htake : take field read v with
      | none =>
        rw [htake] at hread
        obtain ⟨_, hread⟩ := hread.error
        simp only [hread]
        rfl
      | some read' =>
        rw [htake] at hread
        obtain ⟨_, hread⟩ := hread.ok
        simp only [hread]
        exact (ih hfields (count + 1) hvs read').keep fun _ => ⟨rfl, rfl⟩

/-- A record is read from an object or a list, and from nothing else. -/
theorem read_interprets
    (hfields : ∀ depth, ∀ f ∈ record.fields, ∀ read,
      Interprets (f.read read depth) depth (take f read))
    (start : ρ) (depth : Nat) :
    Interprets (record.read start depth) depth (record.meaning take start) := by
  intro ws t rest v hws hv hrest
  rcases hv.shape with ⟨c, r, rfl, hs⟩ | ⟨d, vs, u, rfl, rfl, rfl, hvs⟩ |
    ⟨d, ms, u, rfl, rfl, rfl, hms⟩
  · have hnone : record.meaning take start v = none := by
      cases v with
      | list _ | object _ => exact hs.scalar.elim
      | _ => rfl
    rw [hnone, read]
    refine of_skipSpace (P := (Yields · _ rest)) (hws.skipSpace hs.plain.1 _) ?_
    rw [if_neg hs.plain.2.1, if_neg hs.plain.2.2.1]
    rfl
  · rw [read]
    refine of_skipSpace (P := (Yields · _ rest)) (hws.skipSpace (by decide) _) ?_
    rw [if_pos rfl]
    exact (readItems_yields (hfields d) 0 hvs start rest).keep fun _ => ⟨rfl, rfl⟩
  · rw [read]
    refine of_skipSpace (P := (Yields · _ rest)) (hws.skipSpace (by decide) _) ?_
    rw [if_neg (by decide), if_pos rfl]
    exact (readMembers_yields (hfields d) hms start rest).keep fun _ => ⟨rfl, rfl⟩

end Record

/-! ### Whole texts -/

/-- A reader that takes a value and stops before blanks has read the whole text. -/
theorem Reader.run_eq {α : Type} {reader : Reader α} {text : String} {ws : List Char}
    (hws : Blanks ws) {o : Option α} (h : Yields (reader depthLimit text.toList) o ws) :
    (reader.run text).toOption = o := by
  have hskip : skipSpace ws = [] := by
    rw [skipSpace, ← List.append_nil ws, List.dropWhile_append_of_pos hws]
    rfl
  cases o with
  | none =>
    obtain ⟨f, hf⟩ := h.error
    simp only [Reader.run, hf]
    rfl
  | some a =>
    obtain ⟨_, ha⟩ := h.ok
    simp only [Reader.run, ha, Except.bind, bind, hskip]
    rfl

end Entail.Json
