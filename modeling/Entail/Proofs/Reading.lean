/-
Entail/Proofs/Reading.lean

Readers and the grammar.

`Interprets read depth meaning` says that a reader makes of every value of the grammar what
`meaning` says, or fails where `meaning` has nothing to say, and stops right behind it, whatever the
value stands between.  Every reader is settled by one such fact: any value is read as it is merged
(`value_interprets`), any value can be passed over (`skip_interprets`), a list is read item by item
(`listOf_interprets`).

The induction is on the number of brackets that may still be opened.  Inside one pair of brackets
there is a second one, on the list of what stands between them.
-/
import Entail.Proofs.Strings

namespace Entail.Json

/-! ### The first character of a value -/

/-- The character starts a value that holds no others. -/
abbrev Plain (c : Char) : Prop := isSpace c = false ∧ c ≠ '[' ∧ c ≠ '\x7b' ∧ c ≠ ']'

/-- The value holds no others. -/
def Scalar : Json → Prop
  | .list _ => False
  | .object _ => False
  | _ => True

theorem Scalar.merged {v : Json} (h : Scalar v) : merged v = v := by
  cases v with
  | list _ => exact h.elim
  | object _ => exact h.elim
  | _ => rfl

/-- What a value that holds no others is to the readers, split at its first character. -/
structure ScalarText (c : Char) (t : List Char) (v : Json) : Prop where
  plain : Plain c
  yields : ∀ rest, Unbroken rest → Yields (scalarValue c (t ++ rest)) (some v) rest
  passes : ∀ rest, Unbroken rest → Passes (skipScalar c (t ++ rest)) rest
  scalar : Scalar v
  text : (c ≠ '"' ∧ ∀ s, v ≠ .text s) ∨
    ∃ cs, c = '"' ∧ StringText cs t ∧ v = .text (String.ofList cs)

theorem Number.scalar_toJson (n : Number) : Scalar n.toJson := by
  cases n <;> trivial

theorem Number.toJson_ne_text (n : Number) (s : String) : n.toJson ≠ .text s := by
  cases n <;> rintro ⟨⟩

/-- A digit is no blank. -/
theorem isSpace_of_isDigit {c : Char} (hc : c.isDigit = true) : isSpace c = false := by
  have hspace : c ≠ ' ' := ne_of_isDigit hc (by decide)
  have hnewline : c ≠ '\n' := ne_of_isDigit hc (by decide)
  have htab : c ≠ '\t' := ne_of_isDigit hc (by decide)
  have hreturn : c ≠ '\r' := ne_of_isDigit hc (by decide)
  simp [isSpace, hspace, hnewline, htab, hreturn]

theorem word_passes (w rest : List Char) : Passes (word w (w ++ rest)) rest := by
  induction w with
  | nil => rfl
  | cons c w ih =>
    show Passes (word (c :: w) (c :: (w ++ rest))) rest
    rw [word, if_pos rfl]
    exact ih.carry fun _ => rfl

/-- A value that is written as a word. -/
theorem ScalarText.ofWord {c : Char} {w : List Char} {v : Json} (plain : Plain c)
    (hvalue : ∀ s, scalarValue c s = (word w s).map fun t => .upTo v (.ofRest c t))
    (hskip : ∀ s, skipScalar c s = (word w s).map (.ofRest c))
    (hscalar : Scalar v) (hquote : c ≠ '"') (htext : ∀ s, v ≠ .text s) : ScalarText c w v where
  plain := plain
  yields rest _ := by
    rw [hvalue]
    obtain ⟨_, hw⟩ := (word_passes w rest).ok
    rw [hw]
    exact ⟨rfl, rfl⟩
  passes rest _ := by
    rw [hskip]
    exact (word_passes w rest).carry fun _ => rfl
  scalar := hscalar
  text := .inl ⟨hquote, htext⟩

/-- A value that is written as a number is one. -/
theorem number_of_scalarValue {c : Char} (hc : c.isDigit = true ∨ c = '-') {t : List Char}
    {p : Parsed Json (c :: t)} (hp : scalarValue c t = .ok p) :
    ∃ n : Number, p.value = n.toJson := by
  rcases hc with hc | rfl
  · rw [scalarValue_of_isDigit hc] at hp
    cases hn : unsignedNumber false c t with
    | error f => rw [hn] at hp; cases hp
    | ok q =>
      rw [hn] at hp
      cases hp
      exact ⟨q.value, rfl⟩
  · rw [scalarValue] at hp
    cases hn : negativeNumber t with
    | error f => rw [hn] at hp; cases hp
    | ok q =>
      rw [hn] at hp
      cases hp
      exact ⟨q.value, rfl⟩

theorem NumberText.scalarText {t : List Char} {v : Json} (h : NumberText t)
    (hv : numberOf? t = some v) : ∃ c r, t = c :: r ∧ ScalarText c r v := by
  obtain ⟨c, r, rfl, hc⟩ : ∃ c r, t = c :: r ∧ (c.isDigit = true ∨ c = '-') := by
    cases h with
    | negative _ => exact ⟨'-', _, rfl, .inr rfl⟩
    | plain hm =>
      obtain ⟨hw, _, _⟩ := hm
      cases hw with
      | zero => exact ⟨'0', _, rfl, .inl rfl⟩
      | digits hc _ _ => exact ⟨_, _, rfl, .inl hc⟩
  have hplain : Plain c := by
    rcases hc with hc | rfl
    · exact ⟨isSpace_of_isDigit hc, ne_of_isDigit hc (by decide), ne_of_isDigit hc (by decide),
        ne_of_isDigit hc (by decide)⟩
    · decide
  have hquote : c ≠ '"' := by
    rcases hc with hc | rfl
    · exact ne_of_isDigit hc (by decide)
    · decide
  obtain ⟨n, rfl⟩ : ∃ n : Number, v = n.toJson := by
    rw [numberOf?] at hv
    cases hs : scalarValue c r with
    | error f => rw [hs] at hv; cases hv
    | ok p =>
      rw [hs] at hv
      obtain ⟨n, hn⟩ := number_of_scalarValue hc hs
      exact ⟨n, (Option.some.inj hv).symm.trans hn⟩
  exact ⟨c, r, rfl, hplain, fun _ => h.yields hv, fun _ => h.passes, n.scalar_toJson,
    .inl ⟨hquote, n.toJson_ne_text⟩⟩

/-- What a value is, told by its first character. -/
theorem Writes.shape {depth : Nat} {v : Json} {t : List Char} (h : Writes depth v t) :
    (∃ c r, t = c :: r ∧ ScalarText c r v) ∨
      (∃ d vs u, depth = d + 1 ∧ v = .list vs ∧ t = '[' :: u ∧ WritesItems d true vs u) ∨
      (∃ d ms u, depth = d + 1 ∧ v = .object ms ∧ t = '\x7b' :: u ∧ WritesMembers d true ms u) := by
  cases h with
  | null =>
    exact .inl ⟨_, _, rfl, .ofWord (by decide) (fun _ => rfl) (fun _ => rfl) trivial (by decide)
      nofun⟩
  | yes =>
    exact .inl ⟨_, _, rfl, .ofWord (by decide) (fun _ => rfl) (fun _ => rfl) trivial (by decide)
      nofun⟩
  | no =>
    exact .inl ⟨_, _, rfl, .ofWord (by decide) (fun _ => rfl) (fun _ => rfl) trivial (by decide)
      nofun⟩
  | number hn hv => exact .inl (hn.scalarText hv)
  | text ht =>
    refine .inl ⟨_, _, rfl, by decide, fun rest _ => ?_, fun rest _ => ?_, trivial,
      .inr ⟨_, rfl, ht, rfl⟩⟩
    · exact (ht.yields [] rest).carry (f := Json.text) fun _ => ⟨rfl, rfl⟩
    · exact (ht.passes rest).carry fun _ => rfl
  | list hvs => exact .inr (.inl ⟨_, _, _, rfl, rfl, rfl, hvs⟩)
  | object hms => exact .inr (.inr ⟨_, _, _, rfl, rfl, rfl, hms⟩)

/-- A value starts with no blank and not with the end of a list. -/
theorem Writes.head {depth : Nat} {v : Json} {t : List Char} (h : Writes depth v t) :
    ∃ c r, t = c :: r ∧ isSpace c = false ∧ c ≠ ']' := by
  rcases h.shape with ⟨c, r, rfl, hs⟩ | ⟨_, _, u, -, -, rfl, -⟩ | ⟨_, _, u, -, -, rfl, -⟩
  · exact ⟨c, r, rfl, hs.plain.1, hs.plain.2.2.2⟩
  · exact ⟨'[', u, rfl, by decide, by decide⟩
  · exact ⟨'\x7b', u, rfl, by decide, by decide⟩

/-! ### Steps between values -/

theorem nextItem_close (first : Bool) {ws : List Char} (hws : Blanks ws) (rest : List Char) :
    ∃ h, nextItem first (ws ++ ']' :: rest) = .ok (.close rest h) := by
  have hs : skipSpace (ws ++ ']' :: rest) = ']' :: rest := hws.skipSpace (by decide) rest
  refine ⟨length_lt_of_skipSpace hs, ?_⟩
  rw [nextItem]
  exact of_skipSpace (P := (· = _)) hs (if_pos rfl)

theorem nextItem_more {first : Bool} {lead : List Char} (hl : Lead first lead) {c : Char}
    (hc : isSpace c = false) (hne : c ≠ ']') (r : List Char) :
    ∃ h, nextItem first (lead ++ c :: r) = .ok (.more (c :: r) h) := by
  cases hl with
  | first hws =>
    have hs : skipSpace (lead ++ c :: r) = c :: r := hws.skipSpace hc r
    refine ⟨by simp, ?_⟩
    rw [nextItem]
    refine of_skipSpace (P := (· = _)) hs ?_
    rw [if_neg hne, if_pos rfl]
  | @comma ws ws' hws hws' =>
    have hs : skipSpace ((ws ++ ',' :: ws') ++ c :: r) = ',' :: (ws' ++ c :: r) := by
      rw [List.append_assoc]
      exact hws.skipSpace (by decide) _
    have hs' : skipSpace (ws' ++ c :: r) = c :: r := hws'.skipSpace hc r
    refine ⟨by simp; omega, ?_⟩
    rw [nextItem]
    refine of_skipSpace (P := (· = _)) hs ?_
    rw [if_neg (by decide), if_neg (by decide), if_pos rfl]
    exact of_skipSpace (P := (· = _)) hs' (if_neg hne)

theorem nextKey_close (first : Bool) {ws : List Char} (hws : Blanks ws) (rest : List Char) :
    ∃ h, nextKey first (ws ++ '\x7d' :: rest) = .ok (.close rest h) := by
  have hs : skipSpace (ws ++ '\x7d' :: rest) = '\x7d' :: rest := hws.skipSpace (by decide) rest
  refine ⟨length_lt_of_skipSpace hs, ?_⟩
  rw [nextKey]
  exact of_skipSpace (P := (· = _)) hs (if_pos rfl)

theorem nextKey_more {first : Bool} {lead : List Char} (hl : Lead first lead) (r : List Char) :
    ∃ h, nextKey first (lead ++ '"' :: r) = .ok (.more r h) := by
  cases hl with
  | first hws =>
    have hs : skipSpace (lead ++ '"' :: r) = '"' :: r := hws.skipSpace (by decide) r
    refine ⟨by simp; omega, ?_⟩
    rw [nextKey]
    refine of_skipSpace (P := (· = _)) hs ?_
    rw [if_neg (by decide), if_pos rfl, if_pos rfl]
  | @comma ws ws' hws hws' =>
    have hs : skipSpace ((ws ++ ',' :: ws') ++ '"' :: r) = ',' :: (ws' ++ '"' :: r) := by
      rw [List.append_assoc]
      exact hws.skipSpace (by decide) _
    have hs' : skipSpace (ws' ++ '"' :: r) = '"' :: r := hws'.skipSpace (by decide) r
    refine ⟨by simp; omega, ?_⟩
    rw [nextKey]
    refine of_skipSpace (P := (· = _)) hs ?_
    rw [if_neg (by decide), if_neg (by decide), if_pos rfl]
    exact of_skipSpace (P := (· = _)) hs' (if_pos rfl)

theorem colon_passes {ws : List Char} (hws : Blanks ws) (r : List Char) :
    Passes (colon (ws ++ ':' :: r)) r := by
  have hs : skipSpace (ws ++ ':' :: r) = ':' :: r := hws.skipSpace (by decide) r
  rw [colon]
  refine of_skipSpace (P := (Passes · r)) hs ?_
  rw [if_pos rfl]
  rfl

/-! ### Brackets -/

/-- A reader makes this of every value of the grammar, whatever it stands between. -/
def Interprets {α : Type} (read : (s : List Char) → Except Fault (Parsed α s)) (depth : Nat)
    (meaning : Json → Option α) : Prop :=
  ∀ {ws t rest : List Char} {v : Json}, Blanks ws → Writes depth v t → Unbroken rest →
    Yields (read (ws ++ (t ++ rest))) (meaning v) rest

/-- What is left inside brackets does not go on with a number. -/
theorem WritesItems.unbroken {depth : Nat} {vs : List Json} {t : List Char}
    (h : WritesItems depth false vs t) (rest : List Char) : Unbroken (t ++ rest) := by
  cases h with
  | close hws =>
    rw [List.append_assoc]
    exact hws.unbroken (by rintro _ _ ⟨⟩; decide)
  | more hl _ _ =>
    cases hl with
    | comma hws _ =>
      simp only [List.append_assoc, List.cons_append]
      exact hws.unbroken (by rintro _ _ ⟨⟩; decide)

theorem WritesMembers.unbroken {depth : Nat} {ms : List (String × Json)} {t : List Char}
    (h : WritesMembers depth false ms t) (rest : List Char) : Unbroken (t ++ rest) := by
  cases h with
  | close hws =>
    rw [List.append_assoc]
    exact hws.unbroken (by rintro _ _ ⟨⟩; decide)
  | more hl _ _ _ _ _ =>
    cases hl with
    | comma hws _ =>
      simp only [List.append_assoc, List.cons_append]
      exact hws.unbroken (by rintro _ _ ⟨⟩; decide)

/-- A list is read item by item, and fails with the first item that does. -/
theorem items_yields {α : Type} {item : (s : List Char) → Except Fault (Parsed α s)}
    {depth : Nat} {meaning : Json → Option α} (hitem : Interprets item depth meaning)
    {first : Bool} {vs : List Json} {t : List Char} (h : WritesItems depth first vs t)
    (read : List α) (rest : List Char) :
    Yields (items item first read (t ++ rest)) ((vs.mapM meaning).map (read.reverse ++ ·))
      rest := by
  induction vs generalizing first t read with
  | nil =>
    cases h with
    | close hws =>
      obtain ⟨_, hnext⟩ := nextItem_close first hws rest
      rw [List.append_assoc, List.singleton_append, items]
      simp only [hnext]
      exact ⟨congrArg some (List.append_nil _).symm, rfl⟩
  | cons v vs ih =>
    cases h with
    | @more _ _ lead t u _ _ hl hv hvs =>
      obtain ⟨c, r, rfl, hc, hne⟩ := hv.head
      obtain ⟨_, hnext⟩ := nextItem_more hl hc hne (r ++ (u ++ rest))
      have hread := hitem Blanks.nil hv (hvs.unbroken rest)
      rw [List.append_assoc, List.append_assoc, List.cons_append, items]
      simp only [hnext]
      rw [List.nil_append, List.cons_append] at hread
      rw [List.mapM_cons]
      -- The first item decides if it means nothing; if not, the items behind it do.
      cases hm : meaning v with
      | none =>
        rw [hm] at hread
        obtain ⟨f, hf⟩ := hread.error
        simp only [hf]
        rfl
      | some a =>
        rw [hm] at hread
        obtain ⟨_, hp⟩ := hread.ok
        have hgo := ih hvs (a :: read)
        simp only [hp]
        refine Yields.keep (fun _ => ⟨rfl, rfl⟩) ?_
        cases hs : vs.mapM meaning with
        | none =>
          rw [hs] at hgo
          exact hgo
        | some as =>
          rw [hs] at hgo
          simpa using hgo

theorem key_yields {name k ws : List Char} (hk : StringText name k) (hws : Blanks ws)
    (r : List Char) :
    Yields (key (k ++ (ws ++ ':' :: r))) (some (String.ofList name)) r := by
  obtain ⟨_, hname⟩ := (hk.yields [] (ws ++ ':' :: r)).ok
  obtain ⟨_, hcolon⟩ := (colon_passes hws r).ok
  simp only [key, hname, Except.bind, bind, hcolon]
  exact ⟨rfl, rfl⟩

/-- An object is read member by member, each one set among those before it. -/
theorem members_yields {item : (s : List Char) → Except Fault (Parsed Json s)} {depth : Nat}
    (hitem : Interprets item depth fun v => some (merged v)) {first : Bool}
    {ms : List (String × Json)} {t : List Char} (h : WritesMembers depth first ms t)
    (read : List (String × Json)) (rest : List Char) :
    Yields (members item put first read (t ++ rest)) (some (mergedInto read ms)) rest := by
  induction ms generalizing first t read with
  | nil =>
    cases h with
    | close hws =>
      obtain ⟨_, hnext⟩ := nextKey_close first hws rest
      rw [List.append_assoc, List.singleton_append, members]
      simp only [hnext]
      exact ⟨rfl, rfl⟩
  | cons m ms ih =>
    cases h with
    | @more _ _ lead k ws ws' t u name v _ hl hk hws hws' hv hms =>
      obtain ⟨_, hnext⟩ := nextKey_more hl (k ++ (ws ++ ':' :: (ws' ++ (t ++ (u ++ rest)))))
      obtain ⟨_, hkey⟩ := (key_yields hk hws (ws' ++ (t ++ (u ++ rest)))).ok
      obtain ⟨_, hread⟩ := (hitem hws' hv (hms.unbroken rest)).ok
      rw [member_append, members]
      simp only [hnext, hkey, hread]
      exact (ih hms _).keep fun _ => ⟨rfl, rfl⟩

/-! ### Any value -/

section

variable {s r rest : List Char} {c : Char}

theorem value_of_plain (hs : skipSpace s = c :: r) (hc : Plain c) (depth : Nat) {o : Option Json}
    (h : Yields (scalarValue c r) o rest) : Yields (value depth s) o rest := by
  rw [value]
  refine of_skipSpace (P := (Yields · _ rest)) hs ?_
  rw [if_neg hc.2.1, if_neg hc.2.2.1]
  exact h.keep fun _ => ⟨rfl, rfl⟩

theorem value_of_list (hs : skipSpace s = '[' :: r) {depth : Nat} {vs : List Json}
    (h : Yields (items (value depth) true [] r) (some vs) rest) :
    Yields (value (depth + 1) s) (some (.list vs)) rest := by
  rw [value]
  refine of_skipSpace (P := (Yields · _ rest)) hs ?_
  rw [if_pos rfl]
  exact h.carry (f := Json.list) fun _ => ⟨rfl, rfl⟩

theorem value_of_object (hs : skipSpace s = '\x7b' :: r) {depth : Nat}
    {ms : List (String × Json)}
    (h : Yields (members (value depth) put true [] r) (some ms) rest) :
    Yields (value (depth + 1) s) (some (.object ms)) rest := by
  rw [value]
  refine of_skipSpace (P := (Yields · _ rest)) hs ?_
  rw [if_neg (by decide), if_pos rfl]
  exact h.carry (f := Json.object) fun _ => ⟨rfl, rfl⟩

end

theorem ScalarText.value_yields {c : Char} {t : List Char} {v : Json} (h : ScalarText c t v)
    {ws rest : List Char} (hws : Blanks ws) (hrest : Unbroken rest) (depth : Nat) :
    Yields (value depth (ws ++ c :: (t ++ rest))) (some (Json.merged v)) rest := by
  rw [h.scalar.merged]
  exact value_of_plain (hws.skipSpace h.plain.1 _) h.plain depth (h.yields rest hrest)

/-- Any value of the grammar is read, with the last value of every key that is repeated. -/
theorem value_interprets (depth : Nat) :
    Interprets (value depth) depth fun v => some (merged v) := by
  induction depth with
  | zero =>
    intro ws t rest v hws hv hrest
    rcases hv.shape with ⟨c, r, rfl, hs⟩ | ⟨_, _, _, hd, _⟩ | ⟨_, _, _, hd, _⟩
    · exact hs.value_yields hws hrest 0
    · cases hd
    · cases hd
  | succ d ih =>
    intro ws t rest v hws hv hrest
    rcases hv.shape with ⟨c, r, rfl, hs⟩ | ⟨_, vs, u, hd, rfl, rfl, hvs⟩ |
      ⟨_, ms, u, hd, rfl, rfl, hms⟩
    · exact hs.value_yields hws hrest (d + 1)
    · obtain rfl := Nat.succ.inj hd
      -- One bracket less is left for the items, and the induction on them is `items_yields`.
      show Yields _ (some (Json.list (mergedItems vs))) rest
      rw [mergedItems_eq_map]
      refine value_of_list (hws.skipSpace (by decide) _) ?_
      have hall : vs.mapM (fun v => some (merged v)) = some (vs.map merged) := List.mapM_pure
      simpa [hall] using items_yields ih hvs [] rest
    · obtain rfl := Nat.succ.inj hd
      show Yields _ (some (Json.object (mergedInto [] ms))) rest
      exact value_of_object (hws.skipSpace (by decide) _) (members_yields ih hms [] rest)

/-! ### Passing over a value -/

/-- What is left once a value inside these brackets, and the brackets around it, are passed. -/
def Left (brackets : List Bracket) (s rest : List Char) : Prop :=
  match brackets with
  | [] => s = rest
  | b :: bs => Passes (skipRest b bs s) rest

section

variable {s r rest : List Char} {c : Char} {brackets : List Bracket}

theorem skipValue_of_plain (hs : skipSpace s = c :: r) (hc : Plain c) {u : List Char}
    (h : Passes (skipScalar c r) u) (hleft : Left brackets u rest) :
    Passes (skipValue brackets s) rest := by
  obtain ⟨_, hscalar⟩ := h.ok
  rw [skipValue]
  refine of_skipSpace (P := (Passes · rest)) hs ?_
  rw [if_neg hc.2.1, if_neg hc.2.2.1]
  simp only [hscalar]
  cases brackets with
  | nil => exact hleft
  | cons b bs => exact Passes.carry (fun _ => rfl) hleft

theorem skipValue_of_list (hs : skipSpace s = '[' :: r)
    (h : Passes (skipOpen .list brackets r) rest) : Passes (skipValue brackets s) rest := by
  rw [skipValue]
  refine of_skipSpace (P := (Passes · rest)) hs ?_
  rw [if_pos rfl]
  exact h.carry fun _ => rfl

theorem skipValue_of_object (hs : skipSpace s = '\x7b' :: r)
    (h : Passes (skipOpen .object brackets r) rest) : Passes (skipValue brackets s) rest := by
  rw [skipValue]
  refine of_skipSpace (P := (Passes · rest)) hs ?_
  rw [if_neg (by decide), if_pos rfl]
  exact h.carry fun _ => rfl

theorem skipOpen_of_closer {b : Bracket} (hs : skipSpace s = b.closer :: r)
    (hleft : Left brackets r rest) : Passes (skipOpen b brackets s) rest := by
  rw [skipOpen]
  refine of_skipSpace (P := (Passes · rest)) hs ?_
  rw [if_pos rfl]
  cases brackets with
  | nil => exact hleft
  | cons b bs => exact Passes.carry (fun _ => rfl) hleft

theorem skipOpen_of_entry {b : Bracket} (hs : skipSpace s = c :: r) (hc : c ≠ b.closer)
    (h : Passes (skipEntry b brackets s) rest) : Passes (skipOpen b brackets s) rest := by
  rw [skipOpen]
  refine of_skipSpace (P := (Passes · rest)) hs ?_
  rw [if_neg hc]
  exact h

theorem skipRest_of_closer {b : Bracket} (hs : skipSpace s = b.closer :: r)
    (hleft : Left brackets r rest) : Passes (skipRest b brackets s) rest := by
  rw [skipRest]
  refine of_skipSpace (P := (Passes · rest)) hs ?_
  rw [if_neg (by cases b <;> decide), if_pos rfl]
  cases brackets with
  | nil => exact hleft
  | cons b bs => exact Passes.carry (fun _ => rfl) hleft

theorem skipRest_of_comma {b : Bracket} (hs : skipSpace s = ',' :: r)
    (h : Passes (skipEntry b brackets r) rest) : Passes (skipRest b brackets s) rest := by
  rw [skipRest]
  refine of_skipSpace (P := (Passes · rest)) hs ?_
  rw [if_pos rfl]
  exact h.carry fun _ => rfl

theorem skipEntry_of_member {name k ws u : List Char}
    (hs : skipSpace s = '"' :: (k ++ (ws ++ ':' :: u))) (hk : StringText name k) (hws : Blanks ws)
    (h : Passes (skipValue (.object :: brackets) u) rest) :
    Passes (skipEntry .object brackets s) rest := by
  obtain ⟨_, hname⟩ := (hk.passes (ws ++ ':' :: u)).ok
  obtain ⟨_, hcolon⟩ := (colon_passes hws u).ok
  rw [skipEntry]
  refine of_skipSpace (P := (Passes · rest)) hs ?_
  rw [if_pos rfl]
  simp only [hname, hcolon]
  exact h.carry fun _ => rfl

end

/-- Values of a depth are passed over, inside any brackets. -/
def Skips (depth : Nat) : Prop :=
  ∀ {ws t u rest : List Char} {v : Json} {brackets : List Bracket}, Blanks ws →
    Writes depth v t → Unbroken u → Left brackets u rest →
      Passes (skipValue brackets (ws ++ (t ++ u))) rest

section

variable {depth : Nat} (hskips : Skips depth) {brackets : List Bracket}

include hskips

theorem skipRest_items {vs : List Json} {t u rest : List Char}
    (h : WritesItems depth false vs t) (hleft : Left brackets u rest) :
    Passes (skipRest .list brackets (t ++ u)) rest := by
  induction vs generalizing t with
  | nil =>
    cases h with
    | close hws =>
      rw [List.append_assoc]
      exact skipRest_of_closer (hws.skipSpace (by decide) u) hleft
  | cons v vs ih =>
    cases h with
    | @more _ _ _ t u' _ _ hl hv hvs =>
      cases hl with
      | @comma ws ws' hws hws' =>
        rw [List.append_assoc, List.append_assoc, List.append_assoc, List.cons_append]
        refine skipRest_of_comma (hws.skipSpace (by decide) _) ?_
        rw [skipEntry]
        exact hskips hws' hv (hvs.unbroken u) (ih hvs)

theorem skipOpen_items {vs : List Json} {t u rest : List Char}
    (h : WritesItems depth true vs t) (hleft : Left brackets u rest) :
    Passes (skipOpen .list brackets (t ++ u)) rest := by
  cases h with
  | close hws =>
    rw [List.append_assoc]
    exact skipOpen_of_closer (hws.skipSpace (by decide) u) hleft
  | @more _ _ ws t u' _ _ hl hv hvs =>
    cases hl with
    | first hws =>
      obtain ⟨c, r, ht, hc, hne⟩ := hv.head
      rw [List.append_assoc, List.append_assoc]
      refine skipOpen_of_entry (c := c) (r := r ++ (u' ++ u)) ?_ hne ?_
      · rw [ht]
        exact hws.skipSpace hc _
      · rw [skipEntry]
        exact hskips hws hv (hvs.unbroken u) (skipRest_items hskips hvs hleft)

theorem skipRest_members {ms : List (String × Json)} {t u rest : List Char}
    (h : WritesMembers depth false ms t) (hleft : Left brackets u rest) :
    Passes (skipRest .object brackets (t ++ u)) rest := by
  induction ms generalizing t with
  | nil =>
    cases h with
    | close hws =>
      rw [List.append_assoc]
      exact skipRest_of_closer (hws.skipSpace (by decide) u) hleft
  | cons m ms ih =>
    cases h with
    | @more _ _ _ k ws ws' t u' _ _ _ hl hk hws hws' hv hms =>
      cases hl with
      | @comma w w' hw hw' =>
        rw [member_append, List.append_assoc, List.cons_append]
        refine skipRest_of_comma (hw.skipSpace (by decide) _) ?_
        refine skipEntry_of_member (hw'.skipSpace (by decide) _) hk hws ?_
        exact hskips hws' hv (hms.unbroken u) (ih hms)

theorem skipOpen_members {ms : List (String × Json)} {t u rest : List Char}
    (h : WritesMembers depth true ms t) (hleft : Left brackets u rest) :
    Passes (skipOpen .object brackets (t ++ u)) rest := by
  cases h with
  | close hws =>
    rw [List.append_assoc]
    exact skipOpen_of_closer (hws.skipSpace (by decide) u) hleft
  | @more _ _ w k ws ws' t u' _ _ _ hl hk hws hws' hv hms =>
    cases hl with
    | first hw =>
      rw [member_append]
      have hs := hw.skipSpace (c := '"') (by decide) (k ++ (ws ++ ':' :: (ws' ++ (t ++ (u' ++ u)))))
      refine skipOpen_of_entry hs (by decide) (skipEntry_of_member hs hk hws ?_)
      exact hskips hws' hv (hms.unbroken u) (skipRest_members hskips hms hleft)

end

/-- Passing over a value keeps its place in a list of open brackets instead of calling itself, so
the statement carries the brackets around the value and what is left behind them. -/
theorem skips (depth : Nat) : Skips depth := by
  induction depth with
  | zero =>
    intro ws t u rest v brackets hws hv hu hleft
    rcases hv.shape with ⟨c, r, rfl, hs⟩ | ⟨_, _, _, hd, _⟩ | ⟨_, _, _, hd, _⟩
    · exact skipValue_of_plain (hws.skipSpace hs.plain.1 _) hs.plain (hs.passes u hu) hleft
    · cases hd
    · cases hd
  | succ d ih =>
    intro ws t u rest v brackets hws hv hu hleft
    rcases hv.shape with ⟨c, r, rfl, hs⟩ | ⟨_, vs, t, hd, rfl, rfl, hvs⟩ |
      ⟨_, ms, t, hd, rfl, rfl, hms⟩
    · exact skipValue_of_plain (hws.skipSpace hs.plain.1 _) hs.plain (hs.passes u hu) hleft
    · obtain rfl := Nat.succ.inj hd
      exact skipValue_of_list (hws.skipSpace (by decide) _) (skipOpen_items ih hvs hleft)
    · obtain rfl := Nat.succ.inj hd
      exact skipValue_of_object (hws.skipSpace (by decide) _) (skipOpen_members ih hms hleft)

/-- Any value of the grammar is passed over. -/
theorem skip_interprets (depth : Nat) : Interprets (skip depth) depth fun _ => some () := by
  intro ws t rest v hws hv hrest
  have hleft : Left [] rest rest := rfl
  obtain ⟨_, hskip⟩ := (skips depth hws hv hrest hleft).ok
  simp only [skip, hskip]
  exact ⟨rfl, rfl⟩

end Entail.Json
