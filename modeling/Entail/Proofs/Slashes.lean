/-
Entail/Proofs/Slashes.lean

URLs whose texts end in slashes.

Slashes at the end of a text neither belong to a scheme or an authority nor change where these end,
and no margin is cut off behind them.  So texts that differ only in how many slashes they end in are
read alike up to the path, and all these slashes are at the end of the path
(`Url.parse_append_replicate`).  The schemes are those with an authority however many slashes come
before it.  Slashes alone are none, so there is something else in it.

Which part of the text is the path is said by `Url.PathOf`: the path goes to the end, and if the
text has a query or a fragment, then the path has it.
-/
import Entail.Proofs.Directories
import Mathlib.Data.List.DropRight

namespace Entail.Url

/-! ### Texts with slashes at the end -/

/-- The characters of a text that count, if it does not end in a margin. -/
def leading (s : List Char) : List Char := (s.dropWhile isMargin).filter fun c => !isIgnored c

section

variable {s : List Char} {c : Char}

theorem isIgnored_of_not_isMargin (hc : isMargin c = false) : isIgnored c = false := by
  rw [isIgnored]
  simp only [Bool.or_eq_false_iff, beq_eq_false_iff_ne]
  refine ⟨⟨?_, ?_⟩, ?_⟩ <;>
    · rintro rfl
      exact absurd hc (by decide)

/-- A run of a character ends at the first one that is not of it. -/
theorem dropWhile_append_replicate {p : Char → Bool} (hc : p c = false) (s : List Char) (n : Nat) :
    (s ++ List.replicate n c).dropWhile p = s.dropWhile p ++ List.replicate n c := by
  rw [List.dropWhile_append]
  split
  case isTrue h =>
    rw [List.isEmpty_iff.mp h, List.dropWhile_replicate, hc]
    rfl
  case isFalse => rfl

theorem dropWhile_concat {p : Char → Bool} (hc : p c = false) (s : List Char) :
    (s ++ [c]).dropWhile p = s.dropWhile p ++ [c] :=
  dropWhile_append_replicate hc s 1

theorem takeWhile_append_replicate {p : Char → Bool} (hc : p c = false) (s : List Char) (n : Nat) :
    (s ++ List.replicate n c).takeWhile p = s.takeWhile p := by
  -- the two parts of a text make it up, and the second ones differ in the end only
  have h : (s ++ List.replicate n c).takeWhile p ++ (s ++ List.replicate n c).dropWhile p =
      s.takeWhile p ++ (s ++ List.replicate n c).dropWhile p := by
    rw [List.takeWhile_append_dropWhile, dropWhile_append_replicate hc, ← List.append_assoc,
      List.takeWhile_append_dropWhile]
  exact List.append_cancel_right h

theorem leading_append_replicate (s : List Char) (n : Nat) :
    leading (s ++ List.replicate n '/') = leading s ++ List.replicate n '/' := by
  rw [leading, dropWhile_append_replicate rfl, List.filter_append,
    List.filter_replicate_of_pos rfl]
  rfl

theorem leading_concat (hc : isMargin c = false) (s : List Char) :
    leading (s ++ [c]) = leading s ++ [c] := by
  rw [leading, dropWhile_concat hc, List.filter_append, List.filter_singleton,
    isIgnored_of_not_isMargin hc]
  rfl

theorem relevant_of_last (h : ∀ c ∈ s.getLast?, isMargin c = false) :
    relevant (String.ofList s) = leading s := by
  rcases List.eq_nil_or_concat s with rfl | ⟨s, c, rfl⟩
  · rfl
  rw [List.concat_eq_append] at h ⊢
  have hc : isMargin c = false := h c List.getLast?_concat
  rw [relevant, leading, String.toList_ofList, dropWhile_concat hc]
  show ((s.dropWhile isMargin ++ [c]).rdropWhile isMargin).filter _ = _
  rw [List.rdropWhile_concat, hc, if_neg Bool.false_ne_true]

/-- Slashes at the end of a text are no margin and keep what stands before them. -/
theorem relevant_append_replicate {n : Nat} (h : n = 0 → ∀ c ∈ s.getLast?, isMargin c = false) :
    relevant (String.ofList (s ++ List.replicate n '/')) = leading s ++ List.replicate n '/' := by
  rw [← leading_append_replicate]
  refine relevant_of_last ?_
  cases n with
  | zero =>
    rw [List.replicate_zero, List.append_nil]
    exact h rfl
  | succ n =>
    rw [List.replicate_succ', ← List.append_assoc, List.getLast?_concat]
    rintro c ⟨⟩
    rfl

theorem isTail_iff : isTail c = true ↔ c = '?' ∨ c = '#' := by
  rw [isTail, Bool.or_eq_true, beq_iff_eq, beq_iff_eq]

/-- A class of characters without the question mark and the number sign. -/
theorem isTail_eq_false_of {p : Char → Bool} (hp : p '?' = false ∧ p '#' = false)
    (hc : p c = true) : isTail c = false := by
  rw [← Bool.not_eq_true, isTail_iff]
  rintro (rfl | rfl)
  · exact Bool.noConfusion (hc.symm.trans hp.1)
  · exact Bool.noConfusion (hc.symm.trans hp.2)

theorem mem_leading_of_isTail (hc : isTail c = true) : c ∈ leading s ↔ c ∈ s := by
  have hmargin : isMargin c = false ∧ isIgnored c = false := by
    rcases isTail_iff.mp hc with rfl | rfl <;> exact ⟨rfl, rfl⟩
  rw [leading, List.mem_filter, hmargin.2]
  refine ⟨fun h => (List.dropWhile_suffix _).subset h.1, fun h => ⟨?_, rfl⟩⟩
  rw [← List.takeWhile_append_dropWhile (p := isMargin) (l := s), List.mem_append] at h
  refine h.resolve_left fun hfront => ?_
  exact absurd (hmargin.1.symm.trans (List.mem_takeWhile_imp hfront)) Bool.noConfusion

/-! ### Schemes -/

theorem scheme?_of_colon {rest : List Char} (h : s.dropWhile isSchemeChar = ':' :: rest) :
    scheme? s = (s.head?.filter Char.isAlpha).map fun _ =>
      ((s.takeWhile isSchemeChar).map Char.toLower, rest) := by
  rw [scheme?, h]
  cases s.head? with
  | none => rfl
  | some c =>
    rw [Option.filter_some]
    show (if c.isAlpha = true then _ else none) = _
    split <;> rfl

theorem scheme?_of_no_colon (h : ∀ rest, s.dropWhile isSchemeChar ≠ ':' :: rest) :
    scheme? s = none := by
  rw [scheme?]
  split
  case h_1 hrest => exact absurd hrest (h _)
  case h_2 => rfl

/-- A slash neither belongs to a scheme nor ends one. -/
theorem scheme?_append_replicate (s : List Char) (n : Nat) :
    scheme? (s ++ List.replicate n '/') =
      (scheme? s).map fun p => (p.1, p.2 ++ List.replicate n '/') := by
  have hdrop := dropWhile_append_replicate (p := isSchemeChar) (c := '/') rfl s n
  by_cases h : ∃ rest, s.dropWhile isSchemeChar = ':' :: rest
  case pos =>
    obtain ⟨rest, hrest⟩ := h
    have hhead : (s ++ List.replicate n '/').head? = s.head? := by
      cases s with
      | nil => exact absurd hrest.symm (List.cons_ne_nil _ _)
      | cons c s => rfl
    rw [hrest] at hdrop
    rw [scheme?_of_colon hrest, scheme?_of_colon hdrop, takeWhile_append_replicate rfl, hhead,
      Option.map_map]
    rfl
  case neg =>
    rw [scheme?_of_no_colon (s := s) fun rest hrest => h ⟨rest, hrest⟩]
    refine scheme?_of_no_colon fun rest hrest => ?_
    rw [hdrop] at hrest
    -- the colon would be one of the slashes, or the text has it without them
    cases hown : s.dropWhile isSchemeChar with
    | nil =>
      rw [hown, List.nil_append] at hrest
      exact absurd (List.eq_of_mem_replicate (hrest ▸ List.mem_cons_self)) (by decide)
    | cons d own =>
      rw [hown] at hrest
      obtain rfl := (List.cons_eq_cons.mp hrest).1
      exact h ⟨own, hown⟩

end

/-! ### Authorities -/

theorem bind_eq_ok_iff {ε α β : Type} {g : α → Except ε β} {r : Except ε α} {b : β} :
    r >>= g = .ok b ↔ ∃ a, r = .ok a ∧ g a = .ok b := by
  cases r with
  | error e =>
    constructor
    · intro h
      cases h
    · rintro ⟨a, h, -⟩
      cases h
  | ok a =>
    constructor
    · intro h
      exact ⟨a, rfl, h⟩
    · rintro ⟨a', h, hb⟩
      obtain rfl := Except.ok.inj h
      exact hb

/-- Without a backslash nothing comes after a port. -/
theorem readPort_left {s left : List Char} {port : Option Nat} (h : readPort s = .ok (port, left))
    (hs : '\\' ∉ s) : left = [] := by
  rw [readPort] at h
  split at h
  case h_1 => cases h
  case h_2 n _ =>
    split at h
    case isTrue => cases h
    case isFalse =>
      split at h
      case isTrue => cases h
      case isFalse hhead =>
        -- what is left is nothing or starts with a backslash
        obtain ⟨-, rfl⟩ := Prod.mk.inj (Except.ok.inj h)
        have hsub := List.dropWhile_subset Char.isDigit (l := s)
        cases hrest : s.dropWhile Char.isDigit with
        | nil => rfl
        | cons c rest =>
          rw [hrest] at hhead hsub
          obtain rfl : c = '\\' := Decidable.not_not.mp hhead
          exact absurd (hsub List.mem_cons_self) hs

theorem splitPort_append (s : List Char) (inside : Bool) :
    (splitPort inside s).1 ++ (splitPort inside s).2 = s := by
  induction s generalizing inside with
  | nil => rfl
  | cons c s ih =>
    rw [splitPort]
    split
    case isTrue => rfl
    case isFalse => exact congrArg (c :: ·) (ih _)

theorem readHost_left {scheme s left : List Char} {a a' : Authority}
    (h : readHost scheme a s = .ok (a', left)) (hs : '\\' ∉ s) : left = [] := by
  have hport : '\\' ∉ (splitPort false s).2.drop 1 := fun hmem =>
    hs (splitPort_append s false ▸ List.mem_append_right _ (List.mem_of_mem_drop hmem))
  rw [readHost] at h
  dsimp only at h
  split at h
  case isTrue => cases h
  case isFalse =>
    -- the two ways to read the host go on alike, and only a port leaves anything
    split at h
    all_goals
      obtain ⟨host, -, h⟩ := bind_eq_ok_iff.mp h
      split at h
      case isTrue => cases h
      case isFalse =>
        split at h
        case isTrue => exact (Prod.mk.inj (Except.ok.inj h)).2.symm
        case isFalse =>
          obtain ⟨⟨port, left'⟩, hleft, h⟩ := bind_eq_ok_iff.mp h
          obtain ⟨-, rfl⟩ := Prod.mk.inj (Except.ok.inj h)
          exact readPort_left hleft hport

/-- The authority that stands before the first slash, and what it leaves of that text. -/
def readFront (scheme front : List Char) : Except Error (Authority × List Char) := do
  let (start, hostText) : Authority × List Char :=
    match splitUser front with
    | none => ({}, front)
    | some (user, host) => (ofUser user, host)
  let (a, left) ← readHost scheme start hostText
  if a.host = .empty ∧ (a.userText ≠ [] ∨ front = ['@']) then .error .emptyHost
  else .ok (a, left)

/-- The character ends an authority. -/
def isEnd (special : Bool) (c : Char) : Bool := isSlash special c || isTail c

theorem readAuthority_eq (scheme s : List Char) :
    readAuthority scheme s =
      (readFront scheme (s.takeWhile fun c => !isEnd (port? scheme).isSome c)).map fun p =>
        ⟨scheme, some p.1, .segments (readPath false (port? scheme).isSome
          (p.2 ++ s.dropWhile fun c => !isEnd (port? scheme).isSome c))⟩ := by
  rw [readAuthority, readFront]
  generalize (port? scheme).isSome = special
  dsimp only
  have hend : (fun c => !(isSlash special c || isTail c)) = fun c => !isEnd special c := rfl
  rw [hend]
  generalize (s.takeWhile fun c => !isEnd special c) = front
  -- with a user or without one, the host is read and the rest follows from that
  cases splitUser front
  all_goals
    dsimp only
    generalize readHost scheme _ _ = r
    cases r with
    | error e => rfl
    | ok p =>
      show (if _ then _ else _) = Except.map _ (if _ then _ else _)
      split <;> rfl

theorem splitUser_subset {s user host : List Char} (h : splitUser s = some (user, host)) :
    host ⊆ s := by
  rw [splitUser] at h
  split at h
  case h_1 => cases h
  case h_2 =>
    obtain ⟨-, rfl⟩ := Prod.mk.inj (Option.some.inj h)
    intro c hc
    rw [List.mem_reverse] at hc
    exact List.mem_reverse.mp ((List.takeWhile_sublist _).subset hc)

theorem readFront_left {scheme front left : List Char} {a : Authority}
    (h : readFront scheme front = .ok (a, left)) (hs : '\\' ∉ front) : left = [] := by
  rw [readFront] at h
  dsimp only at h
  obtain ⟨⟨a', left'⟩, hhost, h⟩ := bind_eq_ok_iff.mp h
  dsimp only at h
  split at h
  case isTrue => cases h
  case isFalse =>
    obtain ⟨-, rfl⟩ := Prod.mk.inj (Except.ok.inj h)
    cases huser : splitUser front with
    | none =>
      rw [huser] at hhost
      exact readHost_left hhost hs
    | some p =>
      rw [huser] at hhost
      exact readHost_left hhost fun hmem => hs (splitUser_subset huser hmem)

theorem readFront_nil {scheme : List Char} (h : (port? scheme).isSome = true) :
    readFront scheme [] = .error .emptyHost := by
  rw [readFront]
  show (readHost scheme {} [] >>= _) = _
  rw [readHost]
  dsimp only
  rw [h, if_pos rfl]
  rfl

/-! ### Paths behind authorities -/

section

variable {s path before scheme : List Char} {u : Url} {n : Nat} {c : Char}

theorem isEnd_eq_false_of_mem_takeWhile {special : Bool}
    (hc : c ∈ s.takeWhile fun c => !isEnd special c) : isEnd special c = false := by
  rw [← Bool.not_eq_true']
  exact List.mem_takeWhile_imp (p := fun c => !isEnd special c) hc

/-- The text ends with the path: what comes before has no query and no fragment, and the path starts
with a slash if not with one of these. -/
structure PathOf (path s : List Char) : Prop where
  suffix : path <:+ s
  head : ∀ c ∈ path.head?, isEnd true c = true
  tail : ∀ c ∈ s, isTail c = true → c ∈ path

theorem PathOf.append (h : PathOf path s) (hbefore : ∀ c ∈ before, isTail c = false) :
    PathOf path (before ++ s) where
  suffix := h.suffix.trans (List.suffix_append before s)
  head := h.head
  tail c hc htail := by
    rcases List.mem_append.mp hc with hc | hc
    · exact absurd ((hbefore c hc).symm.trans htail) Bool.false_ne_true
    · exact h.tail c hc htail

theorem PathOf.dropWhile (s : List Char) : PathOf (s.dropWhile fun c => !isEnd true c) s := by
  have hfront : ∀ c ∈ s.takeWhile fun c => !isEnd true c, isTail c = false := by
    intro c hc
    exact (Bool.or_eq_false_iff.mp (isEnd_eq_false_of_mem_takeWhile hc)).2
  have hown : PathOf (s.dropWhile fun c => !isEnd true c) (s.dropWhile fun c => !isEnd true c) := by
    refine ⟨List.suffix_rfl, fun c hc => ?_, fun c hc _ => hc⟩
    have hend := List.head?_dropWhile_not (fun c => !isEnd true c) s
    rw [Option.mem_def.mp hc] at hend
    show isEnd true c = true
    rwa [← Bool.not_eq_false']
  have happend := hown.append hfront
  rwa [List.takeWhile_append_dropWhile] at happend

/-- An authority does not depend on the slashes at the end of its text, which belong to the path. -/
theorem readAuthority_append_replicate (hspecial : (port? scheme).isSome = true)
    (h : readAuthority scheme (s ++ List.replicate n '/') = .ok u) :
    ∃ a path, PathOf path s ∧ ∀ m, readAuthority scheme (s ++ List.replicate m '/') =
      .ok ⟨scheme, some a, .segments (readPath false true (path ++ List.replicate m '/'))⟩ := by
  rw [readAuthority_eq, hspecial, takeWhile_append_replicate rfl] at h
  cases hfront : readFront scheme (s.takeWhile fun c => !isEnd true c) with
  | error e =>
    rw [hfront] at h
    cases h
  | ok p =>
    have hleft : p.2 = [] := readFront_left hfront fun hmem =>
      absurd (isEnd_eq_false_of_mem_takeWhile hmem) (by decide)
    refine ⟨p.1, s.dropWhile fun c => !isEnd true c, .dropWhile s, fun m => ?_⟩
    rw [readAuthority_eq, hspecial, takeWhile_append_replicate rfl, hfront,
      dropWhile_append_replicate rfl]
    show Except.ok (Url.mk scheme (some p.1) (.segments (readPath false true (p.2 ++ _)))) = _
    rw [hleft]
    rfl

theorem PathOf.mem_tail (h : PathOf path (leading s)) (hc : isTail c = true) :
    c ∈ path ↔ c ∈ s :=
  ⟨fun hpath => (mem_leading_of_isTail hc).mp (h.suffix.subset hpath),
    fun hs => h.tail c ((mem_leading_of_isTail hc).mpr hs) hc⟩

theorem PathOf.isSlash_head (h : PathOf path s) (htail : ∀ c ∈ path, isTail c = false) :
    ∀ c ∈ path.head?, isSlash true c = true := by
  intro c hc
  have hend := h.head c hc
  rwa [isEnd, htail c (List.mem_of_mem_head? hc), Bool.or_false] at hend

/-- A path ends as the text does. -/
theorem PathOf.getLast? (h : PathOf path (leading s))
    (hs : ∀ c ∈ s.getLast?, isMargin c = false) : ∀ c ∈ path.getLast?, c ∈ s.getLast? := by
  rcases List.eq_nil_or_concat path with rfl | ⟨front, d, rfl⟩
  · rintro c ⟨⟩
  rw [List.concat_eq_append] at h ⊢
  rcases List.eq_nil_or_concat s with rfl | ⟨s, c, rfl⟩
  · exact absurd (List.suffix_nil.mp h.suffix)
      (List.append_ne_nil_of_right_ne_nil _ (List.cons_ne_nil _ _))
  rw [List.concat_eq_append] at h hs ⊢
  -- the last character is no margin, so it counts and ends both
  obtain ⟨before, hbefore⟩ := h.suffix
  rw [leading_concat (hs c List.getLast?_concat), ← List.append_assoc] at hbefore
  obtain rfl := List.singleton_inj.mp (List.append_inj_right' hbefore rfl)
  rw [List.getLast?_concat, List.getLast?_concat]
  exact fun c hc => hc

/-! ### Whole URLs -/

theorem scheme_of_readAuthority (h : readAuthority scheme s = .ok u) : u.scheme = scheme := by
  rw [readAuthority_eq] at h
  cases hfront : readFront scheme (s.takeWhile fun c => !isEnd (port? scheme).isSome c) with
  | error e =>
    rw [hfront] at h
    cases h
  | ok p =>
    rw [hfront] at h
    obtain rfl := Except.ok.inj h
    rfl

theorem scheme_of_readFile (h : readFile s = .ok u) : u.scheme = ['f', 'i', 'l', 'e'] := by
  have hfile : ∀ host path, (.ok (ofFile host path) : Except Error Url) = .ok u →
      u.scheme = ['f', 'i', 'l', 'e'] := by
    intro host path h
    obtain rfl := Except.ok.inj h
    rfl
  rw [readFile.eq_def] at h
  split at h
  case h_1 =>
    split at h
    case isTrue =>
      dsimp only at h
      split at h
      case isTrue => exact hfile _ _ h
      case isFalse =>
        obtain ⟨host, -, h⟩ := bind_eq_ok_iff.mp h
        exact hfile _ _ h
    case isFalse => exact hfile _ _ h
  case h_2 => exact hfile _ _ h

theorem readAuthority_nil (hspecial : (port? scheme).isSome = true) :
    readAuthority scheme [] = .error .emptyHost := by
  rw [readAuthority_eq]
  show Except.map _ (readFront scheme []) = _
  rw [readFront_nil hspecial]
  rfl

variable {text : String}

theorem parse_of_special (hscheme : scheme? (relevant text) = some (scheme, s))
    (hspecial : (port? scheme).isSome = true) :
    parse text = readAuthority scheme (s.dropWhile (isSlash true)) := by
  have hfile : isFile scheme = false := by
    rw [← Bool.not_eq_true]
    intro hfile
    obtain rfl := beq_iff_eq.mp hfile
    exact absurd hspecial (by decide)
  rw [parse, hscheme]
  show (if isFile scheme = true then _ else if (port? scheme).isSome = true then _ else _) = _
  rw [hfile, if_neg Bool.false_ne_true, if_pos hspecial]

theorem scheme?_of_parse (h : parse text = .ok u) (hspecial : (port? u.scheme).isSome = true) :
    ∃ s, scheme? (relevant text) = some (u.scheme, s) := by
  rw [parse] at h
  split at h
  case h_1 => cases h
  case h_2 scheme s hscheme =>
    suffices hsame : u.scheme = scheme from ⟨s, hsame ▸ hscheme⟩
    -- every kind of URL keeps its scheme, except that of a file is always the same
    split at h
    case isTrue =>
      rw [scheme_of_readFile h] at hspecial
      exact absurd hspecial (by decide)
    case isFalse =>
      split at h
      case isTrue => exact scheme_of_readAuthority h
      case isFalse =>
        split at h
        case h_1 => exact scheme_of_readAuthority h
        case h_2 =>
          obtain rfl := Except.ok.inj h
          rfl
        case h_3 =>
          obtain rfl := Except.ok.inj h
          rfl

theorem exists_append_of_scheme? {rest : List Char} (h : scheme? s = some (scheme, rest)) :
    ∃ before, s = before ++ rest ∧ ∀ c ∈ before, isTail c = false := by
  by_cases hcolon : ∃ rest, s.dropWhile isSchemeChar = ':' :: rest
  case neg =>
    rw [scheme?_of_no_colon fun rest hrest => hcolon ⟨rest, hrest⟩] at h
    cases h
  case pos =>
    obtain ⟨own, hown⟩ := hcolon
    rw [scheme?_of_colon hown, Option.map_eq_some_iff] at h
    obtain ⟨c, -, h⟩ := h
    obtain ⟨-, rfl⟩ := Prod.mk.inj h
    refine ⟨s.takeWhile isSchemeChar ++ [':'], ?_, ?_⟩
    · rw [List.append_assoc, List.singleton_append, ← hown, List.takeWhile_append_dropWhile]
    · rw [List.forall_mem_append, List.forall_mem_singleton]
      exact ⟨fun d hd => isTail_eq_false_of ⟨rfl, rfl⟩ (List.mem_takeWhile_imp hd), rfl⟩

/-- Bases that differ in the slashes at the end of their texts are read alike up to the path. -/
theorem parse_append_replicate
    (h : parse (String.ofList (s ++ List.replicate n '/')) = .ok u)
    (hspecial : (port? u.scheme).isSome = true)
    (hn : n = 0 → ∀ c ∈ s.getLast?, isMargin c = false) :
    ∃ a path, PathOf path (leading s) ∧ ∀ m, (m = 0 → ∀ c ∈ s.getLast?, isMargin c = false) →
      parse (String.ofList (s ++ List.replicate m '/')) =
        .ok ⟨u.scheme, some a,
          .segments (readPath false true (path ++ List.replicate m '/'))⟩ := by
  obtain ⟨rest, hrest⟩ := scheme?_of_parse h hspecial
  have hread := parse_of_special hrest hspecial
  rw [h] at hread
  rw [relevant_append_replicate hn, scheme?_append_replicate, Option.map_eq_some_iff] at hrest
  obtain ⟨⟨scheme, own⟩, hown, heq⟩ := hrest
  obtain ⟨rfl, rfl⟩ := Prod.mk.inj heq
  -- slashes in front of the authority are skipped, and something has to be behind them
  have hslashes : own.dropWhile (isSlash true) ≠ [] := by
    intro hnil
    have hall : (own ++ List.replicate n '/').dropWhile (isSlash true) = [] := by
      rw [List.dropWhile_append, hnil]
      exact List.dropWhile_replicate
    rw [hall, readAuthority_nil hspecial] at hread
    cases hread
  have hdrop : ∀ m, (own ++ List.replicate m '/').dropWhile (isSlash true) =
      own.dropWhile (isSlash true) ++ List.replicate m '/' := by
    intro m
    rw [List.dropWhile_append, if_neg (mt List.isEmpty_iff.mp hslashes)]
  rw [hdrop] at hread
  obtain ⟨a, path, hpath, hreads⟩ := readAuthority_append_replicate hspecial hread.symm
  obtain ⟨before, hleading, hbefore⟩ := exists_append_of_scheme? hown
  refine ⟨a, path, ?_, fun m hm => ?_⟩
  · have hskipped : PathOf path own := by
      rw [← List.takeWhile_append_dropWhile (p := isSlash true) (l := own)]
      exact hpath.append fun c hc => isTail_eq_false_of ⟨rfl, rfl⟩ (List.mem_takeWhile_imp hc)
    rw [hleading]
    exact hskipped.append hbefore
  · have hscheme : scheme? (relevant (String.ofList (s ++ List.replicate m '/'))) =
        some (u.scheme, own ++ List.replicate m '/') := by
      rw [relevant_append_replicate hm, scheme?_append_replicate, hown]
      rfl
    rw [parse_of_special hscheme hspecial, hdrop, hreads]

end

end Entail.Url
