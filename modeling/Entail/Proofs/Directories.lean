/-
Entail/Proofs/Directories.lean

Slashes at the end of a path.

A slash at the end of a path makes the path a directory: what stands in front of it is followed as
it is without the slash, and every further slash is an empty segment of its own.  So a path, however
many slashes it ends in, and the path with just one are the same directory followed by empty
segments (`Url.readPath_slashes`).

Without any slash the path may still be written as a directory, because it ends in a dot segment or
is empty.  If it is not, then the last segment of the directory is its own, and not empty
(`Url.readPath_bare`).

A query or a fragment takes the slashes with it, and they do nothing for the path
(`Url.readPath_of_tail`).
-/
import Entail.Url.Reader
import Mathlib.Data.List.Basic
import Mathlib.Data.List.TakeWhile

namespace Entail

/-! ### Parts -/

namespace Text

variable {p : Char → Bool} {c : Char} {s : List Char}

theorem parts_cons_separator (hc : p c = true) : parts p (c :: s) = [] :: parts p s := by
  rw [parts, List.foldr_cons, if_pos hc]
  rfl

theorem parts_ne_nil (p : Char → Bool) (s : List Char) : parts p s ≠ [] := by
  cases s with
  | nil => exact List.cons_ne_nil _ _
  | cons d s =>
    rw [parts, List.foldr_cons]
    split
    · exact List.cons_ne_nil _ _
    · split <;> exact List.cons_ne_nil _ _

/-- A character that separates nothing belongs to the first part. -/
theorem parts_cons_of_not (hc : p c = false) :
    ∃ part rest, parts p s = part :: rest ∧ parts p (c :: s) = (c :: part) :: rest := by
  obtain ⟨part, rest, hparts⟩ := List.exists_cons_of_ne_nil (parts_ne_nil p s)
  refine ⟨part, rest, hparts, ?_⟩
  rw [parts, List.foldr_cons, ← parts, hparts, if_neg (by rw [hc]; exact Bool.false_ne_true)]

/-- A separator at the end adds an empty part. -/
theorem parts_concat_separator (hc : p c = true) (s : List Char) :
    parts p (s ++ [c]) = parts p s ++ [[]] := by
  induction s with
  | nil => rw [List.nil_append, parts_cons_separator hc]; rfl
  | cons d s ih =>
    rw [List.cons_append]
    cases hd : p d with
    | true => rw [parts_cons_separator hd, parts_cons_separator hd, ih, List.cons_append]
    | false =>
      obtain ⟨part, rest, hparts, hcons⟩ := parts_cons_of_not (s := s) hd
      obtain ⟨part', rest', hparts', hcons'⟩ := parts_cons_of_not (s := s ++ [c]) hd
      rw [ih, hparts, List.cons_append] at hparts'
      obtain ⟨rfl, rfl⟩ := List.cons_eq_cons.mp hparts'
      rw [hcons, hcons', List.cons_append]

theorem parts_append_replicate (hc : p c = true) (s : List Char) (n : Nat) :
    parts p (s ++ List.replicate n c) = parts p s ++ List.replicate n [] := by
  induction n with
  | zero => rw [List.replicate_zero, List.replicate_zero, List.append_nil, List.append_nil]
  | succ n ih =>
    rw [List.replicate_succ', List.replicate_succ', ← List.append_assoc,
      parts_concat_separator hc, ih, List.append_assoc]

/-- Any other character at the end belongs to the last part. -/
theorem parts_concat_of_not (hc : p c = false) (s : List Char) :
    ∃ front part, parts p (s ++ [c]) = front ++ [part ++ [c]] := by
  induction s with
  | nil =>
    obtain ⟨part, rest, hparts, hcons⟩ := parts_cons_of_not (s := []) hc
    obtain ⟨rfl, rfl⟩ := List.cons_eq_cons.mp hparts
    exact ⟨[], [], hcons⟩
  | cons d s ih =>
    obtain ⟨front, part, h⟩ := ih
    rw [List.cons_append]
    cases hd : p d with
    | true => exact ⟨[] :: front, part, by rw [parts_cons_separator hd, h, List.cons_append]⟩
    | false =>
      obtain ⟨first, rest, hparts, hcons⟩ := parts_cons_of_not (s := s ++ [c]) hd
      rw [h] at hparts
      rw [hcons]
      -- the character in front joins the last part only if that is the first one too
      cases front with
      | nil =>
        obtain ⟨rfl, rfl⟩ := List.cons_eq_cons.mp hparts
        exact ⟨[], d :: part, rfl⟩
      | cons first' front =>
        obtain ⟨rfl, rfl⟩ := List.cons_eq_cons.mp hparts
        exact ⟨(d :: first') :: front, part, rfl⟩

/-- No part holds a separator. -/
theorem not_mem_of_mem_parts (hc : p c = true) {part : List Char} (h : part ∈ parts p s) :
    c ∉ part := by
  induction s generalizing part with
  | nil =>
    obtain rfl := List.mem_singleton.mp h
    exact List.not_mem_nil
  | cons d s ih =>
    cases hd : p d with
    | true =>
      rw [parts_cons_separator hd] at h
      rcases List.mem_cons.mp h with rfl | h
      · exact List.not_mem_nil
      · exact ih h
    | false =>
      obtain ⟨first, rest, hparts, hcons⟩ := parts_cons_of_not (s := s) hd
      rw [hcons] at h
      rw [hparts] at ih
      rcases List.mem_cons.mp h with rfl | h
      · rw [List.mem_cons, not_or]
        refine ⟨?_, ih List.mem_cons_self⟩
        rintro rfl
        exact absurd (hc.symm.trans hd) Bool.noConfusion
      · exact ih (List.mem_cons_of_mem _ h)

end Text

namespace Url

/-! ### Encoded segments -/

theorem slash_not_mem_percentByte (b : UInt8) : '/' ∉ percentByte b := by
  have hdigit : ∀ n < 16, (Nat.digitChar n).toUpper ≠ '/' := by decide
  have hb : b.toNat < 16 * 16 := b.toNat_lt
  rw [percentByte, List.mem_cons, List.mem_cons, List.mem_singleton]
  rintro (h | h | h)
  · exact absurd h (by decide)
  · exact hdigit _ (Nat.div_lt_of_lt_mul hb) h.symm
  · exact hdigit _ (Nat.mod_lt _ (by decide)) h.symm

theorem slash_not_mem_percentEncode {encoded : Char → Bool} {s : List Char} (h : '/' ∉ s) :
    '/' ∉ percentEncode encoded s := by
  rw [percentEncode, List.mem_flatMap]
  rintro ⟨c, hc, hmem⟩
  split at hmem
  · obtain ⟨b, -, hb⟩ := List.mem_flatMap.mp hmem
    exact slash_not_mem_percentByte b hb
  · obtain rfl := List.mem_singleton.mp hmem
    exact h hc

theorem percentEncode_ne_nil {encoded : Char → Bool} {s : List Char} (h : s ≠ []) :
    percentEncode encoded s ≠ [] := by
  obtain ⟨c, s, rfl⟩ := List.exists_cons_of_ne_nil h
  rw [percentEncode, List.flatMap_cons]
  refine List.append_ne_nil_of_left_ne_nil ?_ _
  split
  · obtain ⟨b, bs, hbytes⟩ := List.exists_cons_of_ne_nil (String.utf8EncodeChar_ne_nil (c := c))
    rw [hbytes, List.flatMap_cons, percentByte]
    exact List.cons_ne_nil _ _
  · exact List.cons_ne_nil _ _

/-! ### Following segments to a directory -/

/-- The directory that segments lead to from another one, both given last one first.  In contrast to
`follow`, it does not matter where the segments end. -/
def walk (up : List (List Char)) : List (List Char) → List (List Char)
  | [] => up
  | s :: rest =>
    if isDoubleDot s then walk (ascend up) rest
    else if isDot s then walk up rest
    else walk (percentEncode encodedInPath s :: up) rest

theorem walk_append (segments rest : List (List Char)) (up : List (List Char)) :
    walk up (segments ++ rest) = walk (walk up segments) rest := by
  induction segments generalizing up with
  | nil => rfl
  | cons s segments ih =>
    rw [List.cons_append, walk, walk]
    split
    · exact ih _
    · split
      · exact ih _
      · exact ih _

/-- Where more segments come, the ones before them lead to a directory. -/
theorem follow_append {rest : List (List Char)} (hrest : rest ≠ []) (segments : List (List Char))
    (up : List (List Char)) :
    follow false up (segments ++ rest) = follow false (walk up segments) rest := by
  induction segments generalizing up with
  | nil => rfl
  | cons s segments ih =>
    have hne : segments ++ rest ≠ [] := List.append_ne_nil_of_right_ne_nil _ hrest
    rw [List.cons_append, follow, walk, if_neg hne, if_neg hne, Bool.false_and, Bool.false_and,
      if_neg Bool.false_ne_true]
    split
    · exact ih _
    · split
      · exact ih _
      · exact ih _

/-- Empty segments are kept. -/
theorem follow_replicate (n : Nat) (up : List (List Char)) :
    follow false up (List.replicate n []) = up.reverse ++ List.replicate n [] := by
  induction n generalizing up with
  | zero => rw [List.replicate_zero, follow, List.append_nil]
  | succ n ih =>
    have hdots : isDoubleDot [] = false ∧ isDot [] = false := by decide
    rw [List.replicate_succ, follow, hdots.1, hdots.2, if_neg Bool.false_ne_true,
      if_neg Bool.false_ne_true, Bool.false_and, Bool.false_and, if_neg Bool.false_ne_true, ih]
    show ([] :: up).reverse ++ _ = _
    rw [List.reverse_cons, List.append_assoc]
    rfl

/-- A last segment leads to its directory, which is written as one if the segment is a dot segment;
else it is the last segment of the directory. -/
theorem follow_last (up : List (List Char)) (s : List Char) :
    follow false up [s] = (walk up [s]).reverse ++ [[]] ∨
      follow false up [s] = (walk up [s]).reverse ∧
        walk up [s] = percentEncode encodedInPath s :: up := by
  rw [follow, walk, Bool.false_and, Bool.false_and, if_neg Bool.false_ne_true, if_pos rfl,
    if_pos rfl]
  split
  · left
    rw [follow, walk, List.reverse_cons]
  · split
    · left
      rw [follow, walk, List.reverse_cons]
    · right
      rw [follow, walk]
      exact ⟨rfl, rfl⟩

/-! ### Written paths -/

theorem pathText_append (segments rest : List (List Char)) :
    pathText (segments ++ rest) = pathText segments ++ pathText rest :=
  List.flatMap_append

theorem pathText_replicate (n : Nat) :
    pathText (List.replicate n []) = List.replicate n '/' := by
  induction n with
  | zero => rfl
  | succ n ih =>
    rw [List.replicate_succ, List.replicate_succ, pathText, List.flatMap_cons, ← pathText, ih]
    rfl

/-- A path ends in a slash only if its last segment is empty. -/
theorem not_slash_suffix_pathText {front : List (List Char)} {s : List Char} (hs : s ≠ [])
    (hslash : '/' ∉ s) : ¬ ['/'] <:+ pathText (front ++ [s]) := by
  obtain ⟨s', c, rfl⟩ : ∃ s' c, s = s' ++ [c] := ⟨_, _, (List.dropLast_append_getLast hs).symm⟩
  have htext : pathText (front ++ [s' ++ [c]]) = (pathText front ++ '/' :: s') ++ [c] := by
    rw [pathText_append, List.append_assoc]
    show _ ++ (('/' :: (s' ++ [c])) ++ []) = _
    rw [List.append_nil]
    rfl
  rw [htext]
  intro h
  have hc : '/' = c := by
    obtain ⟨before, hbefore⟩ := h
    exact List.singleton_inj.mp (List.append_inj_right' hbefore rfl)
  exact hslash (List.mem_append_right _ (List.mem_singleton.mpr hc))

/-! ### Read paths -/

section

variable {path : List Char}

/-- What follows a query or a fragment is no part of the path. -/
theorem readPath_of_tail (htail : ∃ c ∈ path, isTail c = true) (file special : Bool)
    (rest : List Char) : readPath file special (path ++ rest) = readPath file special path := by
  have hstop : ¬ (path.takeWhile fun c => !isTail c).length = path.length := by
    intro hlength
    obtain ⟨c, hc, htail⟩ := htail
    have hall := List.takeWhile_eq_self_iff.mp (List.takeWhile_sublist _ |>.eq_of_length hlength)
    have := hall c hc
    rw [htail] at this
    exact absurd this Bool.false_ne_true
  rw [readPath, readPath, List.takeWhile_append, if_neg hstop]

/-- A path starts with a slash, and its segments are what stands between its slashes. -/
theorem readPath_slash {c : Char} (hc : isSlash true c = true)
    (htail : ∀ d ∈ c :: path, isTail d = false) :
    readPath false true (c :: path) = follow false [] (Text.parts (isSlash true) path) := by
  have hall : ((c :: path).takeWhile fun d => !isTail d) = c :: path :=
    List.takeWhile_eq_self_iff.mpr fun d hd => by rw [htail d hd]; rfl
  rw [readPath, hall]
  show follow false [] (Text.parts _ (if isSlash true c = true then path else c :: path)) = _
  rw [if_pos hc]

/-- The segments of the directory that a path leads to. -/
def directory : List Char → List (List Char)
  | [] => []
  | _ :: s => (walk [] (Text.parts (isSlash true) s)).reverse

/-- With slashes at its end a path is read as the directory that it leads to.  Each of them adds an
empty segment. -/
theorem readPath_slashes (htail : ∀ c ∈ path, isTail c = false)
    (hfirst : ∀ c ∈ path.head?, isSlash true c = true) {n : Nat} (hn : n ≠ 0) :
    readPath false true (path ++ List.replicate n '/') =
      directory path ++ List.replicate n [] := by
  have hslash : isSlash true '/' = true := rfl
  cases path with
  | nil =>
    obtain ⟨n, rfl⟩ := Nat.exists_eq_succ_of_ne_zero hn
    rw [List.nil_append, List.replicate_succ, readPath_slash hslash]
    · rw [← List.nil_append (List.replicate n '/'), Text.parts_append_replicate hslash]
      exact follow_replicate (n + 1) []
    · intro c hc
      rw [← List.replicate_succ] at hc
      rw [List.eq_of_mem_replicate hc]
      rfl
  | cons c s =>
    have hne : List.replicate n ([] : List Char) ≠ [] := by
      rwa [ne_eq, List.replicate_eq_nil_iff]
    rw [List.cons_append, readPath_slash (hfirst c rfl)]
    · rw [Text.parts_append_replicate hslash, follow_append hne, follow_replicate]
      rfl
    · rw [← List.cons_append, List.forall_mem_append]
      refine ⟨htail, fun d hd => ?_⟩
      rw [List.eq_of_mem_replicate hd]
      rfl

/-- As it is, a path may be written as the directory that it leads to.  If it is not, and does not
end in a slash either, then its last segment is not empty. -/
theorem readPath_bare (htail : ∀ c ∈ path, isTail c = false)
    (hfirst : ∀ c ∈ path.head?, isSlash true c = true) :
    readPath false true path = directory path ++ [[]] ∨
      readPath false true path = directory path ∧
        ((∀ c ∈ path.getLast?, isSlash true c = false) →
          ¬ ['/'] <:+ pathText (directory path)) := by
  cases path with
  | nil => exact .inl rfl
  | cons c s =>
    rw [readPath_slash (hfirst c rfl) htail]
    obtain ⟨front, part, hparts⟩ :=
      (List.eq_nil_or_concat (Text.parts (isSlash true) s)).resolve_left (Text.parts_ne_nil _ _)
    rw [List.concat_eq_append] at hparts
    rw [directory, hparts, walk_append, follow_append (List.cons_ne_nil _ _)]
    rcases follow_last (walk [] front) part with h | ⟨h, hwalk⟩
    · exact .inl h
    · refine .inr ⟨h, fun hlast => ?_⟩
      have hs : s ≠ [] := by
        rintro rfl
        exact absurd ((hfirst c rfl).symm.trans (hlast c rfl)) Bool.noConfusion
      obtain ⟨s', d, rfl⟩ : ∃ s' d, s = s' ++ [d] := ⟨_, _, (List.dropLast_append_getLast hs).symm⟩
      have hd : isSlash true d = false := hlast d (by
        rw [← List.cons_append, List.getLast?_concat]
        rfl)
      obtain ⟨front', part', hparts'⟩ := Text.parts_concat_of_not hd s'
      have hpart : part = part' ++ [d] :=
        List.singleton_inj.mp (List.append_inj_right' (hparts.symm.trans hparts') rfl)
      have hslash : '/' ∉ part :=
        Text.not_mem_of_mem_parts (p := isSlash true) (s := s' ++ [d]) rfl
          (hparts ▸ List.mem_append_right _ List.mem_cons_self)
      rw [hwalk, List.reverse_cons]
      have hne : part ≠ [] := hpart ▸ List.append_ne_nil_of_right_ne_nil _ (List.cons_ne_nil _ _)
      exact not_slash_suffix_pathText (percentEncode_ne_nil hne)
        (slash_not_mem_percentEncode hslash)

/-- However many slashes end a path, it is its directory and empty segments.  There are as many of
these as slashes, and one if there is none, unless the path ends in a segment of its own. -/
theorem readPath_directory (htail : ∀ c ∈ path, isTail c = false)
    (hfirst : ∀ c ∈ path.head?, isSlash true c = true) (n : Nat) :
    ∃ m, readPath false true (path ++ List.replicate n '/') =
        directory path ++ List.replicate m [] ∧
      ((n = 0 → ∀ c ∈ path.getLast?, isSlash true c = false) →
        m = max 1 n ∨ m = 0 ∧ n = 0 ∧ ¬ ['/'] <:+ pathText (directory path)) := by
  by_cases hn : n = 0
  · subst hn
    rw [List.replicate_zero, List.append_nil]
    rcases readPath_bare htail hfirst with h | ⟨h, hslash⟩
    · exact ⟨1, h, fun _ => .inl rfl⟩
    · refine ⟨0, ?_, fun hlast => .inr ⟨rfl, rfl, hslash (hlast rfl)⟩⟩
      rw [h, List.replicate_zero, List.append_nil]
  · exact ⟨n, readPath_slashes htail hfirst hn, fun _ =>
      .inl (Nat.max_eq_right (Nat.one_le_iff_ne_zero.mpr hn)).symm⟩

end

end Url

end Entail
