/-
Entail/Proofs/Bases.lean

The endpoint under a base.

The base is made a directory by its text: slashes at its end are taken off, one is put back, and the
text is read as a URL.  That is the text of the base but for slashes at its end, so the endpoint has
the scheme, the host and the port of the base, and its path is read from the same text
(`exists_path_of_parse`).  If the base ends with its path, then the path of the endpoint is that of
the base with a fixed end, but for slashes.

If the base has a query or a fragment, the slash ends that and not the path, and the last segment of
the path gives way.

Main results: `endpoint_of_parse`, and a base that loses what it says in `endpoint_loses_segment`.
-/
import Entail.Endpoint
import Entail.Proofs.Slashes

namespace Entail

/-! ### Resolution -/

namespace Url

/-- A base that does not name a file loses its last segment. -/
theorem resolve_segments {u : Url} {segments : List (List Char)}
    (hpath : u.path = .segments segments) (hfile : isFile u.scheme = false) (names : List String) :
    u.resolve names =
      .ok { u with path := .segments (segments.dropLast ++ names.map String.toList) } := by
  rw [resolve, hpath, hfile]
  show Except.ok (Url.mk _ _ (.segments (replaceLast false segments _))) = _
  rw [replaceLast.eq_def]
  split <;> rfl

end Url

/-! ### Slashes at the end of a text -/

/-- How many slashes end a text. -/
def endSlashes (s : String) : Nat := (s.toList.rtakeWhile (· == '/')).length

section

variable {base : String}

theorem toList_withoutEndSlashes (s : String) :
    (withoutEndSlashes s).toList = s.toList.rdropWhile (· == '/') :=
  String.toList_ofList

theorem toList_eq_withoutEndSlashes (s : String) :
    s.toList = (withoutEndSlashes s).toList ++ List.replicate (endSlashes s) '/' := by
  have hslashes : s.toList.rtakeWhile (· == '/') = List.replicate (endSlashes s) '/' := by
    refine List.eq_replicate_iff.mpr ⟨rfl, fun c hc => ?_⟩
    exact beq_iff_eq.mp (List.mem_rtakeWhile_imp (p := (· == '/')) hc)
  rw [toList_withoutEndSlashes, ← hslashes, List.rdropWhile_append_rtakeWhile]

theorem not_slash_suffix_withoutEndSlashes (s : String) :
    ¬ ['/'] <:+ (withoutEndSlashes s).toList := by
  rw [toList_withoutEndSlashes]
  rintro ⟨front, hfront⟩
  have hne : s.toList.rdropWhile (· == '/') ≠ [] := by
    rw [← hfront]
    exact List.append_ne_nil_of_right_ne_nil _ (List.cons_ne_nil _ _)
  refine List.rdropWhile_last_not (· == '/') s.toList hne ?_
  simp only [← hfront, List.getLast_concat, beq_self_eq_true]

/-- A text without a slash at its end is what is left of it, however many are put there. -/
theorem withoutEndSlashes_append_replicate {s : List Char} (hs : ¬ ['/'] <:+ s) (n : Nat) :
    (withoutEndSlashes (String.ofList (s ++ List.replicate n '/'))).toList = s := by
  rw [toList_withoutEndSlashes, String.toList_ofList]
  induction n with
  | zero =>
    rw [List.replicate_zero, List.append_nil]
    refine List.rdropWhile_eq_self_iff.mpr fun hne hlast => hs ?_
    rw [← beq_iff_eq.mp hlast]
    exact ⟨_, List.dropLast_append_getLast hne⟩
  | succ n ih =>
    rw [List.replicate_succ', ← List.append_assoc, List.rdropWhile_concat_pos _ _ _ rfl, ih]

/-- If there are no slashes at the end of a text, all of it is left. -/
theorem getLast?_withoutEndSlashes (hbase : endSlashes base = 0) :
    (withoutEndSlashes base).toList.getLast? = base.toList.getLast? := by
  have htext := toList_eq_withoutEndSlashes base
  rw [hbase, List.replicate_zero, List.append_nil] at htext
  rw [htext]

theorem isSlash_last_withoutEndSlashes (hbase : endSlashes base = 0)
    (hback : ∀ c ∈ base.toList.getLast?, c ≠ '\\') :
    ∀ c ∈ (withoutEndSlashes base).toList.getLast?, Url.isSlash true c = false := by
  intro c hc
  have hne : c ≠ '\\' := hback c (getLast?_withoutEndSlashes hbase ▸ hc)
  rw [← Bool.not_eq_true, Url.isSlash, Bool.true_and, Bool.or_eq_true, beq_iff_eq, beq_iff_eq,
    not_or]
  refine ⟨?_, hne⟩
  rintro rfl
  exact not_slash_suffix_withoutEndSlashes base ⟨_, List.dropLast_append_getLast? '/' hc⟩

end

/-! ### The endpoint -/

/-- The path of chat completions under a path, which gives up the slashes at its end. -/
def chatPath (path : List Char) : List Char :=
  (withoutEndSlashes (String.ofList path)).toList ++ "/chat/completions".toList

/-- The names that chat completions have under a base. -/
def chatNames : List (List Char) := ["chat".toList, "completions".toList]

namespace Url

theorem pathText_append_chatNames (front : List (List Char)) :
    pathText (front ++ chatNames) = pathText front ++ "/chat/completions".toList := by
  rw [pathText_append]
  rfl

/-- The path under a directory is that of chat completions unless the directory itself ends in a
slash. -/
theorem pathText_eq_chatPath_iff (front : List (List Char)) (m : Nat) :
    pathText (front ++ chatNames) = chatPath (pathText (front ++ List.replicate m [])) ↔
      ¬ ['/'] <:+ pathText front := by
  rw [pathText_append_chatNames, chatPath, List.append_left_inj, pathText_append,
    pathText_replicate]
  constructor
  · intro h
    rw [h]
    exact not_slash_suffix_withoutEndSlashes _
  · intro h
    exact (withoutEndSlashes_append_replicate h m).symm

/-- A directory ends in a slash if a path that leads to it ends in more of them than the text does,
and in more than the one that is added where the text has none. -/
theorem replicate_suffix_pathText_iff {front : List (List Char)} {m n : Nat}
    (hcount : m = max 1 n ∨ m = 0 ∧ n = 0 ∧ ¬ ['/'] <:+ pathText front) :
    List.replicate (max 1 n + 1) '/' <:+ pathText (front ++ List.replicate m []) ↔
      ['/'] <:+ pathText front := by
  rw [pathText_append, pathText_replicate]
  rcases hcount with rfl | ⟨rfl, rfl, hfront⟩
  · rw [List.replicate_succ, ← List.singleton_append, List.suffix_append_self_iff]
  · -- a path that is written as no directory does not end in a slash, let alone in two
    rw [List.replicate_zero, List.append_nil]
    refine iff_of_false (fun h => hfront ?_) hfront
    exact (List.suffix_append ['/'] ['/']).trans h

end Url

/-- The endpoint under a base whose text ends in some slashes. -/
theorem endpoint_append_slash {base : String} {u : Url} {segments : List (List Char)}
    (hparse : Url.parse (String.ofList ((withoutEndSlashes base).toList ++ ['/'])) = .ok u)
    (hpath : u.path = .segments segments) (hfile : Url.isFile u.scheme = false) :
    endpoint base = .ok { u with path := .segments (segments.dropLast ++ chatNames) } := by
  have htext : withoutEndSlashes base ++ "/" =
      String.ofList ((withoutEndSlashes base).toList ++ ['/']) := by
    rw [← String.toList_inj, String.toList_append, String.toList_ofList, String.toList_ofList]
  rw [endpoint, htext, hparse]
  exact Url.resolve_segments hpath hfile ["chat", "completions"]

/-- The path has the query and the fragment of the base. -/
theorem mem_path_iff {base : String} {path : List Char} {c : Char}
    (hpath : Url.PathOf path (Url.leading (withoutEndSlashes base).toList))
    (hc : Url.isTail c = true) : c ∈ path ↔ c ∈ base.toList := by
  have hslash : c ∉ List.replicate (endSlashes base) '/' := by
    intro hmem
    rw [List.eq_of_mem_replicate hmem] at hc
    exact Bool.noConfusion hc
  rw [hpath.mem_tail hc, toList_eq_withoutEndSlashes base, List.mem_append, or_iff_left hslash]

/-- The base and its endpoint are read from one path, with the slashes at the end of the base behind
it or with just one. -/
theorem exists_path_of_parse {base : String} {u : Url} (hparse : Url.parse base = .ok u)
    (hscheme : u.scheme = "http".toList ∨ u.scheme = "https".toList)
    (hend : ∀ c ∈ base.toList.getLast?, Url.isMargin c = false) :
    ∃ path, Url.PathOf path (Url.leading (withoutEndSlashes base).toList) ∧
      u.path = .segments
        (Url.readPath false true (path ++ List.replicate (endSlashes base) '/')) ∧
      endpoint base = .ok { u with
        path := .segments ((Url.readPath false true (path ++ ['/'])).dropLast ++ chatNames) } := by
  have hspecial : (Url.port? u.scheme).isSome = true := by
    rcases hscheme with h | h <;> rw [h] <;> decide
  have hfile : Url.isFile u.scheme = false := by
    rcases hscheme with h | h <;> rw [h] <;> decide
  have hmargin : endSlashes base = 0 →
      ∀ c ∈ (withoutEndSlashes base).toList.getLast?, Url.isMargin c = false := by
    intro hbase
    rw [getLast?_withoutEndSlashes hbase]
    exact hend
  have hown : base = String.ofList base.toList := String.ofList_toList.symm
  rw [hown, toList_eq_withoutEndSlashes base] at hparse
  obtain ⟨a, path, hpath, hreads⟩ := Url.parse_append_replicate hparse hspecial hmargin
  have hu := Except.ok.inj (hparse.symm.trans (hreads _ hmargin))
  have hauthority : some a = u.authority := congrArg Url.authority hu.symm
  refine ⟨path, hpath, congrArg Url.path hu, ?_⟩
  rw [endpoint_append_slash (hreads 1 (absurd · Nat.one_ne_zero)) rfl hfile, hauthority]
  rfl

/-- **Where the endpoint lies.**  Under a base that can be read, and whose text does not end in a
margin, there is an endpoint with the scheme, the host and the port of the base.

With a query or a fragment, the base loses the last segment of its path.  Without one, the path of
the endpoint has all segments of the base but empty ones at the end.  It is the path of the base
without the slashes at its end unless that has more of them than the text of the base, and more than
the one that is added where the text has none. -/
theorem endpoint_of_parse {base : String} {u : Url} (hparse : Url.parse base = .ok u)
    (hscheme : u.scheme = "http".toList ∨ u.scheme = "https".toList)
    (hend : ∀ c ∈ base.toList.getLast?, Url.isMargin c = false) :
    ∃ e, endpoint base = .ok e ∧ e.scheme = u.scheme ∧ e.authority = u.authority ∧
      ((∃ c ∈ base.toList, Url.isTail c = true) →
        ∃ segments, u.path = .segments segments ∧
          e.path = .segments (segments.dropLast ++ chatNames)) ∧
      ((∀ c ∈ base.toList, Url.isTail c = false) →
        (∃ front m, u.path = .segments (front ++ List.replicate m []) ∧
          e.path = .segments (front ++ chatNames)) ∧
        ((∀ c ∈ base.toList.getLast?, c ≠ '\\') →
          (e.path.text = chatPath u.path.text ↔
            ¬ List.replicate (max 1 (endSlashes base) + 1) '/' <:+ u.path.text))) := by
  obtain ⟨path, hpath, hu, he⟩ := exists_path_of_parse hparse hscheme hend
  refine ⟨_, he, rfl, rfl, ?_, ?_⟩
  · rintro ⟨c, hc, htail⟩
    have hpathTail : ∃ c ∈ path, Url.isTail c = true :=
      ⟨c, (mem_path_iff hpath htail).mpr hc, htail⟩
    refine ⟨_, hu, ?_⟩
    -- the slashes behind the query do nothing, with one or with all of them
    rw [Url.readPath_of_tail hpathTail, Url.readPath_of_tail hpathTail]
  · intro htail
    have hpathTail : ∀ c ∈ path, Url.isTail c = false := by
      intro c hc
      rw [← Bool.not_eq_true]
      intro hc'
      exact Bool.noConfusion ((htail c ((mem_path_iff hpath hc').mp hc)).symm.trans hc')
    have hfirst := hpath.isSlash_head hpathTail
    have hdirectory : (Url.readPath false true (path ++ ['/'])).dropLast = Url.directory path := by
      rw [← List.replicate_one, Url.readPath_slashes hpathTail hfirst Nat.one_ne_zero,
        List.replicate_one, List.dropLast_concat]
    -- both paths are the directory with empty segments behind it, the one of the endpoint with one
    obtain ⟨m, hm, hcount⟩ := Url.readPath_directory hpathTail hfirst (endSlashes base)
    rw [hm] at hu
    rw [hdirectory, hu]
    refine ⟨⟨_, m, rfl, rfl⟩, fun hback => ?_⟩
    have hlast : endSlashes base = 0 → ∀ c ∈ path.getLast?, Url.isSlash true c = false := by
      intro hbase c hc
      refine isSlash_last_withoutEndSlashes hbase hback c (hpath.getLast? ?_ c hc)
      rw [getLast?_withoutEndSlashes hbase]
      exact hend
    show Url.pathText _ = chatPath (Url.pathText _) ↔ ¬ _ <:+ Url.pathText _
    rw [Url.replicate_suffix_pathText_iff (hcount hlast)]
    exact Url.pathText_eq_chatPath_iff _ m

theorem endpoint_of_parse_slashes :
    ∃ e, endpoint "http://h:8080/v1//" = .ok e ∧ e.scheme = "http".toList ∧
      e.authority = some { host := .name ['h'], port := some 8080 } ∧
      e.path.text = "/v1/chat/completions".toList := by
  let u : Url :=
    ⟨"http".toList, some { host := .name ['h'], port := some 8080 }, .segments [['v', '1'], [], []]⟩
  have hparse : Url.parse "http://h:8080/v1//" = .ok u := by decide +kernel
  have hlast : ∀ c ∈ "http://h:8080/v1//".toList.getLast?, c = '/' := by
    intro c hc
    exact (Option.some.inj hc).symm
  have htail : ∀ c ∈ "http://h:8080/v1//".toList, Url.isTail c = false := fun c hc =>
    (Bool.not_eq_true' _).mp (List.all_eq_true.mp
      (by decide : ("http://h:8080/v1//".toList.all fun c => !Url.isTail c) = true) c hc)
  obtain ⟨e, he, hscheme, hauthority, -, hplain⟩ :=
    endpoint_of_parse hparse (.inl rfl) fun c hc => by rw [hlast c hc]; rfl
  refine ⟨e, he, hscheme, hauthority, ?_⟩
  rw [((hplain htail).2 fun c hc => by rw [hlast c hc]; decide).mpr (by decide)]
  decide

/-- With a query the last segment of the base is lost, whatever it says. -/
theorem endpoint_loses_segment :
    ∃ u, Url.parse "http://h/v1?x=1" = .ok u ∧ u.scheme = "http".toList ∧
      ¬ ∃ e, endpoint "http://h/v1?x=1" = .ok e ∧ e.scheme = u.scheme ∧
        e.authority = u.authority ∧ e.path.text = chatPath u.path.text := by
  refine ⟨⟨"http".toList, some { host := .name ['h'] }, .segments [['v', '1']]⟩,
    by decide +kernel, rfl, ?_⟩
  rintro ⟨e, he, -, -, hpath⟩
  have hchat : endpoint "http://h/v1?x=1" =
      .ok ⟨"http".toList, some { host := .name ['h'] }, .segments chatNames⟩ := by decide +kernel
  obtain rfl := Except.ok.inj (he.symm.trans hchat)
  exact absurd hpath (by decide)

end Entail
