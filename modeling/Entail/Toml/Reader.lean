/-
Entail/Toml/Reader.lean

Reading TOML documents: values, lines and whole texts.
-/
import Entail.Toml.Scan

namespace Entail.Toml

/-! ### Values -/

/-- How deep the brackets of a document may be nested. -/
def depthLimit : Nat := 79

/-- The items of a list, from after the opening bracket on.  Gaps may stand around each, and a
comma after the last. -/
def items? (item : (s : List Char) → Option (Parsed Node s)) (read : List Node) (s : List Char) :
    Option (Parsed (List Node) s) :=
  match skipGap? s with
  | none => none
  | some gap =>
    have := gap.property
    match h : gap.val with
    | ']' :: r => some ⟨read.reverse, r, by
        have := congrArg List.length h
        simp only [List.length_cons] at this
        omega⟩
    | s' =>
      have : s'.length ≤ s.length := by
        have := congrArg List.length h
        omega
      match item s' with
      | none => none
      | some p =>
        have := p.shorter
        match skipGap? p.rest with
        | none => none
        | some gap' =>
          have := gap'.property
          match h' : gap'.val with
          | ',' :: r =>
            have : r.length < s.length := by
              have := congrArg List.length h'
              simp only [List.length_cons] at this
              omega
            (items? item (p.value :: read) r).map (.widen (Nat.le_of_lt this))
          | ']' :: r => some ⟨(p.value :: read).reverse, r, by
              have := congrArg List.length h'
              simp only [List.length_cons] at this
              omega⟩
          | _ => none
termination_by s.length

/-- A path of keys, the sign behind it, and a value. -/
def assignment? (value : (s : List Char) → Option (Parsed Node s)) (s : List Char) :
    Option (Parsed Members.Entry s) := do
  let p ← path? s
  match h : p.rest with
  | '=' :: r =>
    let v ← value (skipSpace r)
    return ⟨⟨p.value.1, p.value.2, v.value⟩, v.rest, by
      have := v.shorter
      have := length_skipSpace_le r
      have := p.shorter
      have := congrArg List.length h
      simp only [List.length_cons] at this
      omega⟩
  | _ => none

/-- The entries of a table inside a line, from the first one on. -/
def entries? (value : (s : List Char) → Option (Parsed Node s)) (read : List Members.Entry)
    (s : List Char) : Option (Parsed (List Members.Entry) s) :=
  match assignment? value s with
  | none => none
  | some e =>
    have := e.shorter
    have := length_skipSpace_le e.rest
    match h : skipSpace e.rest with
    | ',' :: r =>
      have : r.length < s.length := by
        have := congrArg List.length h
        simp only [List.length_cons] at this
        omega
      (entries? value (e.value :: read) r).map (.widen (Nat.le_of_lt this))
    | '\x7d' :: r => some ⟨(e.value :: read).reverse, r, by
        have := congrArg List.length h
        simp only [List.length_cons] at this
        omega⟩
    | _ => none
termination_by s.length

/-- A table inside a line, from after the opening brace on. -/
def record? (value : (s : List Char) → Option (Parsed Node s)) (s : List Char) :
    Option (Parsed Node s) :=
  match h : skipSpace s with
  | '\x7d' :: r => some ⟨.record [], r, by
      have := length_skipSpace_le s
      simp only [h, List.length_cons] at this
      omega⟩
  | _ => do
    let p ← entries? value [] s
    let members ← Members.ofEntries p.value
    return ⟨.record members, p.rest, p.shorter⟩

/-- A truth value, a date, a time or a number. -/
def scalar? (s : List Char) : Option (Parsed Node s) :=
  match s with
  | 't' :: 'r' :: 'u' :: 'e' :: r =>
    some ⟨.bool true, r, by simp only [List.length_cons]; omega⟩
  | 'f' :: 'a' :: 'l' :: 's' :: 'e' :: r =>
    some ⟨.bool false, r, by simp only [List.length_cons]; omega⟩
  | s =>
    match year? s, hour? s with
    | some year, _ => do
      let r ← afterYear? year.value year.rest
      let t ← afterDate? r.val
      return .upTo .moment (year.tail.extend (r.andThen t))
    | none, some hour => do
      let r ← afterHour? hour.val
      return .upTo .moment (hour.extend r)
    | none, none => number? s

/-- A value, with at most `depth` brackets opened inside each other. -/
def value? : (depth : Nat) → (s : List Char) → Option (Parsed Node s)
  | _, [] => none
  | depth, c :: r =>
    if c = '"' ∨ c = '\'' then (string? (c :: r)).map (.map .text)
    else if c = '[' then
      match depth with
      | 0 => none
      | depth + 1 => (items? (value? depth) [] r).map fun p => (p.map .list).behind c
    else if c = '\x7b' then
      match depth with
      | 0 => none
      | depth + 1 => (record? (value? depth) r).map (.behind c)
    else scalar? (c :: r)

/-! ### Lines -/

/-- What a line holds. -/
inductive Line where
  | blank
  | header (header : Members.Header)
  | entry (entry : Members.Entry)

/-- A header, from after its opening brackets on, up to the closing ones. -/
def header? (listed : Bool) (s : List Char) : Option (Parsed Line s) := do
  let p ← path? s
  let t ← mark? ']' p.rest
  let header : Line := .header ⟨listed, p.value.1, p.value.2⟩
  if listed then
    let u ← mark? ']' t.val
    return .upTo header (p.tail.extend (.ofTail (t.extend (.ofTail u))))
  else return .upTo header (p.tail.extend (.ofTail t))

/-- What a line holds, from its first character that is no blank on, up to the blanks and the
comment at its end. -/
def line? (s : List Char) : Option (Line × Rest s) :=
  match s with
  | [] => some (.blank, .all [])
  | '[' :: '[' :: r =>
    (header? true r).map fun p => (p.value, .ofTail ((p.tail.behind '[').behind '['))
  | '[' :: r => (header? false r).map fun p => (p.value, .ofTail (p.tail.behind '['))
  | c :: r =>
    if c = '#' ∨ c = '\n' ∨ c = '\r' then some (.blank, .all (c :: r))
    else (assignment? (value? depthLimit) (c :: r)).map fun p => (.entry p.value, .ofTail p.tail)

/-- The lines of a document, in reverse after those already read. -/
def lines? (read : List Line) (s : List Char) : Option (List Line) :=
  if s = [] then some read.reverse
  else
    match line? (skipSpace s) with
    | none => none
    | some (line, rest) =>
      match endOfLine? rest.val with
      | none => none
      | some t => lines? (line :: read) t.val
termination_by s.length
decreasing_by
  have := List.length_pos_iff.2 ‹s ≠ []›
  have := rest.property
  have := length_skipSpace_le s
  rcases t.property with h | h
  · simp only [h, List.length_nil]; omega
  · omega

/-- The entries above the first header, and each header with the entries below it. -/
def sections : List Line → List Members.Entry × List Members.Section
  | [] => ([], [])
  | line :: rest =>
    let (entries, more) := sections rest
    match line with
    | .blank => (entries, more)
    | .entry e => (e :: entries, more)
    | .header h => ([], ⟨h, entries⟩ :: more)

/-- The table that a document writes.  A mark of the byte order may stand in front. -/
def parse (text : String) : Option Members := do
  let s := text.toList
  let lines ← lines? [] (if s.head? = some '\uFEFF' then s.drop 1 else s)
  let (entries, sections) := sections lines
  Members.ofSections entries sections

end Entail.Toml
