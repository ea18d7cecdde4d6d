/-
Entail/Toml/Scan.lean

The smallest parts of a TOML document: blanks, comments, strings, keys, numbers and dates.

A text that does not fit is refused as a whole, so a scanner says no more than that it failed.
-/
import Entail.Text.Hex
import Entail.Text.Parsed
import Entail.Toml.Table

namespace Entail.Toml

/-! ### Blanks and line ends -/

/-- The two characters that may stand between the parts of a line. -/
def isSpace (c : Char) : Bool := c == ' ' || c == '\t'

/-- The characters from the first one on that is no blank. -/
def skipSpace (s : List Char) : List Char := s.dropWhile isSpace

theorem length_skipSpace_le (s : List Char) : (skipSpace s).length ≤ s.length :=
  (List.dropWhile_sublist isSpace).length_le

/-- Characters that stand for themselves: all but the controls. -/
def isPlain (c : Char) : Bool := c == '\t' || (0x20 ≤ c.toNat && c != '\x7f')

/-- The rest after the end of a line. -/
def newline? : (s : List Char) → Option (Tail s)
  | '\n' :: r => some (.first '\n' r)
  | '\r' :: '\n' :: r => some ((Tail.first '\n' r).behind '\r')
  | _ => none

/-- The rest after a comment, if there is one. -/
def afterComment : (s : List Char) → Rest s
  | '#' :: r => (restWhile isPlain r).behind '#'
  | s => .all s

/-- The rest after the blanks and the comment at the end of a line. -/
def afterLine (s : List Char) : Rest s :=
  let r : Rest s := restWhile isSpace s
  r.andThen (afterComment r.val)

/-- The rest after the blanks and the comment at the end of a line, and after the line.  Nothing is
left of the last line. -/
def endOfLine? (s : List Char) : Option { r : List Char // r = [] ∨ r.length < s.length } :=
  match afterLine s with
  | ⟨[], _⟩ => some ⟨[], .inl rfl⟩
  | ⟨c :: r, le⟩ =>
    (newline? (c :: r)).map fun t => ⟨t.val, .inr (Nat.lt_of_lt_of_le t.property le)⟩

/-- The rest after blanks, comments and line ends. -/
def skipGap? (s : List Char) : Option (Rest s) :=
  let r := afterLine s
  match newline? r.val with
  | some t =>
    have := t.property
    have := r.property
    (skipGap? t.val).map fun u => r.andThen ((Rest.ofTail t).andThen u)
  | none =>
    if (skipSpace s).head? = some '#' ∨ r.val.head? = some '\r' then none else some r
termination_by s.length
decreasing_by omega

/-! ### Strings -/

/-- The character that a letter after a backslash stands for. -/
def escapeLetter? : Char → Option Char
  | '"' => some '"'
  | '\\' => some '\\'
  | 'b' => some '\x08'
  | 'f' => some '\x0c'
  | 'n' => some '\n'
  | 'r' => some '\r'
  | 't' => some '\t'
  | _ => none

/-- The character whose code point a number of hexadecimal digits write. -/
def codePoint? (count : Nat) (s : List Char) : Option (Char × Rest s) := do
  let digits := s.take count
  let n ← Text.number? 16 digits
  if digits.length = count ∧ n.isValidChar then
    some (Char.ofNat n, ⟨s.drop count, by simp⟩)
  else none

/-- The character of an escape, from after the backslash on. -/
def escape? : (s : List Char) → Option (Parsed Char s)
  | [] => none
  | 'u' :: r => (codePoint? 4 r).map fun (c, t) => .upTo c (.ofRest 'u' t)
  | 'U' :: r => (codePoint? 8 r).map fun (c, t) => .upTo c (.ofRest 'U' t)
  | c :: r => (escapeLetter? c).map fun d => .upTo d (.first c r)

/-- The characters of a string with escapes, from after the opening quote on.  Those already read
are given in reverse. -/
def quoted? (read : List Char) (s : List Char) : Option (Parsed String s) :=
  match s with
  | [] => none
  | '"' :: r => some (.upTo (String.ofList read.reverse) (.first '"' r))
  | '\\' :: r =>
    match escape? r with
    | none => none
    | some p =>
      have := p.shorter
      (quoted? (p.value :: read) p.rest).map fun q => (q.within (.ofTail p.tail)).behind '\\'
  | c :: r =>
    if isPlain c then (quoted? (c :: read) r).map (.behind c) else none
termination_by s.length
decreasing_by all_goals simp only [List.length_cons]; omega

/-- The characters of a string without escapes, from after the opening quote on. -/
def literal? (s : List Char) : Option (Parsed String s) :=
  let isInside (c : Char) := isPlain c && c != '\''
  match h : s.dropWhile isInside with
  | '\'' :: r =>
    some ⟨String.ofList (s.takeWhile isInside), r, by
      have : (s.dropWhile isInside).length ≤ s.length :=
        (List.dropWhile_sublist isInside).length_le
      simp only [h, List.length_cons] at this
      omega⟩
  | _ => none

/-- The rest after blanks and line ends. -/
def skipLines (s : List Char) : Rest s :=
  match newline? (skipSpace s) with
  | some t =>
    have := t.property
    have := length_skipSpace_le s
    (restWhile isSpace s).andThen ((Rest.ofTail t).andThen (skipLines t.val))
  | none => restWhile isSpace s
termination_by s.length
decreasing_by omega

/-- The rest after the end of a line and the blanks and line ends that follow. -/
def continued? (s : List Char) : Option (Rest s) :=
  (newline? (skipSpace s)).map fun t =>
    (restWhile isSpace s).andThen ((Rest.ofTail t).andThen (skipLines t.val))

/-- The end of a string of several lines: three quotes.  Up to two quotes right before them belong
to the string. -/
def closing? (quote : Char) (s : List Char) : Option (Parsed (List Char) s) :=
  if h : s.take 3 = [quote, quote, quote] then
    -- Of four or five quotes in a row the last three close the string.
    let extra := ((s.drop 3).take 2).takeWhile (· == quote)
    some ⟨extra, s.drop (3 + extra.length), by
      have := congrArg List.length h
      simp only [List.length_take, List.length_cons, List.length_nil, List.length_drop] at this ⊢
      omega⟩
  else none

/-- The characters of a string of several lines, from after the opening quotes on.  A backslash at
the end of a line takes away the blanks and line ends that follow. -/
def block? (quote : Char) (escapes : Bool) (read : List Char) (s : List Char) :
    Option (Parsed String s) :=
  match closing? quote s, newline? s with
  | some p, _ => some (p.map fun extra => String.ofList (read.reverse ++ extra))
  | none, some t =>
    have := t.property
    (block? quote escapes ('\n' :: read) t.val).map (.within (.ofTail t))
  | none, none =>
    match s with
    | [] => none
    | c :: r =>
      if c = '\\' ∧ escapes then
        match continued? r with
        | some t =>
          have := t.property
          (block? quote escapes read t.val).map fun p => (p.within t).behind c
        | none =>
          match escape? r with
          | none => none
          | some p =>
            have := p.shorter
            (block? quote escapes (p.value :: read) p.rest).map fun q =>
              (q.within (.ofTail p.tail)).behind c
      else if isPlain c then
        (block? quote escapes (c :: read) r).map (.behind c)
      else none
termination_by s.length
decreasing_by all_goals first | omega | (simp only [List.length_cons]; omega)

/-- The characters without one line end at the front. -/
def afterNewline (s : List Char) : Rest s :=
  match newline? s with
  | some t => .ofTail t
  | none => .all s

/-- A string of any kind. -/
def string? (s : List Char) : Option (Parsed String s) :=
  match s with
  | '"' :: '"' :: '"' :: r =>
    let t := afterNewline r
    (block? '"' true [] t.val).map fun p =>
      (((p.within t).behind '"').behind '"').behind '"'
  | '\'' :: '\'' :: '\'' :: r =>
    let t := afterNewline r
    (block? '\'' false [] t.val).map fun p =>
      (((p.within t).behind '\'').behind '\'').behind '\''
  | '"' :: r => (quoted? [] r).map (.behind '"')
  | '\'' :: r => (literal? r).map (.behind '\'')
  | _ => none

/-! ### Keys -/

/-- Characters of a key that stands without quotes. -/
def isKeyChar (c : Char) : Bool := c.isAlphanum || c == '-' || c == '_'

/-- One key. -/
def simpleKey? (s : List Char) : Option (Parsed String s) :=
  match s with
  | [] => none
  | '"' :: r => (quoted? [] r).map (.behind '"')
  | '\'' :: r => (literal? r).map (.behind '\'')
  | c :: r =>
    if isKeyChar c then
      some (.upTo (String.ofList (c :: r.takeWhile isKeyChar)) (.ofRest c (restWhile isKeyChar r)))
    else none

/-- Keys with points between them, and with blanks around each.  Those already read are given in
reverse. -/
def keys? (read : List String) (s : List Char) : Option (Parsed (List String) s) :=
  have := length_skipSpace_le s
  match simpleKey? (skipSpace s) with
  | none => none
  | some p =>
    have := p.shorter
    have := length_skipSpace_le p.rest
    match h : skipSpace p.rest with
    | '.' :: r =>
      have : r.length < s.length := by
        have := congrArg List.length h
        simp only [List.length_cons] at this
        omega
      (keys? (p.value :: read) r).map (.widen (Nat.le_of_lt this))
    | r =>
      some ⟨(p.value :: read).reverse, r, by
        have := congrArg List.length h
        omega⟩
termination_by s.length

/-- How many keys a path may have, less one. -/
def pathLimit : Nat := 79

/-- A path of keys: those it leads through, and the last one. -/
def path? (s : List Char) : Option (Parsed (List String × String) s) := do
  let p ← keys? [] s
  if p.value.length ≤ pathLimit then
    return ⟨(p.value.dropLast, p.value.getLastD ""), p.rest, p.shorter⟩
  else none

/-! ### Numbers -/

/-- More digits, each of which may follow an underscore. -/
def moreDigits? (isDigit : Char → Bool) : (s : List Char) → Option (List Char × Rest s)
  | '_' :: d :: r =>
    if isDigit d then
      (moreDigits? isDigit r).map fun (ds, t) => (d :: ds, (t.behind d).behind '_')
    else none
  | ['_'] => none
  | d :: r =>
    if isDigit d then
      (moreDigits? isDigit r).map fun (ds, t) => (d :: ds, t.behind d)
    else some ([], .all (d :: r))
  | [] => some ([], .all [])

/-- Digits, of which there must be one. -/
def digits? (isDigit : Char → Bool) : (s : List Char) → Option (Parsed (List Char) s)
  | [] => none
  | d :: r =>
    if isDigit d then
      (moreDigits? isDigit r).map fun (ds, t) => .upTo (d :: ds) (.ofRest d t)
    else none

/-- Decimal digits of a whole number.  No digit follows a leading zero. -/
def wholeDigits? : (s : List Char) → Option (Parsed (List Char) s)
  | '0' :: r => some (.upTo ['0'] (.first '0' r))
  | s => digits? Char.isDigit s

/-- The greatest integer. -/
def integerLimit : Nat := Nat.pow 2 63 - 1

/-- An integer within 64 bits. -/
def integer? (negative : Bool) (n : Nat) : Option Node :=
  if n ≤ integerLimit then some (.integer (if negative then -n else n))
  else if negative ∧ n = integerLimit + 1 then some (.integer (-n))
  else none

/-- The number of 64 bits nearest to `digits` · 10^`exponent`.  A positive number that is too large
is refused.  Numbers far too small or too large are told by the size of their parts. -/
def real? (negative : Bool) (digits : Nat) (exponent : Int) : Option Node :=
  let size : Int := Nat.log2 digits
  if digits = 0 ∨ size + 1 + 3 * exponent < -1100 then some (.real (.finite negative ⟨0, 0⟩))
  else
    match if size / 4 + exponent ≤ 310 then Decimal.Format.double.ofDecimal digits exponent
      else none with
    | some x => some (.real (.finite negative x))
    | none => if negative then some (.real (.infinite true)) else none

/-- A number in a base other than ten, from after its mark on. -/
def based? (base : Nat) (s : List Char) : Option (Parsed Node s) := do
  let p ← digits? (fun c => (Text.digit? base c).isSome) s
  let node ← integer? false (← Text.number? base p.value)
  return ⟨node, p.rest, p.shorter⟩

/-- The exponent of a number, from after its mark on. -/
def exponent? (s : List Char) : Option (Parsed Int s) :=
  match s with
  | '+' :: r => (unsigned r).map fun p => (p.map Int.ofNat).behind '+'
  | '-' :: r => (unsigned r).map fun p => (p.map Int.negOfNat).behind '-'
  | s => (unsigned s).map (.map Int.ofNat)
where
  unsigned (s : List Char) : Option (Parsed Nat s) := do
    let p ← digits? Char.isDigit s
    let n ← Text.number? 10 p.value
    return ⟨n, p.rest, p.shorter⟩

/-- What follows the digits of a fraction, or of a whole number: an exponent, or nothing. -/
def afterFraction? (negative : Bool) (digits : List Char) (places : Nat) :
    (s : List Char) → Option (Node × Rest s)
  | [] => do
    let node ← real? negative (← Text.number? 10 digits) (-places)
    return (node, .all [])
  | c :: r =>
    if c = 'e' ∨ c = 'E' then do
      let e ← exponent? r
      let node ← real? negative (← Text.number? 10 digits) (e.value - places)
      return (node, (Rest.ofTail e.tail).behind c)
    else do
      let node ← real? negative (← Text.number? 10 digits) (-places)
      return (node, .all (c :: r))

/-- A decimal number, from after its sign on. -/
def decimal? (negative : Bool) (s : List Char) : Option (Parsed Node s) := do
  let whole ← wholeDigits? s
  have := whole.shorter
  match h : whole.rest with
  | '.' :: r =>
    have : r.length < s.length := by
      have := congrArg List.length h
      simp only [List.length_cons] at this
      omega
    let fraction ← digits? Char.isDigit r
    have := fraction.shorter
    let (node, t) ← afterFraction? negative (whole.value ++ fraction.value) fraction.value.length
      fraction.rest
    return ⟨node, t.val, by have := t.property; omega⟩
  | c :: r =>
    if c = 'e' ∨ c = 'E' then
      let (node, t) ← afterFraction? negative whole.value 0 (c :: r)
      return ⟨node, t.val, by
        have := t.property
        have := congrArg List.length h
        omega⟩
    else
      let node ← integer? negative (← Text.number? 10 whole.value)
      return ⟨node, whole.rest, whole.shorter⟩
  | [] =>
    let node ← integer? negative (← Text.number? 10 whole.value)
    return ⟨node, whole.rest, whole.shorter⟩

/-- A number after its sign, which may also be infinite or undefined. -/
def signed? (negative : Bool) (s : List Char) : Option (Parsed Node s) :=
  match s with
  | 'i' :: 'n' :: 'f' :: r =>
    some ⟨.real (.infinite negative), r, by simp only [List.length_cons]; omega⟩
  | 'n' :: 'a' :: 'n' :: r =>
    some ⟨.real .undefined, r, by simp only [List.length_cons]; omega⟩
  | s => decimal? negative s

/-- A number of any kind. -/
def number? (s : List Char) : Option (Parsed Node s) :=
  match s with
  | '0' :: 'x' :: r => (based? 16 r).map fun p => (p.behind 'x').behind '0'
  | '0' :: 'o' :: r => (based? 8 r).map fun p => (p.behind 'o').behind '0'
  | '0' :: 'b' :: r => (based? 2 r).map fun p => (p.behind 'b').behind '0'
  | '+' :: r => (signed? false r).map (.behind '+')
  | '-' :: r => (signed? true r).map (.behind '-')
  | s => signed? false s

/-! ### Dates and times -/

/-- A number of exactly so many decimal digits within bounds, and the rest. -/
def field? (count low high : Nat) (s : List Char) : Option (Nat × Rest s) := do
  let digits := s.take count
  let n ← Text.number? 10 digits
  if digits.length = count ∧ low ≤ n ∧ n ≤ high then
    some (n, ⟨s.drop count, by simp⟩)
  else none

/-- The rest after one given character. -/
def mark? (c : Char) : (s : List Char) → Option (Tail s)
  | [] => none
  | d :: r => if d = c then some (.first d r) else none

/-- The number of days of a month. -/
def daysIn (year month : Nat) : Nat :=
  if month = 2 then
    if year % 4 = 0 ∧ (year % 100 ≠ 0 ∨ year % 400 = 0) then 29 else 28
  else if [4, 6, 9, 11].contains month then 30
  else 31

/-- The rest after a date, from after its year and the mark behind that on. -/
def afterYear? (year : Nat) (s : List Char) : Option (Rest s) := do
  let (month, r) ← field? 2 1 12 s
  let t ← mark? '-' r.val
  let (_, u) ← field? 2 1 (daysIn year month) t.val
  return r.andThen ((Rest.ofTail t).andThen u)

/-- The rest after the fraction of a second, if one is given. -/
def afterSecond : (s : List Char) → Rest s
  | '.' :: d :: r =>
    if d.isDigit then
      ((restWhile Char.isDigit r).behind d).behind '.'
    else .all ('.' :: d :: r)
  | s => .all s

/-- The rest after minutes, a mark and seconds. -/
def afterHour? (s : List Char) : Option (Rest s) := do
  let (_, r) ← field? 2 0 59 s
  let t ← mark? ':' r.val
  let (_, u) ← field? 2 0 60 t.val
  return r.andThen ((Rest.ofTail t).andThen (u.andThen (afterSecond u.val)))

/-- The hour at the front and the mark behind it: whether a time starts here. -/
def hour? (s : List Char) : Option (Tail s) := do
  let (_, r) ← field? 2 0 23 s
  return r.shorten (← mark? ':' r.val)

/-- The rest after the distance from universal time, if one is given. -/
def afterOffset? (s : List Char) : Option (Rest s) :=
  match s with
  | [] => some (.all [])
  | c :: r =>
    if c = 'Z' ∨ c = 'z' then some ((Rest.all r).behind c)
    else if c = '+' ∨ c = '-' then do
      let t ← hour? r
      let (_, u) ← field? 2 0 59 t.val
      return ((Rest.ofTail t).andThen u).behind c
    else some (.all (c :: r))

/-- The rest after the time of a day, if one follows a date. -/
def afterDate? (s : List Char) : Option (Rest s) :=
  match s with
  | [] => some (.all [])
  | c :: r =>
    if c = 'T' ∨ c = 't' ∨ c = ' ' then
      match hour? r with
      | none => some (.all (c :: r))
      | some t => do
        let u ← afterHour? t.val
        let v ← afterOffset? u.val
        return ((Rest.ofTail t).andThen (u.andThen v)).behind c
    else some (.all (c :: r))

/-- The year at the front and the mark behind it: whether a date starts here. -/
def year? (s : List Char) : Option (Parsed Nat s) := do
  let (year, r) ← field? 4 0 9999 s
  return .upTo year (r.shorten (← mark? '-' r.val))

end Entail.Toml
