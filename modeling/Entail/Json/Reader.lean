/-
Entail/Json/Reader.lean

Readers: a JSON text turned into a value of a type, with exact faults.

A `Reader` takes the number of brackets that may still be opened and the characters that are left.
Lists and objects are read item by item, so the first thing that is wrong, in the order of the
text, is what gets reported.  `value` reads any JSON value, `skip` passes over one without looking
closer, `listOf`, `variant` and `Record.read` read one of a given shape.
-/
import Entail.Json.Scan

namespace Entail.Json

/-- Reads a value from the front of some characters, opening at most `depth` brackets inside each
other. -/
abbrev Reader (α : Type) := (depth : Nat) → (s : List Char) → Except Fault (Parsed α s)

/-- How deep the brackets of a text may be nested. -/
def depthLimit : Nat := 127

/-! ### Steps between values -/

/-- What comes next inside brackets: their end, with what follows it, or one more item, with what
it starts with. -/
inductive Next (s : List Char) where
  | close (rest : List Char) (shorter : rest.length < s.length)
  | more (rest : List Char) (le : rest.length ≤ s.length)

/-- The next item of a list. -/
def nextItem (first : Bool) (s : List Char) : Except Fault (Next s) :=
  match h : skipSpace s with
  | [] => .error (.here .endInList [])
  | c :: r =>
    have lt := length_lt_of_skipSpace h
    if c = ']' then .ok (.close r lt)
    else if first then .ok (.more (c :: r) (by simpa only [h] using length_skipSpace_le s))
    else if c = ',' then
      match h' : skipSpace r with
      | [] => .error (.here .endInValue [])
      | d :: t =>
        have := length_lt_of_skipSpace h'
        if d = ']' then .error (.beyond .trailingComma (d :: t))
        else .ok (.more (d :: t) (by simp only [List.length_cons]; omega))
    else .error (.beyond .expectedListEnd (c :: r))

/-- The next member of an object.  One more item starts after the opening quote of its key. -/
def nextKey (first : Bool) (s : List Char) : Except Fault (Next s) :=
  match h : skipSpace s with
  | [] => .error (.here .endInObject [])
  | c :: r =>
    have lt := length_lt_of_skipSpace h
    if c = '\x7d' then .ok (.close r lt)
    else if first then
      if c = '"' then .ok (.more r (Nat.le_of_lt lt)) else .error (.beyond .keyNotString (c :: r))
    else if c = ',' then
      match h' : skipSpace r with
      | [] => .error (.here .endInValue [])
      | d :: t =>
        have := length_lt_of_skipSpace h'
        if d = '"' then .ok (.more t (by omega))
        else if d = '\x7d' then .error (.beyond .trailingComma (d :: t))
        else .error (.beyond .keyNotString (d :: t))
    else .error (.beyond .expectedObjectEnd (c :: r))

/-- The rest after the colon between a key and its value. -/
def colon (s : List Char) : Except Fault (Tail s) :=
  match h : skipSpace s with
  | [] => .error (.here .endInObject [])
  | c :: r =>
    if c = ':' then .ok ⟨r, length_lt_of_skipSpace h⟩
    else .error (.beyond .expectedColon (c :: r))

/-- A key from after its opening quote on, with its colon. -/
def key (s : List Char) : Except Fault (Parsed String s) := do
  let name ← stringBody [] s
  let r ← colon name.rest
  have := name.shorter
  have := r.property
  .ok ⟨name.value, r.val, by omega⟩

/-! ### Any value -/

/-- The items of a list, from after the opening bracket on. -/
def items {α : Type} (item : (s : List Char) → Except Fault (Parsed α s)) (first : Bool)
    (read : List α) (s : List Char) : Except Fault (Parsed (List α) s) :=
  match nextItem first s with
  | .error f => .error f
  | .ok (.close rest shorter) => .ok ⟨read.reverse, rest, shorter⟩
  | .ok (.more r le) =>
    match item r with
    | .error f => .error f
    | .ok p =>
      have := p.shorter
      (items item false (p.value :: read) p.rest).map (.widen (by omega))
termination_by s.length
decreasing_by omega

/-- The members of an object, from after the opening brace on. -/
def members {α : Type} (item : (s : List Char) → Except Fault (Parsed α s))
    (put : String → α → List (String × α) → List (String × α)) (first : Bool)
    (read : List (String × α)) (s : List Char) : Except Fault (Parsed (List (String × α)) s) :=
  match nextKey first s with
  | .error f => .error f
  | .ok (.close rest shorter) => .ok ⟨read, rest, shorter⟩
  | .ok (.more r le) =>
    match key r with
    | .error f => .error f
    | .ok k =>
      match item k.rest with
      | .error f => .error f
      | .ok p =>
        have := k.shorter
        have := p.shorter
        (members item put false (put k.value p.value read) p.rest).map (.widen (by omega))
termination_by s.length
decreasing_by omega

/-- Read a value whose first character is known, in two ways: what may be nested and what may
not. -/
def scalarValue (c : Char) (r : List Char) : Except Fault (Parsed Json (c :: r)) :=
  match c with
  | 'n' => (word ['u', 'l', 'l'] r).map fun t => .upTo .null (.ofRest 'n' t)
  | 't' => (word ['r', 'u', 'e'] r).map fun t => .upTo (.bool true) (.ofRest 't' t)
  | 'f' => (word ['a', 'l', 's', 'e'] r).map fun t => .upTo (.bool false) (.ofRest 'f' t)
  | '"' => (stringBody [] r).map fun p => (p.map .text).behind '"'
  | '-' => (negativeNumber r).map fun p => (p.map Number.toJson).behind '-'
  | c =>
    if c.isDigit then (unsignedNumber false c r).map (.map Number.toJson)
    else .error (.beyond .expectedValue (c :: r))

/-- Read any value. -/
def value : Reader Json := fun depth s =>
  match h : skipSpace s with
  | [] => .error (.here .endInValue [])
  | c :: r =>
    have lt := Nat.le_of_lt (length_lt_of_skipSpace h)
    if c = '[' then
      match depth with
      | 0 => .error (.beyond .nestedTooDeep (c :: r))
      | depth + 1 => (items (value depth) true [] r).map fun p => (p.map .list).widen lt
    else if c = '\x7b' then
      match depth with
      | 0 => .error (.beyond .nestedTooDeep (c :: r))
      | depth + 1 => (members (value depth) put true [] r).map fun p => (p.map .object).widen lt
    else
      (scalarValue c r).map (.widen (by simpa only [h] using length_skipSpace_le s))

/-! ### Passing over a value -/

/-- The kind of a bracket that is open. -/
inductive Bracket where
  | list
  | object
  deriving DecidableEq, Repr

/-- The fault of a text that ends inside a bracket. -/
def Bracket.endFault : Bracket → Cause
  | .list => .endInList
  | .object => .endInObject

/-- The fault of an item that is not followed by a comma or the end of the bracket. -/
def Bracket.itemFault : Bracket → Cause
  | .list => .expectedListEnd
  | .object => .expectedObjectEnd

/-- The character that closes a bracket. -/
def Bracket.closer : Bracket → Char
  | .list => ']'
  | .object => '\x7d'

/-- The rest after a string, from after its opening quote on.  Escapes are not looked at beyond
their form, so halves of surrogate pairs pass. -/
def skipString (s : List Char) : Except Fault (Tail s) :=
  match s with
  | [] => .error (.here .endInString [])
  | '"' :: r => .ok (.first '"' r)
  | '\\' :: [] => .error (.here .endInString [])
  | '\\' :: 'u' :: r =>
    match hexEscape r with
    | .error f => .error f
    | .ok p =>
      have := p.shorter
      (skipString p.rest).map fun t =>
        ⟨t.val, by have := t.property; simp only [List.length_cons]; omega⟩
  | '\\' :: c :: r =>
    match escapeLetter? c with
    | none => .error (.beyond .invalidEscape (c :: r))
    | some _ =>
      (skipString r).map fun t => (t.behind c).behind '\\'
  | c :: r =>
    if c.toNat < 0x20 then .error (.here .controlCharacter (c :: r))
    else (skipString r).map (.behind c)
termination_by s.length
decreasing_by all_goals simp only [List.length_cons]; omega

/-- The rest after digits of which there must be one.  The first two arguments say what is wrong
when there is none and the text is at its end, or goes on. -/
def skipDigits (s : List Char) (atEnd past : Fault) : Except Fault (Rest s) :=
  match s with
  | [] => .error atEnd
  | c :: r =>
    if c.isDigit then .ok (afterDigits (c :: r)) else .error past

/-- The rest after the exponent of a number, from after its mark on. -/
def skipExponent (s : List Char) : Except Fault (Rest s) :=
  match s with
  | '+' :: r => (go r).map (.behind '+')
  | '-' :: r => (go r).map (.behind '-')
  | s => go s
where
  /-- The digits of the exponent. -/
  go (s : List Char) : Except Fault (Rest s) :=
    skipDigits s (.here .invalidNumber []) (.beyond .invalidNumber s)

/-- The rest after a number, from the place of an exponent on. -/
def skipAfterFraction (s : List Char) : Except Fault (Rest s) :=
  match s with
  | 'e' :: r => (skipExponent r).map (.behind 'e')
  | 'E' :: r => (skipExponent r).map (.behind 'E')
  | s => .ok (.all s)

/-- The rest after a number, from the place of a point on. -/
def skipAfterWhole (s : List Char) : Except Fault (Rest s) :=
  match s with
  | '.' :: r => do
    let t ← skipDigits r (.here .invalidNumber []) (.beyond .invalidNumber r)
    let u ← skipAfterFraction t.val
    .ok ((t.andThen u).behind '.')
  | s => skipAfterFraction s

/-- The rest after a number without its sign. -/
def skipNumber (s : List Char) : Except Fault (Tail s) :=
  match s with
  | [] => .error (.here .invalidNumber [])
  | c :: r =>
    if !c.isDigit then .error (.beyond .invalidNumber (c :: r))
    else if c = '0' then
      match r with
      | [] => .ok (.first c [])
      | d :: t =>
        if d.isDigit then .error (.beyond .invalidNumber (d :: t))
        else (skipAfterWhole (d :: t)).map (.ofRest c)
    else
      (skipAfterWhole (afterDigits r).val).map fun u => .ofRest c ((afterDigits r).andThen u)

/-- The rest after a value that holds no others, whose first character is known. -/
def skipScalar (c : Char) (r : List Char) : Except Fault (Tail (c :: r)) :=
  match c with
  | 'n' => (word ['u', 'l', 'l'] r).map (.ofRest 'n')
  | 't' => (word ['r', 'u', 'e'] r).map (.ofRest 't')
  | 'f' => (word ['a', 'l', 's', 'e'] r).map (.ofRest 'f')
  | '"' => (skipString r).map (.behind '"')
  | '-' => (skipNumber r).map (.behind '-')
  | c =>
    if c.isDigit then skipNumber (c :: r)
    else .error (.beyond .expectedValue (c :: r))

mutual

/-- The rest after a value and after the open brackets around it, the innermost of which comes
first.  How deep they are nested does not matter. -/
def skipValue (brackets : List Bracket) (s : List Char) : Except Fault (Tail s) :=
  match h : skipSpace s with
  | [] => .error (.here .endInValue [])
  | c :: r =>
    have lt := length_lt_of_skipSpace h
    have le : (c :: r).length ≤ s.length := by simpa only [h] using length_skipSpace_le s
    if c = '[' then
      (skipOpen .list brackets r).map fun t => ⟨t.val, by have := t.property; omega⟩
    else if c = '\x7b' then
      (skipOpen .object brackets r).map fun t => ⟨t.val, by have := t.property; omega⟩
    else
      match skipScalar c r with
      | .error f => .error f
      | .ok t =>
        have := t.property
        match brackets with
        | [] => .ok ⟨t.val, by omega⟩
        | b :: bs => (skipRest b bs t.val).map fun u => ⟨u.val, by have := u.property; omega⟩
termination_by (s.length, 0)

/-- The rest after a bracket that was just opened, and after those around it. -/
def skipOpen (b : Bracket) (brackets : List Bracket) (s : List Char) :
    Except Fault (Tail s) :=
  match h : skipSpace s with
  | [] => .error (.here b.endFault [])
  | c :: r =>
    have lt := length_lt_of_skipSpace h
    if c = b.closer then
      match brackets with
      | [] => .ok ⟨r, lt⟩
      | b :: bs => (skipRest b bs r).map fun u => ⟨u.val, by have := u.property; omega⟩
    else skipEntry b brackets s
termination_by (s.length, 2)

/-- The rest after an item, from the item on, and after the brackets around it. -/
def skipEntry (b : Bracket) (brackets : List Bracket) (s : List Char) :
    Except Fault (Tail s) :=
  match b with
  | .list => skipValue (.list :: brackets) s
  | .object =>
    match h : skipSpace s with
    | [] => .error (.here .endInObject [])
    | c :: r =>
      have lt := length_lt_of_skipSpace h
      if c = '"' then
        match skipString r with
        | .error f => .error f
        | .ok t =>
          have := t.property
          match colon t.val with
          | .error f => .error f
          | .ok u =>
            have := u.property
            (skipValue (.object :: brackets) u.val).map fun w =>
              ⟨w.val, by have := w.property; omega⟩
      else .error (.beyond .keyNotString (c :: r))
termination_by (s.length, 1)

/-- The rest after the brackets around an item that was just passed. -/
def skipRest (b : Bracket) (brackets : List Bracket) (s : List Char) :
    Except Fault (Tail s) :=
  match h : skipSpace s with
  | [] => .error (.here b.endFault [])
  | c :: r =>
    have lt := length_lt_of_skipSpace h
    if c = ',' then
      (skipEntry b brackets r).map fun t => ⟨t.val, by have := t.property; omega⟩
    else if c = b.closer then
      match brackets with
      | [] => .ok ⟨r, lt⟩
      | b :: bs => (skipRest b bs r).map fun u => ⟨u.val, by have := u.property; omega⟩
    else .error (.beyond b.itemFault (c :: r))
termination_by (s.length, 0)

end

/-- Pass over a value of any shape. -/
def skip : Reader Unit := fun _ s => (skipValue [] s).map (.upTo ())

/-! ### Values of a shape -/

/-- The fault of a value of the wrong shape, whose first character is known. -/
def wrongType (wanted : String) (c : Char) (r : List Char) : Fault :=
  if c = '[' then .here (.wrongType .list wanted) (c :: r)
  else if c = '\x7b' then .here (.wrongType .object wanted) (c :: r)
  else
    match scalarValue c r with
    | .error f => f
    | .ok p =>
      let found : Found := match p.value with
        | .null => .null
        | .bool b => .bool b
        | .integer i => .integer i
        | .decimal d => .decimal d
        | .text t => .text t
        | .list _ => .list
        | .object _ => .object
      .here (.wrongType found wanted) p.rest

/-- Read a string.  The argument is what a message says was wanted. -/
def stringNamed (wanted : String) : Reader String := fun _ s =>
  match h : skipSpace s with
  | [] => .error (.here .endInValue [])
  | c :: r =>
    if c = '"' then (stringBody [] r).map (.widen (Nat.le_of_lt (length_lt_of_skipSpace h)))
    else .error (wrongType wanted c r)

/-- Read a string. -/
def string : Reader String := stringNamed "a string"

/-- Read `null`. -/
def unit : Reader Unit := fun _ s =>
  match h : skipSpace s with
  | [] => .error (.here .endInValue [])
  | c :: r =>
    if c = 'n' then
      (word ['u', 'l', 'l'] r).map fun t =>
        ⟨(), t.val, by have := length_lt_of_skipSpace h; have := t.property; omega⟩
    else .error (wrongType "unit" c r)

/-- Read a list. -/
def listOf {α : Type} (item : Reader α) : Reader (List α) := fun depth s =>
  match h : skipSpace s with
  | [] => .error (.here .endInValue [])
  | c :: r =>
    if c = '[' then
      match depth with
      | 0 => .error (.beyond .nestedTooDeep (c :: r))
      | depth + 1 =>
        (items (item depth) true [] r).map (.widen (Nat.le_of_lt (length_lt_of_skipSpace h)))
    else .error (wrongType "a sequence" c r)

/-- Read a value that may be `null`. -/
def nullable {α : Type} (item : Reader α) : Reader (Option α) := fun depth s =>
  match h : skipSpace s with
  | [] => (item depth s).map (.map some)
  | c :: r =>
    if c = 'n' then
      (word ['u', 'l', 'l'] r).map fun t =>
        ⟨none, t.val, by have := length_lt_of_skipSpace h; have := t.property; omega⟩
    else (item depth s).map (.map some)

/-- The value of a name, or the value of all other names, or the fault of a name that has none. -/
def named {α : Type} (names : List (String × α)) (other : Option α) {s : List Char}
    (p : Parsed String s) : Except Fault (Parsed α s) :=
  match (names.lookup p.value).or other with
  | some a => .ok (p.map fun _ => a)
  | none => .error (.here (.unknownVariant p.value (names.map (·.1))) p.rest)

/-- Read one of some names, written as a string or as an object that holds `null` under the
name. -/
def variant {α : Type} (names : List (String × α)) (other : Option α) : Reader α := fun depth s =>
  match h : skipSpace s with
  | [] => .error (.here .endInValue [])
  | c :: r =>
    have lt := length_lt_of_skipSpace h
    if c = '"' then
      ((stringBody [] r).bind (named names other)).map (.widen (Nat.le_of_lt lt))
    else if c = '\x7b' then
      match depth with
      | 0 => .error (.beyond .nestedTooDeep (c :: r))
      | depth + 1 => do
        let name ← stringNamed "variant identifier" depth r
        let a ← named names other name
        let t ← colon a.rest
        let u ← unit depth t.val
        match h' : skipSpace u.rest with
        | [] => .error (.here .endInObject [])
        | d :: w =>
          if d = '\x7d' then
            .ok ⟨a.value, w, by
              have := a.shorter
              have := t.property
              have := u.shorter
              have := length_lt_of_skipSpace h'
              omega⟩
          else .error (.here .expectedValue (d :: w))
    else .error (.beyond .expectedValue (c :: r))

/-! ### Records -/

/-- A field of a record that is read piece by piece. -/
structure Field (ρ : Type) where
  name : String
  /-- The field may be left out of an object. -/
  optional : Bool
  /-- The field may be left out at the end of a list. -/
  omittable : Bool := optional
  /-- The field has been read. -/
  seen : ρ → Bool
  /-- Read the field. -/
  read : ρ → Reader ρ

/-- A record: what messages call it, and its fields in order.  It is written as an object, in which
other members are passed over, or as a list of its fields in order. -/
structure Record (ρ : Type) where
  title : String
  fields : List (Field ρ)

namespace Record

variable {ρ : Type}

/-- What a message says a list of the fields should have been. -/
def listTitle (r : Record ρ) : String :=
  r.title ++ " with " ++
    (if r.fields.length = 1 then "1 element" else toString r.fields.length ++ " elements")

/-- Where a fault in a bracket is placed: after the blanks that follow, and after the closing
character if that is next. -/
def settle (closer : Char) (s : List Char) : List Char :=
  match skipSpace s with
  | c :: r => if c = closer then r else c :: r
  | [] => []

/-- The members of a record written as an object, from after the opening brace on. -/
def readMembers (record : Record ρ) (depth : Nat) (first : Bool) (read : ρ) (s : List Char) :
    Except Fault (Parsed ρ s) :=
  match nextKey first s with
  | .error f => .error f
  | .ok (.close rest shorter) =>
    -- Of several fields that are missing the first one is reported.
    match record.fields.find? fun f => !f.optional && !f.seen read with
    | some f => .error (.here (.missingField f.name) rest)
    | none => .ok ⟨read, rest, shorter⟩
  | .ok (.more r le) =>
    match stringBody [] r with
    | .error f => .error f
    | .ok name =>
      have := name.shorter
      match record.fields.find? fun f => f.name == name.value with
      | some field =>
        if field.seen read then
          .error (.here (.repeatedField field.name) (settle '\x7d' name.rest))
        else
          match colon name.rest with
          | .error f => .error f
          | .ok t =>
            have := t.property
            match field.read read depth t.val with
            | .error f => .error f
            | .ok p =>
              have := p.shorter
              (readMembers record depth false p.value p.rest).map (.widen (by omega))
      | none =>
        match colon name.rest with
        | .error f => .error f
        | .ok t =>
          have := t.property
          match skip depth t.val with
          | .error f => .error f
          | .ok p =>
            have := p.shorter
            (readMembers record depth false read p.rest).map (.widen (by omega))
termination_by s.length
decreasing_by all_goals omega

/-- The end of a record written as a list, once all fields are read. -/
def closeList (read : ρ) (s : List Char) : Except Fault (Parsed ρ s) :=
  match h : skipSpace s with
  | [] => .error (.here .endInList [])
  | c :: r =>
    if c = ']' then .ok ⟨read, r, length_lt_of_skipSpace h⟩
    else if c = ',' then
      match skipSpace r with
      | [] => .error (.beyond .trailingCharacters [])
      | d :: t =>
        .error (.beyond (if d = ']' then .trailingComma else .trailingCharacters) (d :: t))
    else .error (.beyond .trailingCharacters (c :: r))

/-- The fields of a record written as a list, from after the opening bracket on. -/
def readItems (record : Record ρ) (depth : Nat) :
    (count : Nat) → List (Field ρ) → (read : ρ) → (s : List Char) → Except Fault (Parsed ρ s)
  | _, [], read, s => closeList read s
  | count, field :: fields, read, s =>
    match nextItem (count == 0) s with
    | .error f => .error f
    | .ok (.close rest shorter) =>
      -- The list is too short, unless all fields that are left may be omitted.
      match (field :: fields).findIdx? fun f => !f.omittable with
      | some i => .error (.here (.wrongLength (count + i) record.listTitle) rest)
      | none => .ok ⟨read, rest, shorter⟩
    | .ok (.more r le) =>
      match field.read read depth r with
      | .error f => .error f
      | .ok p =>
        have := p.shorter
        (readItems record depth (count + 1) fields p.value p.rest).map (.widen (by omega))

/-- Read a record. -/
def read (record : Record ρ) (start : ρ) : Reader ρ := fun depth s =>
  match h : skipSpace s with
  | [] => .error (.here .endInValue [])
  | c :: r =>
    have lt := Nat.le_of_lt (length_lt_of_skipSpace h)
    if c = '[' then
      match depth with
      | 0 => .error (.beyond .nestedTooDeep (c :: r))
      | depth + 1 => (readItems record depth 0 record.fields start r).map (.widen lt)
    else if c = '\x7b' then
      match depth with
      | 0 => .error (.beyond .nestedTooDeep (c :: r))
      | depth + 1 => (readMembers record depth true start r).map (.widen lt)
    else .error (wrongType record.title c r)

end Record

/-! ### Whole texts -/

/-- Read a whole text: a value with nothing but blanks after it. -/
def Reader.run {α : Type} (reader : Reader α) (text : String) : Except ReadError α :=
  let s := text.toList
  let result : Except Fault α := do
    let p ← reader depthLimit s
    match skipSpace p.rest with
    | [] => .ok p.value
    | r => .error (.beyond .trailingCharacters r)
  result.mapError (Fault.toError s)

end Entail.Json
