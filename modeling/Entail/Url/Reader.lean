/-
Entail/Url/Reader.lean

Reading URLs.

Blanks and controls around the text and line breaks and tabs inside it do not count.  A scheme
comes first.  The schemes of `Url.ports` and of files treat a backslash as a slash; the former have
an authority however many slashes come before it.
-/
import Entail.Url.Basic

namespace Entail.Url

/-- Controls and the space, which do not count at the ends of a URL. -/
def isMargin (c : Char) : Bool := c.toNat ≤ 0x20

/-- Line breaks and tabs, which do not count anywhere in a URL. -/
def isIgnored (c : Char) : Bool := c == '\t' || c == '\n' || c == '\r'

/-- The characters of a text that count. -/
def relevant (text : String) : List Char :=
  let s := text.toList.dropWhile isMargin
  (s.reverse.dropWhile isMargin).reverse.filter fun c => !isIgnored c

/-- The character may follow the first letter of a scheme. -/
def isSchemeChar (c : Char) : Bool := c.isAlphanum || c == '+' || c == '-' || c == '.'

/-- The scheme in lower case, and what follows its colon. -/
def scheme? (s : List Char) : Option (List Char × List Char) :=
  match s.head?, s.dropWhile isSchemeChar with
  | some c, ':' :: rest =>
    if c.isAlpha then some ((s.takeWhile isSchemeChar).map Char.toLower, rest) else none
  | _, _ => none

/-- The character is a slash, or a backslash where that counts as one. -/
def isSlash (special : Bool) (c : Char) : Bool := c == '/' || (special && c == '\\')

/-- The character starts a query or a fragment. -/
def isTail (c : Char) : Bool := c == '?' || c == '#'

/-! ### Paths -/

/-- The segments of a path that starts with a slash or is empty, up to a query or fragment. -/
def readPath (file special : Bool) (s : List Char) : List (List Char) :=
  match s.takeWhile fun c => !isTail c with
  | [] => if special then [[]] else []
  | c :: r =>
    follow file [] (Text.parts (isSlash special) (if isSlash special c then r else c :: r))

/-! ### Authorities -/

/-- Split at the last `@`. -/
def splitUser (s : List Char) : Option (List Char × List Char) :=
  match s.reverse.dropWhile (· != '@') with
  | [] => none
  | _ :: front => some (front.reverse, (s.reverse.takeWhile (· != '@')).reverse)

/-- An authority with a user and, after the first colon, a password. -/
def ofUser (s : List Char) : Authority where
  user := percentEncode encodedInUser (s.takeWhile (· != ':'))
  password := percentEncode encodedInUser ((s.dropWhile (· != ':')).drop 1)

/-- Split before the colon of the port, which does not stand in brackets. -/
def splitPort (inside : Bool) : List Char → List Char × List Char
  | [] => ([], [])
  | c :: s =>
    if c = ':' ∧ !inside then ([], c :: s)
    else
      let (host, port) := splitPort (if c = '[' then true else if c = ']' then false else inside) s
      (c :: host, port)

/-- The port that digits write, with what comes after it.  A backslash ends it too. -/
def readPort (s : List Char) : Except Error (Option Nat × List Char) :=
  let digits := s.takeWhile Char.isDigit
  let rest := s.dropWhile Char.isDigit
  match Text.number? 10 digits with
  | none => .error .port
  | some n =>
    if 65535 < n then .error .port
    else if rest.headD '\\' ≠ '\\' then .error .port
    else .ok (if digits = [] then none else some n, rest)

/-- The host and the port, and what comes after them. -/
def readHost (scheme : List Char) (a : Authority) (s : List Char) :
    Except Error (Authority × List Char) := do
  let (hostText, portText) := splitPort false s
  let special := (port? scheme).isSome
  if special && hostText.isEmpty then .error .emptyHost
  else
    let host ← if special then Host.ofText hostText else Host.ofPlain hostText
    if hostText.isEmpty && !portText.isEmpty then .error .emptyHost
    else
      let (port, rest) ← if portText.isEmpty then .ok (none, []) else readPort (portText.drop 1)
      .ok ({ a with host, port := port.filter fun n => port? scheme != some n }, rest)

/-- A URL from after the two slashes in front of its authority on. -/
def readAuthority (scheme s : List Char) : Except Error Url := do
  let special := (port? scheme).isSome
  let isEnd (c : Char) := isSlash special c || isTail c
  let front := s.takeWhile fun c => !isEnd c
  let rest := s.dropWhile fun c => !isEnd c
  let (start, hostText) : Authority × List Char :=
    match splitUser front with
    | none => ({}, front)
    | some (user, host) => (ofUser user, host)
  let (a, left) ← readHost scheme start hostText
  -- Nobody can be a user of no host, not even a user without a name.
  if a.host = .empty ∧ (a.userText ≠ [] ∨ front = ['@']) then
    .error .emptyHost
  else
    .ok ⟨scheme, some a, .segments (readPath false special (left ++ rest))⟩

/-! ### Files -/

/-- The host of a file, which is none for the machine itself. -/
def readFileHost (s : List Char) : Except Error Host := do
  if s = [] then .ok .empty
  else
    let host ← Host.ofText s
    if host.text = "localhost".toList then .ok .empty else .ok host

/-- A URL of a file.  A drive in front of the path leaves no host.  Empty segments in front do not
count. -/
def ofFile (host : Host) (path : List (List Char)) : Url where
  scheme := ['f', 'i', 'l', 'e']
  authority := some { host := if path.head?.any isPlainDrive then .empty else host }
  path := .segments (withoutEmptyFront path)

/-- A URL of a file, from after the colon of its scheme on.  A drive in the place of a host belongs
to the path. -/
def readFile (s : List Char) : Except Error Url := do
  match s with
  | a :: b :: r =>
    if isSlash true a && isSlash true b then
      let isEnd (c : Char) := isSlash true c || isTail c
      let hostText := r.takeWhile fun c => !isEnd c
      -- What looks like a host may be the drive of a path.
      if isDrive hostText then .ok (ofFile .empty (readPath true true r))
      else
        let host ← readFileHost hostText
        .ok (ofFile host (readPath true true (r.dropWhile fun c => !isEnd c)))
    else .ok (ofFile .empty (readPath true true s))
  | _ => .ok (ofFile .empty (readPath true true s))

/-! ### Whole texts -/

/-- Read a URL. -/
def parse (text : String) : Except Error Url :=
  match scheme? (relevant text) with
  | none => .error .noBase
  | some (scheme, s) =>
    if isFile scheme then readFile s
    else if (port? scheme).isSome then readAuthority scheme (s.dropWhile (isSlash true))
    else
      match s with
      | '/' :: '/' :: r => readAuthority scheme r
      | '/' :: r => .ok ⟨scheme, none, .segments (readPath false false ('/' :: r))⟩
      | s =>
        let path := s.takeWhile fun c => !isTail c
        .ok ⟨scheme, none, .rootless (percentEncode encodedAlways path)⟩

end Entail.Url
