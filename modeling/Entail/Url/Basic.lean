/-
Entail/Url/Basic.lean

URLs as far as references are resolved against them: scheme, authority and path.

A query or a fragment is given up when a path is resolved against a URL, so a `Url` has none.
-/
import Entail.Url.Host
import Entail.Url.Path

namespace Entail

namespace Url

/-- Who is asked: a user, a host and a port.  The parts are in their written form. -/
structure Authority where
  user : List Char := []
  password : List Char := []
  host : Host := .empty
  port : Option Nat := none
  deriving DecidableEq, Repr

/-- What follows the authority: segments, each after a slash, or a text that does not start with a
slash. -/
inductive Path where
  | segments (segments : List (List Char))
  | rootless (text : List Char)
  deriving DecidableEq, Repr

end Url

/-- A URL without query and fragment. -/
structure Url where
  scheme : List Char
  authority : Option Url.Authority
  path : Url.Path
  deriving DecidableEq, Repr

namespace Url

/-- The schemes whose hosts are looked up, with their ports. -/
def ports : List (String × Nat) :=
  [("http", 80), ("https", 443), ("ws", 80), ("wss", 443), ("ftp", 21)]

/-- The port of a scheme, which is not written out. -/
def port? (scheme : List Char) : Option Nat := ports.lookup (String.ofList scheme)

/-- The scheme of local files. -/
def isFile (scheme : List Char) : Bool := scheme == ['f', 'i', 'l', 'e']

/-! ### Written form -/

/-- User and password with the sign that ends them, if there are any. -/
def Authority.userText (a : Authority) : List Char :=
  if a.user = [] ∧ a.password = [] then []
  else a.user ++ (if a.password = [] then [] else ':' :: a.password) ++ ['@']

/-- The written form of an authority. -/
def Authority.text (a : Authority) : List Char :=
  a.userText ++ a.host.text ++
    match a.port with
    | none => []
    | some n => ':' :: Decimal.digitsIn 10 n

/-- The written form of a path. -/
def Path.text : Path → List Char
  | .segments ss => pathText ss
  | .rootless s => s

/-- What stands between the scheme and the path.  Where there is no authority, two slashes at the
front of the path would start one. -/
def authorityText (u : Url) : List Char :=
  match u.authority, u.path with
  | some a, _ => '/' :: '/' :: a.text
  | none, .segments ([] :: _ :: _) => ['/', '.']
  | none, _ => []

/-- The written form of a URL. -/
def text (u : Url) : List Char := u.scheme ++ ':' :: u.authorityText ++ u.path.text

instance : ToString Url := ⟨fun u => String.ofList u.text⟩

/-! ### Resolution -/

/-- The segments with the last one replaced by names.  In a file path the letter of a drive stays:
alone it is the root, and otherwise the first name is added to it. -/
def replaceLast (file : Bool) (segments names : List (List Char)) : List (List Char) :=
  match segments.getLast?, names with
  | some last, name :: rest =>
    -- The path ends in the drive, with no slash behind it.
    if file && isPlainDrive last then
      if segments.length = 1 then last :: name :: rest
      else segments.dropLast ++ (last ++ name) :: rest
    else segments.dropLast ++ names
  | _, _ => segments.dropLast ++ names

/-- The URL that a path of plain names means against a URL. -/
def resolve (u : Url) (names : List String) : Except Error Url :=
  match u.path with
  | .rootless _ => .error .rootlessBase
  | .segments ss =>
    .ok { u with path := .segments (replaceLast (isFile u.scheme) ss (names.map String.toList)) }

end Url

end Entail
