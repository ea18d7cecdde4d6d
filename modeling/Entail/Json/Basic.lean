/-
Entail/Json/Basic.lean

JSON values and their written forms.

The members of an object are kept in order; `Json.put` replaces a member that is there and appends
one that is not, so reading a repeated key keeps the last value.  `Json.compact` writes a value
without blanks, `Json.pretty` writes one item a line, and `Json.sorted` puts the members of every
object in the order of their keys.
-/
import Entail.Decimal.Shortest

namespace Entail

/-- A JSON value. -/
inductive Json where
  | null
  | bool (value : Bool)
  | integer (value : Int)
  | decimal (value : Decimal)
  | text (value : String)
  | list (items : List Json)
  | object (members : List (String × Json))
  deriving Inhabited, Repr

namespace Json

/-- The members with one of them set. -/
def put (key : String) (value : Json) : List (String × Json) → List (String × Json)
  | [] => [(key, value)]
  | (k, v) :: rest => if k = key then (key, value) :: rest else (k, v) :: put key value rest

/-- Members that are there only if they have a value. -/
def optional (key : String) (value : Option Json) : List (String × Json) :=
  match value with
  | none => []
  | some v => [(key, v)]

/-- A list of texts. -/
def texts (values : List String) : Json := .list (values.map .text)

/-! ### Strings -/

/-- How a character is written inside a string. -/
def escape (c : Char) : List Char :=
  match c with
  | '"' => ['\\', '"']
  | '\\' => ['\\', '\\']
  | '\n' => ['\\', 'n']
  | '\r' => ['\\', 'r']
  | '\t' => ['\\', 't']
  | c =>
    if c = '\x08' then ['\\', 'b']
    else if c = '\x0c' then ['\\', 'f']
    else if c.toNat < 0x20 then
      ['\\', 'u', '0', '0', Nat.digitChar (c.toNat / 16), Nat.digitChar (c.toNat % 16)]
    else [c]

/-- A string in quotes. -/
def quoted (s : List Char) : List Char := '"' :: s.flatMap escape ++ ['"']

/-! ### Written forms -/

/-- The written form of a value that holds no others. -/
def scalar : Json → List Char
  | .null => ['n', 'u', 'l', 'l']
  | .bool true => ['t', 'r', 'u', 'e']
  | .bool false => ['f', 'a', 'l', 's', 'e']
  | .integer i =>
    if i < 0 then '-' :: Decimal.digitsIn 10 i.natAbs else Decimal.digitsIn 10 i.natAbs
  | .decimal d => d.text.toList
  | .text s => quoted s.toList
  | .list _ => []
  | .object _ => []

mutual

/-- The written form without blanks. -/
def compact : Json → List Char
  | .list [] => ['[', ']']
  | .list (v :: vs) => '[' :: compact v ++ compactItems vs
  | .object [] => ['{', '}']
  | .object ((k, v) :: ms) => '{' :: quoted k.toList ++ ':' :: compact v ++ compactMembers ms
  | v => scalar v

/-- The items after the first, and the closing bracket. -/
def compactItems : List Json → List Char
  | [] => [']']
  | v :: vs => ',' :: compact v ++ compactItems vs

/-- The members after the first, and the closing brace. -/
def compactMembers : List (String × Json) → List Char
  | [] => ['}']
  | (k, v) :: ms => ',' :: quoted k.toList ++ ':' :: compact v ++ compactMembers ms

end

/-- A new line, indented by two spaces a level. -/
def newline (level : Nat) : List Char := '\n' :: List.replicate (2 * level) ' '

mutual

/-- The written form with one item a line, at a level of indentation. -/
def prettyAt (level : Nat) : Json → List Char
  | .list [] => ['[', ']']
  | .list (v :: vs) =>
    '[' :: newline (level + 1) ++ prettyAt (level + 1) v ++ prettyItems level vs
  | .object [] => ['{', '}']
  | .object ((k, v) :: ms) =>
    '{' :: newline (level + 1) ++ quoted k.toList ++ ':' :: ' ' :: prettyAt (level + 1) v
      ++ prettyMembers level ms
  | v => scalar v

/-- The items after the first, each on its line, and the closing bracket on its own. -/
def prettyItems (level : Nat) : List Json → List Char
  | [] => newline level ++ [']']
  | v :: vs => ',' :: newline (level + 1) ++ prettyAt (level + 1) v ++ prettyItems level vs

/-- The members after the first, each on its line, and the closing brace on its own. -/
def prettyMembers (level : Nat) : List (String × Json) → List Char
  | [] => newline level ++ ['}']
  | (k, v) :: ms =>
    ',' :: newline (level + 1) ++ quoted k.toList ++ ':' :: ' ' :: prettyAt (level + 1) v
      ++ prettyMembers level ms

end

/-- The written form without blanks, as a text. -/
def compactText (v : Json) : String := String.ofList v.compact

/-- The written form with one item a line, as a text. -/
def prettyText (v : Json) : String := String.ofList (v.prettyAt 0)

/-! ### Order of members -/

/-- Insert a member into members in ascending order of keys. -/
def insertMember (m : String × Json) : List (String × Json) → List (String × Json)
  | [] => [m]
  | n :: ms => if m.1 < n.1 then m :: n :: ms else n :: insertMember m ms

mutual

/-- The value with the members of every object in ascending order of their keys. -/
def sorted : Json → Json
  | .list vs => .list (sortedItems vs)
  | .object ms => .object (sortedMembers ms)
  | v => v

/-- Every item of a list sorted. -/
def sortedItems : List Json → List Json
  | [] => []
  | v :: vs => sorted v :: sortedItems vs

/-- The members sorted, and the value of each. -/
def sortedMembers : List (String × Json) → List (String × Json)
  | [] => []
  | (k, v) :: ms => insertMember (k, sorted v) (sortedMembers ms)

end

end Json

end Entail
