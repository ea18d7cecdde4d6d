/-
Entail/Json/Fault.lean

What can be wrong with a JSON text, and where.

A reader that stops reports a `Fault`: the cause, and how many bytes of the text were left when it
noticed.  `Fault.toError` turns the bytes left into a line and a column.  Columns count bytes in
UTF-8, and a line starts after a line feed with column 0 still to come.
-/
import Entail.Text.Quoted

namespace Entail.Json

/-- What a reader found where it wanted something else. -/
inductive Found where
  | null
  | bool (value : Bool)
  | integer (value : Int)
  | decimal (value : Decimal)
  | text (value : String)
  | list
  | object
  deriving Repr

/-- How a message names what was found. -/
def Found.phrase : Found → String
  | .null => "null"
  | .bool true => "boolean `true`"
  | .bool false => "boolean `false`"
  | .integer i => "integer `" ++ toString i ++ "`"
  | .decimal d => "floating point `" ++ d.text ++ "`"
  | .text s => "string " ++ Text.quote s
  | .list => "sequence"
  | .object => "map"

/-- Why a reader stopped. -/
inductive Cause where
  | endInValue
  | endInString
  | endInList
  | endInObject
  | expectedValue
  | expectedIdent
  | expectedColon
  | expectedListEnd
  | expectedObjectEnd
  | invalidEscape
  | invalidNumber
  | numberOutOfRange
  | loneSurrogate
  | unfinishedSurrogate
  | controlCharacter
  | keyNotString
  | trailingComma
  | trailingCharacters
  | nestedTooDeep
  | wrongType (found : Found) (wanted : String)
  | wrongLength (length : Nat) (wanted : String)
  | unknownVariant (name : String) (known : List String)
  | missingField (name : String)
  | repeatedField (name : String)
  | noAlternative (wanted : String)
  deriving Repr

/-- The three classes of causes. -/
inductive Category where
  /-- The text ends too early. -/
  | truncated
  /-- The text is no JSON. -/
  | malformed
  /-- The text is JSON, but not of the wanted shape. -/
  | mismatched
  deriving DecidableEq, Repr

namespace Cause

/-- The class a cause belongs to. -/
def category : Cause → Category
  | .endInValue | .endInString | .endInList | .endInObject => .truncated
  | .wrongType .. | .wrongLength .. | .unknownVariant .. | .missingField _ | .repeatedField _
  | .noAlternative _ => .mismatched
  | _ => .malformed

/-- Names in backquotes, as a choice. -/
def choice : List String → String
  | [] => "there are no variants"
  | [a] => "expected `" ++ a ++ "`"
  | [a, b] => "expected `" ++ a ++ "` or `" ++ b ++ "`"
  | names => "expected one of " ++ ", ".intercalate (names.map fun n => "`" ++ n ++ "`")

/-- The wording of a cause. -/
def message : Cause → String
  | .endInValue => "EOF while parsing a value"
  | .endInString => "EOF while parsing a string"
  | .endInList => "EOF while parsing a list"
  | .endInObject => "EOF while parsing an object"
  | .expectedValue => "expected value"
  | .expectedIdent => "expected ident"
  | .expectedColon => "expected `:`"
  | .expectedListEnd => "expected `,` or `]`"
  | .expectedObjectEnd => "expected `,` or `\x7d`"
  | .invalidEscape => "invalid escape"
  | .invalidNumber => "invalid number"
  | .numberOutOfRange => "number out of range"
  | .loneSurrogate => "lone leading surrogate in hex escape"
  | .unfinishedSurrogate => "unexpected end of hex escape"
  | .controlCharacter => "control character (\\u0000-\\u001F) found while parsing a string"
  | .keyNotString => "key must be a string"
  | .trailingComma => "trailing comma"
  | .trailingCharacters => "trailing characters"
  | .nestedTooDeep => "recursion limit exceeded"
  | .wrongType found wanted => "invalid type: " ++ found.phrase ++ ", expected " ++ wanted
  | .wrongLength length wanted =>
    "invalid length " ++ toString length ++ ", expected " ++ wanted
  | .unknownVariant name known => "unknown variant `" ++ name ++ "`, " ++ choice known
  | .missingField name => "missing field `" ++ name ++ "`"
  | .repeatedField name => "duplicate field `" ++ name ++ "`"
  | .noAlternative wanted => "data did not match any variant of untagged enum " ++ wanted

end Cause

/-- A cause, with the number of bytes left when it was noticed.  A value that fits none of several
shapes is noticed nowhere in particular. -/
structure Fault where
  cause : Cause
  left : Option Nat
  deriving Repr

/-- How many bytes characters take in UTF-8. -/
def bytes (s : List Char) : Nat := s.foldr (fun c n => c.utf8Size + n) 0

namespace Fault

/-- A fault noticed with these characters left. -/
def here (cause : Cause) (s : List Char) : Fault := ⟨cause, some (bytes s)⟩

/-- A fault with the next byte, noticed once that is taken. -/
def beyond (cause : Cause) (s : List Char) : Fault := ⟨cause, some (bytes s - 1)⟩

end Fault

/-! ### Places -/

/-- A line, counted from 1, and a column. -/
structure Place where
  line : Nat
  column : Nat
  deriving DecidableEq, Repr

/-- The place after a number of bytes. -/
def Place.after (p : Place) : List Char → Nat → Place
  | _, 0 => p
  | [], _ => p
  | c :: s, n =>
    if n < c.utf8Size then { p with column := p.column + n }
    else if c = '\n' then Place.after ⟨p.line + 1, 0⟩ s (n - c.utf8Size)
    else Place.after { p with column := p.column + c.utf8Size } s (n - c.utf8Size)

/-- Why a text could not be read, and where. -/
structure ReadError where
  cause : Cause
  place : Option Place
  deriving Repr

/-- The wording of an error. -/
def ReadError.message (e : ReadError) : String :=
  match e.place with
  | none => e.cause.message
  | some p =>
    e.cause.message ++ " at line " ++ toString p.line ++ " column " ++ toString p.column

/-- The error of a fault in a text. -/
def Fault.toError (text : List Char) (f : Fault) : ReadError :=
  ⟨f.cause, f.left.map fun left => Place.after ⟨1, 0⟩ text (bytes text - left)⟩

end Entail.Json
