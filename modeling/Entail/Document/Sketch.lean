/-
Entail/Document/Sketch.lean

Sketches as JSON documents.

Reading is strict about the document and lenient about its entries.  The document must have a list
of entries and a query that is not blank; an entry may be any JSON value, a field of the wrong type
counts as absent, and an entry that is neither an object nor a short list is the empty entry.  So
a bad entry is skipped when the sketch is compiled and spoils nothing else.
-/
import Entail.Digest.Sha256
import Entail.Json.Reader
import Entail.Rule
import Entail.Text.Fence

namespace Entail

open Json (Reader Field Record ReadError)

/-! ### Kinds and premises -/

/-- The kinds that have a word of their own.  Every other word means the unknown kind. -/
def Kind.words : List (String × Kind) := [("fact", .fact), ("imply", .imply), ("unknown", .unknown)]

namespace Kind

/-- The kind a word names. -/
def ofWord (word : String) : Kind := (words.lookup word).getD .unknown

/-- The kind a value gives: its word, or the only key of an object that holds `null` under it. -/
def ofJson : Json → Kind
  | .text word => ofWord word
  | .object [(word, .null)] => ofWord word
  | _ => .unknown

def toJson (k : Kind) : Json := .text k.word

/-- Read a kind.  Unlike the kind of an entry it has to be of the right type. -/
def reader : Reader Kind := Json.variant words (some .unknown)

end Kind

/-- The text of a value that is one. -/
def textOf? : Json → Option String
  | .text s => some s
  | _ => none

namespace Premises

/-- The premises a value gives: one name or a list of names. -/
def ofJson? : Json → Option Premises
  | .text name => some (.one name)
  | .list vs => (vs.mapM textOf?).map .many
  | _ => none

def toJson : Premises → Json
  | .one name => .text name
  | .many names => .texts names

/-- Read premises.  A value that gives none is a fault without a place. -/
def reader : Reader Premises := fun depth s => do
  let p ← Json.value depth s
  match ofJson? p.value with
  | some premises => .ok (p.map fun _ => premises)
  | none => .error ⟨.noAlternative "Antecedents", none⟩

end Premises

/-! ### Entries -/

namespace Entry

/-- The fields of an entry, in the order in which a list gives them. -/
def fieldNames : List String := ["kind", "subject", "object", "if", "then", "value"]

/-- The entry that some members give. -/
def ofMembers (ms : List (String × Json)) : Entry where
  kind := ((ms.lookup "kind").map Kind.ofJson).getD .unknown
  subject := (ms.lookup "subject").bind textOf?
  object := (ms.lookup "object").bind textOf?
  premises := (ms.lookup "if").bind Premises.ofJson?
  conclusion := (ms.lookup "then").bind textOf?
  value := (ms.lookup "value").bind fun
    | .bool b => some b
    | _ => none

/-- The entry that a value gives.  Any value gives one. -/
def ofJson : Json → Entry
  | .object ms => ofMembers ms
  | .list vs => if vs.length ≤ fieldNames.length then ofMembers (fieldNames.zip vs) else {}
  | _ => {}

/-- The document of an entry.  Absent fields are left out, and the kind is always there. -/
def toJson (e : Entry) : Json :=
  .object <|
    [("kind", e.kind.toJson)]
      ++ Json.optional "subject" (e.subject.map .text)
      ++ Json.optional "object" (e.object.map .text)
      ++ Json.optional "if" (e.premises.map Premises.toJson)
      ++ Json.optional "then" (e.conclusion.map .text)
      ++ Json.optional "value" (e.value.map .bool)

/-- The record of an entry, read member by member. -/
def record : Record (List (String × Json)) where
  title := "struct RawRule"
  fields := fieldNames.map fun name =>
    { name
      optional := true
      seen := fun ms => (ms.lookup name).isSome
      read := fun ms depth s => (Json.value depth s).map (.map fun v => ms ++ [(name, v)]) }

/-- Read an entry.  It has to be an object or a list; its fields are read leniently. -/
def reader : Reader Entry := fun depth s => (record.read [] depth s).map (.map ofMembers)

end Entry

/-! ### Sketches -/

/-- Why a text is no sketch. -/
inductive SketchError where
  | malformed (error : ReadError)
  | emptyQuery
  deriving Repr

/-- The wording of an error. -/
def SketchError.message : SketchError → String
  | .malformed e => "output is not valid rule-set JSON: " ++ e.message
  | .emptyQuery => "rule set has an empty query"

namespace Sketch

/-- The parts of a sketch that have been read. -/
structure Parts where
  declared : Option (List String) := none
  entries : Option (List Entry) := none
  query : Option String := none

/-- The record of a sketch. -/
def record : Record Parts where
  title := "struct RuleSet"
  fields :=
    [{ name := "vars"
       optional := true
       seen := fun p => p.declared.isSome
       read := fun p depth s =>
        (Json.listOf Json.string depth s).map
          (.map fun names => { p with declared := some names }) },
     { name := "rules"
       optional := false
       seen := fun p => p.entries.isSome
       read := fun p depth s =>
        (Json.listOf Json.value depth s).map
          (.map fun vs => { p with entries := some (vs.map Entry.ofJson) }) },
     { name := "query"
       optional := false
       seen := fun p => p.query.isSome
       read := fun p depth s =>
        (Json.string depth s).map (.map fun query => { p with query := some query }) }]

/-- The sketch that the parts make up. -/
def ofParts (p : Parts) : Sketch :=
  ⟨p.declared.getD [], p.entries.getD [], p.query.getD ""⟩

/-- Read a sketch, whatever its query. -/
def reader : Reader Sketch := fun depth s => (record.read {} depth s).map (.map ofParts)

/-- The sketch a text holds, bare or in a code fence. -/
def parse (text : String) : Except SketchError Sketch :=
  match reader.run (String.ofList (Text.fenceBody text.toList)) with
  | .error e => .error (.malformed e)
  | .ok sketch => if Text.isBlankText sketch.query then .error .emptyQuery else .ok sketch

/-- The document of a sketch. -/
def toJson (s : Sketch) : Json :=
  .object
    [("vars", .texts s.declared), ("rules", .list (s.entries.map Entry.toJson)),
      ("query", .text s.query)]

/-- The document of a sketch without blanks. -/
def json (s : Sketch) : String := s.toJson.compactText

/-- A short digest of a sketch's document, by which a sketch that comes again is known. -/
def fingerprint (s : Sketch) : String :=
  String.ofList ((Digest.sha256 s.json.toUTF8.toList).toList.take 16)

end Sketch

end Entail
