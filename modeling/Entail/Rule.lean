/-
Entail/Rule.lean

Rules over named atoms: as a document writes them, and in canonical form.

A document writes a rule as an `Entry`, a record of optional fields whose presence decides what is
meant.  `Entry.rule?` reads it as a canonical `Rule`, a fact or an implication, or says what is
wrong with it.  For an implication a complete if/then pair wins over a subject/object pair.

Facts that contradict each other are found without that reading: a `Tally` keeps for each name which
values entries of the kind `fact` have stated, and `contradictions` picks the names with both.
-/

namespace Entail

/-- A canonical rule. -/
inductive Rule where
  /-- The atom has the value. -/
  | fact (subject : String) (value : Bool)
  /-- If all premises are true, the conclusion has the value. -/
  | implication (premises : List String) (conclusion : String) (value : Bool)
  deriving DecidableEq, Repr

/-- The kind an entry claims to be of. -/
inductive Kind where
  | fact
  | imply
  | unknown
  deriving DecidableEq, Repr, Inhabited

/-- The word a kind is written with. -/
def Kind.word : Kind → String
  | .fact => "fact"
  | .imply => "imply"
  | .unknown => "unknown"

/-- The premises of an implication: one name, or a list of names. -/
inductive Premises where
  | one (name : String)
  | many (names : List String)
  deriving DecidableEq, Repr

/-- The names in order. -/
def Premises.names : Premises → List String
  | .one name => [name]
  | .many names => names

/-- A rule as a document writes it. -/
structure Entry where
  kind : Kind := .unknown
  subject : Option String := none
  object : Option String := none
  /-- What stands under `if`. -/
  premises : Option Premises := none
  /-- What stands under `then`. -/
  conclusion : Option String := none
  value : Option Bool := none
  deriving DecidableEq, Repr, Inhabited

/-- Why an entry is no rule. -/
inductive Defect where
  | missingSubject
  | missingFields
  | noPremises
  | unknownKind
  deriving DecidableEq, Repr

/-- The wording of a defect. -/
def Defect.message : Defect → String
  | .missingSubject => "fact has no subject"
  | .missingFields => "implication needs an if/then or subject/object pair"
  | .noPremises => "implication has no antecedents"
  | .unknownKind => "unrecognized rule kind"

namespace Entry

/-! ### Building entries -/

/-- The entry that states a fact. -/
def fact (subject : String) (value : Bool) : Entry :=
  { kind := .fact, subject := some subject, value := some value }

/-- The entry of an implication in if/then form.  A single premise is written without a list. -/
def ifThen (premises : List String) (conclusion : String) : Entry :=
  { kind := .imply
    premises := some (match premises with
      | [name] => .one name
      | names => .many names)
    conclusion := some conclusion }

/-- The entry of an implication in subject/object form. -/
def subjectObject (subject object : String) : Entry :=
  { kind := .imply, subject := some subject, object := some object }

/-- The entry with its value set. -/
def withValue (value : Bool) (e : Entry) : Entry := { e with value := some value }

/-! ### Canonical form -/

/-- The value an entry asserts: true unless it says false. -/
def assertedValue (e : Entry) : Bool := e.value != some false

/-- The canonical rule of an entry. -/
def rule? (e : Entry) : Except Defect Rule :=
  match e.kind with
  | .fact =>
    match e.subject with
    | none => .error .missingSubject
    | some subject =>
      if subject.isEmpty then .error .missingSubject else .ok (.fact subject e.assertedValue)
  | .imply =>
    -- A complete if/then pair wins, even one without premises.
    match e.premises, e.conclusion, e.subject, e.object with
    | some premises, some conclusion, _, _ => implication? premises.names conclusion
    | _, _, some subject, some object => implication? [subject] object
    | _, _, _, _ => .error .missingFields
  | .unknown => .error .unknownKind
where
  /-- An implication has at least one premise. -/
  implication? (premises : List String) (conclusion : String) : Except Defect Rule :=
    if premises.isEmpty then .error .noPremises
    else .ok (.implication premises conclusion e.assertedValue)

end Entry

/-- A proposed rule set: the atoms it declares, its entries in order, and the atom to decide. -/
structure Sketch where
  declared : List String := []
  entries : List Entry := []
  query : String
  deriving DecidableEq, Repr

/-! ### Contradicting facts -/

/-- Names in ascending order of their code points, each with whether some fact makes it true, and
whether some fact makes it false. -/
abbrev Tally := List (String × Bool × Bool)

namespace Tally

/-- What has been seen of a name, with one more value. -/
def mark (value : Bool) (seen : Bool × Bool) : Bool × Bool :=
  if value then (true, seen.2) else (seen.1, true)

/-- Whether a value has been seen. -/
def has (value : Bool) (seen : Bool × Bool) : Bool := if value then seen.1 else seen.2

/-- A value is noted for a name, which gets its place when it is new. -/
def note (name : String) (value : Bool) : Tally → Tally
  | [] => [(name, mark value (false, false))]
  | (head, seen) :: rest =>
    if name < head then (name, mark value (false, false)) :: (head, seen) :: rest
    else if name = head then (head, mark value seen) :: rest
    else (head, seen) :: note name value rest

/-- What an entry states is noted, if it is of the kind `fact` and its subject is not empty. -/
def add (t : Tally) (e : Entry) : Tally :=
  match e.kind, e.subject with
  | .fact, some name => if name = "" then t else t.note name e.assertedValue
  | _, _ => t

/-- What all entries state. -/
def ofEntries (entries : List Entry) : Tally := entries.foldl add []

/-- The names with both values. -/
def both (t : Tally) : List String := (t.filter fun a => has true a.2 && has false a.2).map Prod.fst

end Tally

/-- The atoms that facts give both values, in ascending order of their code points.  They are found
from the entries as they are written. -/
def contradictions (entries : List Entry) : List String := (Tally.ofEntries entries).both

end Entail
