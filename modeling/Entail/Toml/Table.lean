/-
Entail/Toml/Table.lean

TOML values, and how the lines of a document build tables.

A table comes into being in one of three ways: by a header of its own, as the parent that another
header implies, or as the parent in a dotted key.  Which of them decides what may still be added: a
header may fill in an implied table once, and a dotted key may go through any table but one with a
header of its own, and adds only to tables that dotted keys made.
-/
import Entail.Decimal.Binary

namespace Entail.Toml

/-- A floating-point number of 64 bits. -/
inductive Real where
  | finite (negative : Bool) (magnitude : Decimal.Binary)
  | infinite (negative : Bool)
  | undefined
  deriving Repr

/-- How a table came into being. -/
inductive Form where
  /-- By a header of its own. -/
  | headed
  /-- As the parent that another header implies. -/
  | implied
  /-- As a parent in a dotted key. -/
  | dotted
  deriving DecidableEq, Repr

/-- What stands under a key. -/
inductive Node where
  | text (value : String)
  | integer (value : Int)
  | real (value : Real)
  | bool (value : Bool)
  /-- A date, a time, or both. -/
  | moment
  | list (items : List Node)
  /-- A table inside a line, to which nothing can be added. -/
  | record (members : List (String × Node))
  | table (form : Form) (members : List (String × Node))
  /-- Tables that headers in double brackets list. -/
  | tables (tables : List (List (String × Node)))

/-- What is under each key, in the order of the document. -/
abbrev Members := List (String × Node)

namespace Members

/-- Put something else under a key that is there. -/
def replace (key : String) (node : Node) (ms : Members) : Members :=
  ms.map fun m => if m.1 = key then (key, node) else m

/-! ### Dotted keys -/

/-- Add a value under a path of keys to a table of a given form.  The last key must be new there. -/
def add (form : Form) (nested : Bool) (key : String) (node : Node) :
    List String → Members → Option Members
  | [], ms =>
    if (form == .dotted) != nested || (ms.lookup key).isSome then none
    else some (ms ++ [(key, node)])
  | k :: path, ms =>
    match ms.lookup k with
    | none =>
      (add .dotted true key node path []).map fun sub => ms ++ [(k, .table .dotted sub)]
    -- A table with a header of its own is complete, as far as dotted keys go.
    | some (.table .headed _) => none
    | some (.table f sub) =>
      (add f true key node path sub).map fun sub => ms.replace k (.table f sub)
    | some (.tables ts) =>
      (add .headed true key node path (ts.getLastD [])).map fun sub =>
        ms.replace k (.tables (ts.dropLast ++ [sub]))
    | some _ => none

/-- A line of the form `path.key = value`. -/
structure Entry where
  path : List String
  key : String
  node : Node

/-- Add a line to a table that has a header of its own, or is the whole document. -/
def addEntry (ms : Members) (e : Entry) : Option Members :=
  ms.add .headed (!e.path.isEmpty) e.key e.node e.path

/-- The table that lines make. -/
def ofEntries (entries : List Entry) : Option Members := entries.foldlM addEntry []

/-! ### Headers -/

/-- Change the table that the path of a header leads to.  In a list of tables it leads to the last
one, and a table that is missing is implied. -/
def within (change : Members → Option Members) : List String → Members → Option Members
  | [], ms => change ms
  | k :: path, ms =>
    match ms.lookup k with
    | none => (within change path []).map fun sub => ms ++ [(k, .table .implied sub)]
    | some (.table f sub) => (within change path sub).map fun sub => ms.replace k (.table f sub)
    | some (.tables ts) =>
      (within change path (ts.getLastD [])).map fun sub =>
        ms.replace k (.tables (ts.dropLast ++ [sub]))
    | some _ => none

/-- What a header opens: a table, or one more in a list of tables. -/
structure Header where
  listed : Bool
  path : List String
  key : String

/-- A header with the lines below it. -/
structure Section where
  header : Header
  entries : List Entry

/-- Add a table.  It may fill in an implied one. -/
def addTable (key : String) (entries : List Entry) (ms : Members) : Option Members :=
  match ms.lookup key with
  | none => (ofEntries entries).map fun sub => ms ++ [(key, .table .headed sub)]
  | some (.table .implied sub) =>
    (entries.foldlM addEntry sub).map fun sub => ms.replace key (.table .headed sub)
  | some _ => none

/-- Add one more table to a list of tables. -/
def addListed (key : String) (entries : List Entry) (ms : Members) : Option Members :=
  match ms.lookup key with
  | none => (ofEntries entries).map fun sub => ms ++ [(key, .tables [sub])]
  | some (.tables ts) =>
    (ofEntries entries).map fun sub => ms.replace key (.tables (ts ++ [sub]))
  | some _ => none

/-- Add a header with the lines below it. -/
def addSection (ms : Members) (s : Section) : Option Members :=
  let change := if s.header.listed then addListed else addTable
  ms.within (change s.header.key s.entries) s.header.path

/-- The document of the lines above the first header and the sections that follow. -/
def ofSections (entries : List Entry) (sections : List Section) : Option Members := do
  sections.foldlM addSection (← ofEntries entries)

end Members

end Entail.Toml
