/-
Entail/Document/Replay.lean

Replays as JSON documents: the texts to reply with, and a plain answer.
-/
import Entail.Json.Reader
import Entail.Replay

namespace Entail.Replay

open Json (Reader Record ReadError)

/-- The parts of a replay that have been read. -/
structure Parts where
  texts : Option (List String) := none
  fallback : Option String := none

/-- The record of a replay.  The plain answer may be left out. -/
def record : Record Parts where
  title := "struct Script"
  fields :=
    [{ name := "responses"
       optional := false
       seen := fun p => p.texts.isSome
       read := fun p depth s =>
        (Json.listOf Json.string depth s).map (.map fun texts => { p with texts := some texts }) },
     { name := "fallback"
       optional := true
       seen := fun p => p.fallback.isSome
       read := fun p depth s =>
        (Json.string depth s).map (.map fun text => { p with fallback := some text }) }]

/-- The replay that the parts make up. -/
def ofParts (p : Parts) : Replay := ofTexts (p.texts.getD []) (p.fallback.getD "unknown")

/-- Read a replay. -/
def reader : Reader Replay := fun depth s => (record.read {} depth s).map (.map ofParts)

/-- The replay that a text holds. -/
def parse (text : String) : Except ReadError Replay := reader.run text

end Entail.Replay
