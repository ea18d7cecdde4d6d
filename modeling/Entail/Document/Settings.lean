/-
Entail/Document/Settings.lean

Settings as TOML documents.

Every setting may be left out, and tables and keys that mean nothing are passed over.  A table may
also be written as a list of its first settings, in their order.  What is there must be of the
right kind.
-/
import Entail.Settings
import Entail.Toml.Reader

namespace Entail

namespace Toml.Node

/-- What stands for each of some names: under the name in a table, or in its place in a list.  A
date is a table without any of them. -/
def pick? (names : List String) : Node → Option (List (Option Node))
  | .record ms => some (names.map (List.lookup · ms))
  | .table _ ms => some (names.map (List.lookup · ms))
  | .list items => some (places items)
  | .tables ts => some (places (ts.map (.table .headed)))
  | .moment => some (names.map fun _ => none)
  | _ => none
where
  places (items : List Node) : List (Option Node) := names.mapIdx fun i _ => items[i]?

/-- A text. -/
def text? : Node → Option String
  | .text s => some s
  | _ => none

/-- A natural number. -/
def natural? : Node → Option Nat
  | .integer i => if 0 ≤ i then some i.toNat else none
  | _ => none

/-- A number rounded to 32 bits; nothing inside for one that is not finite. -/
def single? : Node → Option (Option Decimal)
  | .integer i => some (Decimal.narrow (i < 0) ⟨i.natAbs, 0⟩)
  | .real (.finite negative x) => some (Decimal.narrow negative x)
  | .real _ => some none
  | _ => none

end Toml.Node

open Toml (Node Members)

/-- Read what is there, and keep the given value where nothing is. -/
def readOr {α : Type} (read : Node → Option α) (value : α) : Option Node → Option α
  | none => some value
  | some node => read node

namespace GeneratorSettings

/-- The settings that a table holds. -/
def ofNode? (node : Node) : Option GeneratorSettings := do
  let preset : GeneratorSettings := {}
  let nodes ← node.pick? ["base_url", "model", "temperature", "api_key_env", "timeout_secs"]
  let there (i : Nat) : Option Node := nodes[i]?.join
  return {
    base := ← readOr Node.text? preset.base (there 0)
    model := ← readOr Node.text? preset.model (there 1)
    temperature := ← readOr Node.single? preset.temperature (there 2)
    keyVariable := ← readOr Node.text? preset.keyVariable (there 3)
    timeout := ← readOr Node.natural? preset.timeout (there 4) }

end GeneratorSettings

namespace Settings

/-- The budget that a table holds. -/
def budget? (node : Node) : Option Nat := do
  readOr Node.natural? ({} : Settings).budget (← node.pick? ["max_iterations"]).head?.join

/-- The settings that a document holds. -/
def ofMembers? (ms : Members) : Option Settings := do
  let preset : Settings := {}
  return {
    generator := ← readOr GeneratorSettings.ofNode? preset.generator (ms.lookup "generator")
    budget := ← readOr budget? preset.budget (ms.lookup "refine") }

/-- Why a document gives no settings. -/
inductive Error where
  /-- It is no TOML, or something in it is of the wrong kind. -/
  | malformed
  /-- The base of the generator leads to no URL. -/
  | base (url : String) (error : Url.Error)
  deriving DecidableEq, Repr

/-- The wording of an error. -/
def Error.message : Error → String
  | .malformed => "Failed to parse config TOML"
  | .base url _ => "Invalid generator base_url: " ++ url

/-- The settings that a text holds.  They must lead to a URL. -/
def parse (text : String) : Except Error Settings :=
  match (Toml.parse text).bind ofMembers? with
  | none => .error .malformed
  | some settings =>
    match settings.generator.endpoint with
    | .error e => .error (.base settings.generator.base e)
    | .ok _ => .ok settings

end Settings

end Entail
