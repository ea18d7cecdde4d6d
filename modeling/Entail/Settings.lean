/-
Entail/Settings.lean

What can be set, and what holds where nothing is set.
-/
import Entail.Endpoint
import Entail.Json.Basic

namespace Entail

/-- How a language model is asked. -/
structure GeneratorSettings where
  /-- The base of the URL that is asked. -/
  base : String := "https://api.openai.com/v1"
  model : String := "gpt-4"
  /-- How much chance has a say, as a number of 32 bits; nothing for one that is not finite. -/
  temperature : Option Decimal := some ⟨false, 0, 0⟩
  /-- The variable that holds the key. -/
  keyVariable : String := "OPENAI_API_KEY"
  /-- How many seconds a reply may take. -/
  timeout : Nat := 60
  deriving Repr

/-- All settings. -/
structure Settings where
  generator : GeneratorSettings := {}
  /-- How many sketches may be asked for. -/
  budget : Nat := 3
  deriving Repr

namespace GeneratorSettings

/-- The URL of chat completions. -/
def endpoint (s : GeneratorSettings) : Except Url.Error Url := Entail.endpoint s.base

/-- The temperature as it is sent. -/
def temperatureJson (s : GeneratorSettings) : Json :=
  match s.temperature with
  | some d => .decimal d
  | none => .null

end GeneratorSettings

end Entail
