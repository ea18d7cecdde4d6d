/-
Entail/Generator.lean

Where sketches come from.

A generator is asked for sketches, with feedback on the sketch before, and for a plain answer.  It
may answer anything, and it may fail.  Its state is passed along, so a generator may remember
whatever it was asked.
-/
import Entail.Json.Fault
import Entail.Url.Error

namespace Entail

/-- Why a generator gave no text. -/
inductive GeneratorError where
  /-- No reply came back. -/
  | unreachable
  /-- The reply reports a failure. -/
  | refused (status : Nat) (body : String)
  /-- The reply reports success, but is not of the agreed form. -/
  | illegible (error : Json.ReadError)
  /-- The reply is of the agreed form, but has no text. -/
  | noContent
  /-- The variable that should hold the key is not set. -/
  | noKey (name : String)
  /-- There is no URL to ask. -/
  | noEndpoint (error : Url.Error)
  /-- A script has no reply left after this many requests. -/
  | exhausted (requests : Nat)
  deriving Repr

/-- The wording of an error. -/
def GeneratorError.message : GeneratorError → String
  | .unreachable => "generator HTTP request failed"
  | .refused status body => "generator API returned " ++ toString status ++ ": " ++ body
  | .illegible e =>
    "generator HTTP request failed: error decoding response body: " ++ e.message
  | .noContent => "generator response contained no message content"
  | .noKey name => "API key environment variable " ++ name ++ " is not set"
  | .noEndpoint e => "invalid generator endpoint: " ++ e.message
  | .exhausted n =>
    "scripted generator ran out of responses after " ++ toString n ++ " requests"

/-- A source of sketches with state `γ`. -/
class Generator (γ : Type) where
  name : γ → String
  /-- The text of a sketch for a question, with feedback on the attempt before. -/
  sketch (question : String) (feedback : Option String) : γ → Except GeneratorError String × γ
  /-- A plain answer to a question. -/
  answer (question : String) : γ → Except GeneratorError String × γ

end Entail
