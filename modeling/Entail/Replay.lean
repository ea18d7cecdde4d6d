/-
Entail/Replay.lean

A generator that replays replies and keeps a record of what it was asked.
-/
import Entail.Generator
import Entail.Text.Blank

namespace Entail

/-- A reply that has been laid down. -/
inductive Reply where
  | text (text : String)
  /-- The generator is out of order. -/
  | outage
  deriving DecidableEq, Repr

/-- What a reply gives to the one who asked. -/
def Reply.result : Reply → Except GeneratorError String
  | .text t => .ok t
  | .outage => .error (.refused 503 "scripted outage")

/-- Replies still to be given, and a record of the requests. -/
structure Replay where
  /-- The replies to requests for a sketch, in order. -/
  replies : List Reply
  /-- The reply to every request for a plain answer. -/
  fallback : Reply
  /-- The feedback that came with each request for a sketch, in order. -/
  feedback : Array (Option String) := #[]
  /-- How many plain answers were asked for. -/
  fallbacks : Nat := 0

namespace Replay

/-- A replay of texts. -/
def ofTexts (texts : List String) (fallback : String) : Replay :=
  { replies := texts.map .text, fallback := .text fallback }

/-- How many sketches were asked for. -/
def requests (r : Replay) : Nat := r.feedback.size

/-- The next reply.  A request is recorded even if no reply is left. -/
def sketch (feedback : Option String) (r : Replay) : Except GeneratorError String × Replay :=
  let seen := { r with feedback := r.feedback.push feedback }
  match r.replies with
  | [] => (.error (.exhausted r.requests), seen)
  | reply :: rest => (reply.result, { seen with replies := rest })

/-- The plain answer, without blanks around it. -/
def answer (r : Replay) : Except GeneratorError String × Replay :=
  (r.fallback.result.map Text.trim, { r with fallbacks := r.fallbacks + 1 })

instance : Generator Replay where
  name _ := "scripted"
  sketch _ feedback := sketch feedback
  answer _ := answer

end Replay

end Entail
