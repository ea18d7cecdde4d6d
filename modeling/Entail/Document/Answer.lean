/-
Entail/Document/Answer.lean

Answers and their attempts as JSON documents.
-/
import Entail.Document.Decision
import Entail.Refinement

namespace Entail

/-- The members that say what came of an attempt. -/
def Finding.members : Finding → List (String × Json)
  | .malformed e => [("outcome", .text "malformed"), ("error", .text e.message)]
  | .undecided r => [("outcome", .text "undecided"), ("reason", r.toJson)]
  | .decided v => [("outcome", .text "decided"), ("verdict", v.toJson)]

/-- The document of an attempt. -/
def Attempt.toJson (a : Attempt) : Json :=
  .object
    ([("iteration", .integer a.iteration)] ++
      Json.optional "fingerprint" (a.fingerprint.map .text) ++ a.finding.members)

/-- The document of an answer. -/
def Answer.toJson (a : Answer) : Json :=
  .object
    ([("answer", .text a.conclusion.text)] ++
      Json.optional "sketch" (a.sketch.map Sketch.toJson) ++
      [("attempts", .list (a.attempts.map Attempt.toJson))])

end Entail
