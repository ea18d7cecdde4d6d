/-
Entail/CommandLine/Run.lean

Carrying out a command in a given world, and what it prints.
-/
import Entail.Chat
import Entail.CommandLine.Failure
import Entail.CommandLine.Request
import Entail.Document.Answer
import Entail.Document.Replay

namespace Entail.CommandLine

/-- What surrounds a command. -/
structure World where
  /-- The standard input. -/
  input : List UInt8
  /-- The text of each file. -/
  file : String → Except FileError String
  /-- The variables of the environment. -/
  lookup : String → Option String
  /-- The way to a language model. -/
  send : Chat.Request → Option Chat.Response

/-- What a command leaves behind. -/
structure Exit where
  code : Nat
  output : String := ""
  errors : String := ""
  deriving DecidableEq, Repr

/-! ### Checks -/

/-- The report of an evaluation for people. -/
def evaluationText (sketch : Sketch) (e : Evaluation) : String :=
  "Query: " ++ sketch.query ++ "\nVerdict: " ++ e.decision.verdict.word ++
    "\nReason: " ++ e.decision.reason.title ++
    "\nConstraints: " ++ toString e.report.constraints ++ "\n" ++
    (if e.report.contradictions = [] then ""
      else "Contradictions: " ++ ", ".intercalate e.report.contradictions ++ "\n") ++
    String.join (e.report.skipped.map fun (position, defect) =>
      "Skipped rule " ++ toString position ++ ": " ++ defect.message ++ "\n")

/-- The report of an evaluation as JSON. -/
def evaluationJson (sketch : Sketch) (e : Evaluation) : Json :=
  .object
    [("query", .text sketch.query), ("decision", e.decision.toJson), ("report", e.report.toJson)]

/-- JSON as it is printed: keys in order, one item a line. -/
def printed (j : Json) : String := j.sorted.prettyText ++ "\n"

/-- The standard input as a text. -/
def World.inputText (w : World) : Except Failure String := (Text.ofUtf8 w.input).mapError .input

/-- Decide a sketch, and print the decision. -/
def Check.run (c : Check) (w : World) : Except Failure String := do
  let text ←
    match c.file with
    | none => w.inputText
    | some name => (w.file name).mapError (.sketchFile name)
  let sketch ← (Sketch.parse text).mapError .sketch
  let (evaluation, _) := sketch.evaluate Solver.fresh
  return if c.json then printed (evaluationJson sketch evaluation)
    else evaluationText sketch evaluation

/-! ### Questions -/

/-- An answer for people. -/
def answerText (a : Answer) : String :=
  "Answer: " ++ a.conclusion.text ++ "\n" ++
    (if a.decided then "" else "(generator fallback: no sketch was decided)\n") ++
    (match a.sketch with
      | none => ""
      | some s => "Sketch:\n" ++ s.toJson.prettyText ++ "\n") ++
    "Iterations: " ++ toString a.iterations ++ "\n"

/-- An answer as JSON. -/
def answerJson (a : Answer) : Json :=
  match a.toJson with
  | .object ms => .object (ms ++ [("iterations", .integer a.iterations)])
  | j => j

/-- Print the outcome of a run. -/
def Ask.print (a : Ask) (result : Except GeneratorError Answer) : Except Failure String := do
  let answer ← result.mapError .generator
  return if a.json then printed (answerJson answer) else answerText answer

/-- The question, without blanks around it. -/
def Ask.text (a : Ask) (w : World) : Except Failure String := do
  let question := Text.trim (← if a.question = [] then w.inputText
    else .ok (" ".intercalate a.question))
  if question = "" then .error .noQuestion else return question

/-- The settings of the file, if one is given. -/
def Ask.settings (a : Ask) (w : World) : Except Failure Settings := do
  match a.config with
  | none => return {}
  | some name => (Settings.parse (← (w.file name).mapError (.configFile name))).mapError .settings

/-- Answer a question, and print the answer. -/
def Ask.run (a : Ask) (w : World) : Except Failure String := do
  let question ← a.text w
  let settings ← a.settings w
  -- The settings are read, and must be right, even when a replay is given.
  let budget := a.budget.getD settings.budget
  match a.replay with
  | some name =>
    let script ← (w.file name).mapError (.replayFile name)
    let replay ← (Replay.parse script).mapError .script
    a.print (refine question budget replay Solver.fresh).1
  | none =>
    let chat ← (Chat.ofSettings settings.generator w.lookup w.send).mapError .generator
    a.print (refine question budget chat Solver.fresh).1

/-! ### Commands -/

/-- How the program is used. -/
def usage : String :=
  "Usage: entail ask [QUESTION]... [--config FILE] [--max-iterations N] [--replay FILE] " ++
    "[--json]\n" ++
    "       entail check [FILE] [--json]\n"

/-- Carry out a command. -/
def Request.run (r : Request) (w : World) : Exit :=
  let result :=
    match r with
    | .ask a => a.run w
    | .check c => c.run w
  match result with
  | .ok output => { code := 0, output }
  | .error f => { code := 1, errors := f.text }

/-- What comes of words that are no command. -/
def Refusal.exit : Refusal → Exit
  | .help => { code := 0, output := usage }
  | .misuse => { code := 2, errors := usage }

/-- Carry out what words ask for. -/
def run (words : List String) (w : World) : Exit :=
  match Request.ofWords words with
  | .ok r => r.run w
  | .error refusal => refusal.exit

end Entail.CommandLine
