/-
Entail/CommandLine/Failure.lean

Failures of a command, and how they are reported: what failed, then what caused it, the cause
before the cause's own cause.
-/
import Entail.Document.Settings
import Entail.Document.Sketch
import Entail.Generator
import Entail.Text.Quoted
import Entail.Text.Utf8

namespace Entail.CommandLine

/-- Why a file could not be read. -/
inductive FileError where
  | missing
  | directory
  /-- It is no text in UTF-8. -/
  | noText
  deriving DecidableEq, Repr

/-- The wording of an error. -/
def FileError.message : FileError → String
  | .missing => "No such file or directory (os error 2)"
  | .directory => "Is a directory (os error 21)"
  | .noText => "stream did not contain valid UTF-8"

/-- Why a command failed. -/
inductive Failure where
  | noQuestion
  | input (error : Text.Utf8Error)
  | configFile (name : String) (error : FileError)
  | settings (error : Settings.Error)
  | replayFile (name : String) (error : FileError)
  | script (error : Json.ReadError)
  | sketchFile (name : String) (error : FileError)
  | sketch (error : SketchError)
  | generator (error : GeneratorError)
  deriving Repr

namespace Failure

/-- What failed. -/
def message : Failure → String
  | .noQuestion => "No question given"
  | .input _ => "Failed to read stdin"
  | .configFile name _ => "Failed to read config from " ++ Text.quotePath name
  | .settings e => e.message
  | .replayFile name _ => "Failed to read replay script " ++ Text.quotePath name
  | .script _ => "Failed to parse replay script JSON"
  | .sketchFile name _ => "Failed to read rule set " ++ name
  | .sketch _ => "Failed to parse rule set"
  | .generator e => e.message

/-- What caused it, nearest first. -/
def causes : Failure → List String
  | .input e => [e.message]
  | .configFile _ e | .replayFile _ e | .sketchFile _ e => [e.message]
  | .settings (.base _ e) => [e.message]
  | .script e => [e.message]
  | .sketch (.malformed e) => [(SketchError.malformed e).message, e.message]
  | .sketch .emptyQuery => [SketchError.emptyQuery.message]
  | .generator (.noEndpoint e) => [e.message]
  | _ => []

/-- A cause, with its number if there are several, and its further lines under the first. -/
def causeText (number : Option Nat) (cause : String) : String :=
  let (first, other) :=
    match number with
    | none => ("    ", "    ")
    | some n => ("    " ++ toString n ++ ": ", "       ")
  first ++ String.ofList
    (cause.toList.flatMap fun c => if c = '\n' then '\n' :: other.toList else [c])

/-- The report of a failure. -/
def text (f : Failure) : String :=
  "Error: " ++ f.message ++ "\n" ++
    match f.causes with
    | [] => ""
    | [cause] => "\nCaused by:\n" ++ causeText none cause ++ "\n"
    | causes =>
      "\nCaused by:\n" ++
        String.join (causes.mapIdx fun i cause => causeText (some i) cause ++ "\n")

end Failure

end Entail.CommandLine
