/-
Entail/Main.lean

The program: the world is read, the command is carried out, and its output is printed.

No network is linked in, so a language model never replies.
-/
import Entail.CommandLine.Run

namespace Entail.CommandLine

/-- The text of a file. -/
def readFile (name : String) : IO (Except FileError String) := do
  try
    let bytes ← IO.FS.readBinFile name
    return (Text.ofUtf8 bytes.toList).mapError fun _ => .noText
  catch
    | .inappropriateType .. => return .error .directory
    | _ => return .error .missing

/-- All bytes of the standard input. -/
def readInput : IO (List UInt8) := do
  let input ← IO.getStdin
  return (← input.readBinToEnd).toList

/-- What a command needs of the world. -/
def worldOf (r : Request) : IO World := do
  let files ← r.files.mapM fun name => return (name, ← readFile name)
  let input ← if r.readsInput then readInput else pure []
  let world : World :=
    { input
      file := fun name => (files.lookup name).getD (.error .missing)
      lookup := fun _ => none
      send := fun _ => none }
  match r with
  | .check _ => return world
  | .ask a =>
    match a.settings world with
    | .error _ => return world
    | .ok settings =>
      let key ← IO.getEnv settings.generator.keyVariable
      return { world with lookup := fun _ => key }

end Entail.CommandLine

open Entail.CommandLine in
def main (words : List String) : IO UInt32 := do
  let exit ←
    match Request.ofWords words with
    | .ok r => r.run <$> worldOf r
    | .error refusal => pure refusal.exit
  (← IO.getStdout).putStr exit.output
  (← IO.getStderr).putStr exit.errors
  return UInt32.ofNat exit.code
