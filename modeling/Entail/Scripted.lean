/-
Entail/Scripted.lean

A solver that answers from a script and keeps a log of what it was asked.

It decides nothing: each check takes the next outcome of the script, and once the script is used
up the outcome is unknown.  All sessions over one script share one log, and so one numbering of
variables.
-/
import Entail.Incremental

namespace Entail

/-- What a scripted solver has been asked so far. -/
structure SessionLog where
  /-- The names of the variables, in the order of their numbers. -/
  names : Array String := #[]
  /-- The constraints, in the order they were added. -/
  constraints : Array Formula := #[]
  /-- How many scopes are open. -/
  depth : Nat := 0
  /-- The most scopes that were open at once. -/
  maxDepth : Nat := 0
  pushes : Nat := 0
  pops : Nat := 0
  checks : Nat := 0

/-- A script of outcomes and the log of one or more sessions over it. -/
structure Scripted where
  script : List Outcome := []
  log : SessionLog := {}

namespace Scripted

/-- A solver with a script and an empty log. -/
def ofScript (script : List Outcome) : Scripted := { script }

def declare (name : String) (s : Scripted) : Nat × Scripted :=
  (s.log.names.size, { s with log.names := s.log.names.push name })

def add (f : Formula) (s : Scripted) : Scripted :=
  { s with log.constraints := s.log.constraints.push f }

def push (s : Scripted) : Scripted :=
  let depth := s.log.depth + 1
  { s with
    log.pushes := s.log.pushes + 1
    log.depth := depth
    log.maxDepth := max s.log.maxDepth depth }

/-- A closing is counted even when no scope is open; the depth does not go below zero. -/
def pop (s : Scripted) : Scripted :=
  { s with log.pops := s.log.pops + 1, log.depth := s.log.depth - 1 }

def check (s : Scripted) : Outcome × Scripted :=
  (s.script.headD .unknown, { s with script := s.script.tail, log.checks := s.log.checks + 1 })

instance : Incremental Scripted where
  declare := declare
  add := add
  push := push
  pop := pop
  check := check

end Scripted

end Entail
