/-
Entail/Document/Decision.lean

Outcomes, verdicts, reasons, decisions and reports as JSON documents.
-/
import Entail.Decision
import Entail.Json.Reader

namespace Entail

open Json (Reader Record)

def Outcome.toJson (o : Outcome) : Json := .text o.word

def Outcome.reader : Reader Outcome := Json.variant words none

def Verdict.toJson (v : Verdict) : Json := .text v.word

def Verdict.reader : Reader Verdict := Json.variant words none

def Reason.toJson (r : Reason) : Json := .text r.word

def Reason.reader : Reader Reason := Json.variant words none

namespace Decision

def toJson (d : Decision) : Json :=
  .object
    [("verdict", d.verdict.toJson), ("reason", d.reason.toJson),
      ("assume_true", d.assumeTrue.toJson), ("assume_false", d.assumeFalse.toJson)]

/-- The parts of a decision that have been read. -/
structure Parts where
  verdict : Option Verdict := none
  reason : Option Reason := none
  assumeTrue : Option Outcome := none
  assumeFalse : Option Outcome := none

/-- The record of a decision. -/
def record : Record Parts where
  title := "struct Decision"
  fields :=
    [{ name := "verdict"
       optional := false
       seen := fun p => p.verdict.isSome
       read := fun p depth s =>
        (Verdict.reader depth s).map (.map fun v => { p with verdict := some v }) },
     { name := "reason"
       optional := false
       seen := fun p => p.reason.isSome
       read := fun p depth s =>
        (Reason.reader depth s).map (.map fun r => { p with reason := some r }) },
     { name := "assume_true"
       optional := false
       seen := fun p => p.assumeTrue.isSome
       read := fun p depth s =>
        (Outcome.reader depth s).map (.map fun o => { p with assumeTrue := some o }) },
     { name := "assume_false"
       optional := false
       seen := fun p => p.assumeFalse.isSome
       read := fun p depth s =>
        (Outcome.reader depth s).map (.map fun o => { p with assumeFalse := some o }) }]

/-- The decision that the parts make up. -/
def ofParts (p : Parts) : Decision where
  verdict := p.verdict.getD .unknown
  reason := p.reason.getD .indeterminate
  assumeTrue := p.assumeTrue.getD .unknown
  assumeFalse := p.assumeFalse.getD .unknown

/-- Read a decision.  Its parts need not fit together. -/
def reader : Reader Decision := fun depth s => (record.read {} depth s).map (.map ofParts)

end Decision

def Report.toJson (r : Report) : Json :=
  .object
    [("contradictions", .texts r.contradictions),
      ("skipped", .list (r.skipped.map fun (position, defect) =>
        .object [("index", .integer position), ("reason", .text defect.message)])),
      ("constraints", .integer r.constraints)]

end Entail
