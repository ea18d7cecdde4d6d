import Entail.Main
import Entail.Proofs.Search
import Entail.Proofs.Chaining
import Entail.Proofs.Runs
import Entail.Proofs.Scopes
import Entail.Proofs.Compilation
import Entail.Proofs.Uses
import Entail.Proofs.Probing
import Entail.Proofs.Grammar
import Entail.Proofs.Numerals
import Entail.Proofs.Limits
import Entail.Proofs.Strings
import Entail.Proofs.Reading
import Entail.Proofs.Records
import Entail.Proofs.Acceptance
import Entail.Proofs.Printing
import Entail.Proofs.Leniency
import Entail.Proofs.RoundTrip
import Entail.Proofs.Renaming
import Entail.Proofs.Contradictions
import Entail.Proofs.Places
import Entail.Proofs.Repetition
import Entail.Proofs.Calls
import Entail.Proofs.Sharing
import Entail.Proofs.Independence
import Entail.Proofs.Truncation
import Entail.Proofs.Pairing
import Entail.Proofs.Fencing
import Entail.Proofs.Builders
import Entail.Proofs.Extension
import Entail.Proofs.Feedback
import Entail.Proofs.Bases
