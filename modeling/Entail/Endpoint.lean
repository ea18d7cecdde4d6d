/-
Entail/Endpoint.lean

Where chat completions are asked for: a fixed path under a configured base.
-/
import Entail.Url.Reader

namespace Entail

/-- The text without the slashes at its end. -/
def withoutEndSlashes (s : String) : String :=
  String.ofList (s.toList.reverse.dropWhile (· == '/')).reverse

/-- The URL of chat completions under a base.  The base is a directory, with or without a slash at
its end; a query or a fragment of it is given up. -/
def endpoint (base : String) : Except Url.Error Url := do
  (← Url.parse (withoutEndSlashes base ++ "/")).resolve ["chat", "completions"]

end Entail
