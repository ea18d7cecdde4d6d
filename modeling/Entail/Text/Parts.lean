/-
Entail/Text/Parts.lean

The parts of a text between separators.
-/

namespace Entail.Text

/-- The parts between the separators, at least one. -/
def parts (isSeparator : Char → Bool) (s : List Char) : List (List Char) :=
  s.foldr (fun c ps =>
    if isSeparator c then [] :: ps
    else
      match ps with
      | [] => [[c]]
      | p :: ps => (c :: p) :: ps) [[]]

end Entail.Text
