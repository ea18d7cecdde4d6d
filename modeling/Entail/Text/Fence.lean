/-
Entail/Text/Fence.lean

Text inside a Markdown code fence.

A fence is three backquotes, letters that name a language and blanks in front, and blanks and three
backquotes at the end.  What stands between is the body of the text.  A text without a fence is
its own body, up to the blanks at its ends.
-/
import Entail.Text.Blank

namespace Entail.Text

/-- The mark that opens and closes a fence. -/
def fenceMark : List Char := List.replicate 3 '\x60'

/-- The part of a text that its fence encloses, if it has one, without blanks at the ends. -/
def fenceBody (s : List Char) : List Char :=
  let s := trimmed s
  -- With fewer than six characters the two marks would overlap.
  if fenceMark.isPrefixOf s && fenceMark.isSuffixOf s && 6 ≤ s.length then
    trimEnd (trimStart (((s.drop 3).take (s.length - 6)).dropWhile Char.isAlpha))
  else s

end Entail.Text
