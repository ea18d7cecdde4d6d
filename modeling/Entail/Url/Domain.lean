/-
Entail/Url/Domain.lean

Domain names in the form that is looked up.

A name is mapped and brought to normal form first, so that names that look alike are one name.  A
label above ASCII is then written in ASCII behind `xn--`.  A label that is given so must stand for
one that mapping leaves as it is.
-/
import Entail.Text.Direction
import Entail.Text.Joining
import Entail.Url.Domain.Mapping
import Entail.Url.Punycode

namespace Entail.Url

/-- ASCII characters that no domain name holds. -/
def deniedInDomain (c : Char) : Bool :=
  c.toNat ≤ 0x20 || c == '\x7f' ||
    ['%', '#', '/', ':', '<', '>', '?', '@', '[', '\\', ']', '^', '|'].contains c

/-- The characters are all in ASCII. -/
def isAscii (s : List Char) : Bool := s.all (·.toNat < 0x80)

/-- The name that characters stand for, if each of them may be in one. -/
def mappedName? (s : List Char) : Option (List Char) := do
  let name := Text.normalForm (← s.mapM mapping?).flatten
  if name.any deniedInDomain then none else some name

/-- What labels written in ASCII start with. -/
def asciiMark : List Char := ['x', 'n', '-', '-']

/-- The most characters that are read from a label in ASCII. -/
def mostRead : Nat := 2000

/-- The most characters of a label that are written in ASCII. -/
def mostWritten : Nat := 1000

/-- What a label of a mapped name says.  One with `asciiMark` is in ASCII, and has to say something
above ASCII that is mapped to itself. -/
def content? (label : List Char) : Option (List Char) :=
  if asciiMark.isPrefixOf label then do
    let s := label.drop asciiMark.length
    -- A hyphen at the end, or nothing, says that no character above ASCII is written.
    if !isAscii s || s.getLast?.all (· == '-') || mostRead < s.length then none
    else
      let content ← Punycode.decode? s
      if mappedName? content = some content then some content else none
  else some label

/-- The label does not start with a mark, and its joiners have an effect. -/
def isWellFormed (content : List Char) : Bool :=
  isAscii content ||
    (!content.head?.any Text.isMark && Text.joinersFit [] content &&
      content.length ≤ mostWritten)

/-- A label in ASCII. -/
def asciiLabel (label : List Char) : List Char :=
  if isAscii label then label else asciiMark ++ Punycode.encode label

/-- A domain name as it is looked up. -/
def domain? (s : List Char) : Option (List Char) := do
  let labels := Text.parts (· == '.') (← mappedName? s)
  let contents ← labels.mapM content?
  if contents.all isWellFormed && (!contents.any Text.turns || contents.all Text.keepsOrder) then
    some (List.intercalate ['.'] (labels.map asciiLabel))
  else none

end Entail.Url
