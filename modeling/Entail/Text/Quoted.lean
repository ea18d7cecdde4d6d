/-
Entail/Text/Quoted.lean

A text in quotes, as error messages show it.

Quotes, backslashes and the common control characters are escaped by a letter, and characters that
would not show by their code point in hexadecimal.  In the quoted name of a file an apostrophe is
escaped too.
-/
import Entail.Decimal.Shortest
import Entail.Text.Printable

namespace Entail.Text

/-- How a character is shown between quotes. -/
def shown (c : Char) : List Char :=
  match c with
  | '\x00' => ['\\', '0']
  | '\t' => ['\\', 't']
  | '\r' => ['\\', 'r']
  | '\n' => ['\\', 'n']
  | '\\' => ['\\', '\\']
  | '"' => ['\\', '"']
  | c =>
    if isPrintable c && !isExtending c then [c]
    else ['\\', 'u', '\x7b'] ++ Decimal.digitsIn 16 c.toNat ++ ['\x7d']

/-- A text in quotes. -/
def quote (s : String) : String :=
  String.ofList ('"' :: s.toList.flatMap shown ++ ['"'])

/-- The name of a file in quotes. -/
def quotePath (s : String) : String :=
  String.ofList
    ('"' :: s.toList.flatMap (fun c => if c = '\'' then ['\\', '\''] else shown c) ++ ['"'])

end Entail.Text
