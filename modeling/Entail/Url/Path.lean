/-
Entail/Url/Path.lean

The path of a URL: its segments, with dot segments already followed.

A `..` takes back the segment before it, and a `.` stands for nothing.  What looks like the letter
of a drive is never taken back.
-/
import Entail.Url.Address
import Entail.Url.Percent

namespace Entail.Url

/-- The segment means the directory itself. -/
def isDot (s : List Char) : Bool :=
  [['.'], ['%', '2', 'e']].contains (s.map Char.toLower)

/-- The segment means the directory above. -/
def isDoubleDot (s : List Char) : Bool :=
  [['.', '.'], ['.', '%', '2', 'e'], ['%', '2', 'e', '.'],
    ['%', '2', 'e', '%', '2', 'e']].contains (s.map Char.toLower)

/-- The segment is the letter of a drive: a letter with a colon or a bar. -/
def isDrive : List Char → Bool
  | [c, d] => c.isAlpha && (d == ':' || d == '|')
  | _ => false

/-- The segment is the letter of a drive with a colon. -/
def isPlainDrive (s : List Char) : Bool := isDrive s && s.getLast? == some ':'

/-- The segment is the letter of a drive, or goes on with a backslash after it. -/
def isDriveStart (s : List Char) : Bool := isDrive (s.take 2) && (s.drop 2).head?.all (· == '\\')

/-- The segments, last one first, without the last one. -/
def ascend : List (List Char) → List (List Char)
  | [] => []
  | s :: up => if isDriveStart s then s :: up else up

/-- Follow segments from a directory, whose own segments are given last one first.  In a file path
a drive in front is written with a colon. -/
def follow (file : Bool) (up : List (List Char)) : List (List Char) → List (List Char)
  | [] => up.reverse
  | s :: rest =>
    -- A path that ends in a dot segment ends in a slash.
    if isDoubleDot s then follow file (if rest = [] then [] :: ascend up else ascend up) rest
    else if isDot s then follow file (if rest = [] then [] :: up else up) rest
    else if file && up.isEmpty && isDrive s then follow file ((s.take 1 ++ [':']) :: up) rest
    else follow file (percentEncode encodedInPath s :: up) rest

/-- The segments without the empty ones in front. -/
def withoutEmptyFront (segments : List (List Char)) : List (List Char) :=
  match segments.dropWhile List.isEmpty with
  | [] => [[]]
  | s :: rest => s :: rest

/-- The written form of segments: a slash before each. -/
def pathText (segments : List (List Char)) : List Char := segments.flatMap ('/' :: ·)

end Entail.Url
