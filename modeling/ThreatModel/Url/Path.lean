import ThreatModel.Text.Search
import ThreatModel.Url.Percent

/-!
# Paths

The path of a URL as the segments between its slashes, each encoded. A segment of one point is left
out, and one of two points takes the segment in front of it away, unless that is the letter of a
drive. Either point may be encoded.
-/

namespace ThreatModel.Url.Path

/-- Whether a character of a path is not encoded. -/
def isKept (c : Char) : Bool :=
  0x20 < c.toNat && c.toNat < 0x7F && !"\"<>\u0060#?\x7b\x7d".toList.contains c

/-- A segment with its points decoded. -/
def points (segment : List Char) : List Char :=
  Text.replace "%2e".toList ['.'] (segment.map Char.toLower)

/-- Whether a segment is a letter of ASCII with a colon or a bar. -/
def isDrive : List Char → Bool
  | [a, b] => a.isAlpha && (b == ':' || b == '|')
  | _ => false

/-- A path without its last segment, unless that is a drive. -/
def parent (path : List (List Char)) : List (List Char) :=
  if path.getLast?.any isDrive then path else path.dropLast

/-- A path with a segment added. Behind points that are the last segment, an empty one is added. -/
def add (path : List (List Char)) (isLast : Bool) (segment : List Char) : List (List Char) :=
  let close (p : List (List Char)) := if isLast then p ++ [[]] else p
  if points segment = ".".toList then close path
  else if points segment = "..".toList then close (parent path)
  else path ++ [segment]

/-- A path with segments added one by one, which are all that follow. -/
def addAll (path : List (List Char)) : List (List Char) → List (List Char)
  | [] => path
  | [s] => add path true s
  | s :: r => addAll (add path false s) r

/-- The segments of the text behind the first slash of a path. -/
def ofText (cs : List Char) : List (List Char) :=
  addAll [] ((Text.splitOn '/' cs).map (Percent.encode isKept))

end ThreatModel.Url.Path
