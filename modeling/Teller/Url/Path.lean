import Teller.Url.Percent

/-!
# Paths

A path is a list of segments. Reading one resolves the segments that are dots, so that a path that
is held never goes back.

* `Path`: the segments behind a slash each, or a text that is none of that.
* `isHere`, `isUp`: the segments that mean this place and the one above.
* `addSegment`, `readFrom`: segments behind those that are there already.
* `Path.read`: the path that a text gives; `Path.push`: one segment more, whatever it holds.
-/

namespace Teller.Url

/-- The path of a URL. -/
inductive Path where
  /-- A text without structure, as behind `mailto:`. -/
  | flat (text : List Char)
  /-- Segments, each behind a slash. -/
  | rooted (segments : List (List Char))
deriving DecidableEq, Repr

/-- The text of segments. -/
def segmentsText (segments : List (List Char)) : List Char := segments.flatMap ('/' :: ·)

/-- The text of a path. -/
def Path.text : Path → List Char
  | .flat text => text
  | .rooted segments => segmentsText segments

/-- How the schemes that the web knows read their URLs: `web` those with a host, `file` the one of
files, `plain` all other schemes. -/
inductive Manner where
  | web
  | file
  | plain
deriving DecidableEq, Repr

/-- Whether a backslash counts as a slash, and other leniences. -/
def Manner.special : Manner → Bool
  | .plain => false
  | _ => true

/-- A character between segments. -/
def Manner.isSlash (m : Manner) (c : Char) : Bool := c == '/' || (m.special && c == '\\')

/-- Segments that mean this place. -/
def isHere (segment : List Char) : Bool :=
  segment.map Char.toLower ∈ [".".toList, "%2e".toList]

/-- Segments that mean the place above. -/
def isUp (segment : List Char) : Bool :=
  segment.map Char.toLower ∈ ["..".toList, ".%2e".toList, "%2e.".toList, "%2e%2e".toList]

/-- A letter for a drive, as `C:` or `C|`. -/
def isDrive : List Char → Bool
  | [a, b] => a.isAlpha && (b == ':' || b == '|')
  | _ => false

/-- Segments without the last one; a drive stays. -/
def shorten (front : List (List Char)) : List (List Char) :=
  if front.getLast?.any isDrive then front else front.dropLast

/-- The first segment of a file's path, a drive, always has a colon. -/
def normalDrive (m : Manner) (front : List (List Char)) (segment : List Char) : List Char :=
  if m = .file ∧ front.isEmpty ∧ isDrive segment then segment.take 1 ++ [':'] else segment

/-- One segment with a slash behind it. -/
def addSegment (m : Manner) (front : List (List Char)) (segment : List Char) :
    List (List Char) :=
  if isUp segment then shorten front
  else if isHere segment then front
  else front ++ [normalDrive m front segment]

/-- The last segment. Dots leave an empty one behind. -/
def addLast (m : Manner) (front : List (List Char)) (segment : List Char) : List (List Char) :=
  if isUp segment ∨ isHere segment then addSegment m front segment ++ [[]]
  else addSegment m front segment

/-- More segments behind those that are there. -/
def addAll (m : Manner) (front : List (List Char)) : List (List Char) → List (List Char)
  | [] => front
  | [last] => addLast m front last
  | segment :: rest => addAll m (addSegment m front segment) rest

/-- A file's path does not start with empty segments, unless there is no other. -/
def trimRoot : List (List Char) → List (List Char)
  | [] :: rest => if rest.isEmpty then [[]] else trimRoot rest
  | segments => segments

/-- The segments of a text, each escaped. -/
def splitSegments (m : Manner) (text : List Char) : List (List Char) :=
  (text.splitOnP m.isSlash).map (escapeWith .path)

/-- The segments that a text adds to those that are there. -/
def readFrom (m : Manner) (front : List (List Char)) (text : List Char) : List (List Char) :=
  addAll m front (splitSegments m text)

/-- Without the slash at the start of a text, if it has one. -/
def dropSlash (m : Manner) : List Char → List Char
  | c :: cs => if m.isSlash c then cs else c :: cs
  | [] => []

/-- The segments of a path that a text gives. Only outside the web a path can be empty. -/
def readSegments (m : Manner) (text : List Char) : List (List Char) :=
  if m = .plain ∧ text.isEmpty then [] else readFrom m [] (dropSlash m text)

/-- The path that a text gives. -/
def Path.read (m : Manner) (text : List Char) : Path :=
  .rooted (if m = .file then trimRoot (readSegments m text) else readSegments m text)

/-- Characters that URLs leave out wherever they stand. -/
def isSkipped (c : Char) : Bool := c == '\t' || c == '\n' || c == '\r'

/-- One segment more. Whatever would divide it is escaped; the two segments of nothing but dots are
left out. -/
def pushSegment (m : Manner) (front : List (List Char)) (segment : List Char) :
    List (List Char) :=
  if segment = ['.'] ∨ segment = ['.', '.'] then front
  else
    let front := if front = [[]] then [] else front
    addLast m front (escapeWith (.pathSegment m.special) (segment.filter (!isSkipped ·)))

/-- A path with one segment more. -/
def Path.push (m : Manner) (segment : List Char) : Path → Path
  | .flat text => .flat text
  | .rooted front => .rooted (pushSegment m front segment)

end Teller.Url
