import RoutineAtlas.Text.Percent
import RoutineAtlas.Url.Host

/-!
# Paths of URLs

The path of a URL is a row of segments. Reading it resolves the segments `.` and `..`. A segment
that names a drive, a letter with a colon or a bar, is never left by `..`, and the first segment of
a file's path is a drive with a colon if it is one with a bar.
-/

namespace RoutineAtlas.Url

/-! ## Characters -/

/-- A printable character that is none of those listed. -/
def keepsBut (refused : String) (c : Char) : Bool :=
  isUrlPrintable c && !refused.toList.contains c

/-- The characters kept in a path. -/
def keptInPath : Char → Bool :=
  keepsBut " \"<>`#?\x7b\x7d"

/-- A tab or a line break; they count for nothing in a URL. -/
def isBreak (c : Char) : Bool :=
  c == '\t' || c == '\n' || c == '\r'

/-- Text without its tabs and line breaks. -/
def withoutBreaks (t : Text) : Text :=
  t.filter fun c => !isBreak c

/-- A slash of a special URL. -/
def isSlash (c : Char) : Bool :=
  c == '/' || c == '\\'

/-! ## Segments -/

/-- The segment stands for the directory itself. -/
def isDot (segment : Text) : Bool :=
  ["." , "%2e", "%2E"].any fun s => s.toList == segment

/-- The segment stands for the directory above. -/
def isDotDot (segment : Text) : Bool :=
  ["..", "%2e%2e", "%2e%2E", "%2E%2e", "%2E%2E", "%2e.", "%2E.", ".%2e", ".%2E"].any
    fun s => s.toList == segment

/-- The segment names a drive: a letter and a colon or a bar. -/
def isDrive (segment : Text) : Bool :=
  match segment with
  | [c, d] => c.isAlpha && (d == ':' || d == '|')
  | _ => false

/-- The segments without the last, unless that is a drive. Segments are given last first. -/
def dropSegment (segments : List Text) : List Text :=
  if segments.head?.any isDrive then segments else segments.tail

/-- A drive with its colon and what follows it in the same segment, if a break stands between
them. -/
def driveBeforeBreak? (segment : Text) : Option (Text × Text) :=
  match segment.dropWhile isBreak with
  | [] => none
  | letter :: rest =>
    match rest.dropWhile isBreak with
    | ':' :: after =>
      let tail := withoutBreaks after
      if letter.isAlpha && after.head?.any isBreak && !tail.isEmpty then
        some ([letter, ':'], tail)
      else none
    | _ => none

/-- The path of a file as it is read: its segments, and whether it starts with a drive. -/
structure Segments where
  /-- The segments so far, last first. -/
  before : List Text
  hasDrive : Bool

/-- Read the segments of a path. The first of a file's path may be a drive; one that a break ends is
a segment of its own. -/
def Segments.read (isFile : Bool) (s : Segments) : List Text → Segments
  | [] => s
  | segment :: rest =>
    let encoded := Text.percentEncode keptInPath (withoutBreaks segment)
    let mayBeDrive := isFile && s.before.isEmpty
    let next : Segments :=
      match if mayBeDrive then driveBeforeBreak? segment else none with
      | some (drive, tail) =>
        { s with before := [Text.percentEncode keptInPath tail, drive] }
      | none =>
        if isDotDot encoded then
          let above := dropSegment s.before
          { s with before := if rest.isEmpty then [] :: above else above }
        else if isDot encoded then
          { s with before := if rest.isEmpty then [] :: s.before else s.before }
        else if mayBeDrive && isDrive encoded then
          { before := [encoded.take 1 ++ [':']], hasDrive := true }
        else { s with before := encoded :: s.before }
    next.read isFile rest

/-- Segments as a path. -/
def pathOfSegments (segments : List Text) : Text :=
  segments.flatMap ('/' :: ·)

/-- The segments that a text writes after the slash before it. In a special URL a backslash is a
slash. -/
def segmentsOf (special : Bool) (t : Text) : List Text :=
  Text.piecesAt '/' (if special then t.map fun c => if c == '\\' then '/' else c else t)

/-- The path that a text writes after the slash before it, in a URL that is not of a file. -/
def readPath (special : Bool) (t : Text) : Text :=
  pathOfSegments (Segments.read false ⟨[], false⟩ (segmentsOf special t)).before.reverse

/-- The path of a file that a text writes after the slash before it, and whether it starts with a
drive. It has no empty segments at its start. -/
def readFilePath (t : Text) : Text × Bool :=
  let read := Segments.read true ⟨[], false⟩ (segmentsOf true t)
  let kept := read.before.reverse.dropWhile (·.isEmpty)
  (pathOfSegments (if kept.isEmpty then [[]] else kept), read.hasDrive)

end RoutineAtlas.Url
