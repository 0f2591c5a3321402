import AlertRelay.Text.Split
import AlertRelay.Url.Percent

/-!
# Paths of URLs

The path of a URL is a list of segments, each written behind a slash, or, in a URL without host and
without a slash behind the scheme, a text by itself. While a path is read a segment of one dot is
passed over and a segment of two dots takes the segment before it away, but never a drive letter.
The URLs of files write a drive letter with a colon.
-/

namespace AlertRelay.Url

/-- The kinds of schemes: files, the other schemes that always have a host, and the rest. -/
inductive SchemeKind where
  | file
  | special
  | other
  deriving DecidableEq, Repr

/-- Whether the scheme is one of those that always have a path and treat a backslash as a slash. -/
def SchemeKind.isSpecial (k : SchemeKind) : Bool :=
  k != .other

/-- A slash, or a backslash where that is treated as one. -/
def SchemeKind.isSlash (k : SchemeKind) (c : Char) : Bool :=
  c == '/' || (c == '\\' && k.isSpecial)

/-- A path. -/
inductive Path where
  | segments (list : List (List Char))
  | rootless (text : List Char)
  deriving DecidableEq, Repr

/-- The written form of a path. -/
def Path.chars : Path → List Char
  | .segments list => list.flatMap ('/' :: ·)
  | .rootless text => text

/-- A letter and a colon, or a bar in its place. -/
def isDriveLetter : List Char → Bool
  | [c, mark] => c.isAlpha && (mark == ':' || mark == '|')
  | _ => false

/-- A segment in which encoded dots are written as dots. -/
def decodeDots : List Char → List Char
  | '%' :: '2' :: 'e' :: rest => '.' :: decodeDots rest
  | '%' :: '2' :: 'E' :: rest => '.' :: decodeDots rest
  | c :: rest => c :: decodeDots rest
  | [] => []

/-- One dot, encoded or not. -/
def isDot (segment : List Char) : Bool :=
  segment.length ≤ 3 && decodeDots segment == ['.']

/-- Two dots, encoded or not. -/
def isDoubleDot (segment : List Char) : Bool :=
  segment.length ≤ 6 && decodeDots segment == ['.', '.']

/-- Takes the last segment away, unless it is a drive letter. The segments are in reverse. -/
def climb : List (List Char) → List (List Char)
  | [] => []
  | last :: before => if isDriveLetter last then last :: before else before

/-- A segment as it is kept: in the path of a file a drive letter has a colon. -/
def SchemeKind.keep (k : SchemeKind) (segment : List Char) : List Char :=
  if k = .file && isDriveLetter segment then segment.take 1 ++ [':'] else segment

/-- The path behind the segments `before`, which are in reverse, with further segments. -/
def walk (k : SchemeKind) (before : List (List Char)) : List (List Char) → List (List Char)
  | [] => before.reverse
  | segment :: rest =>
    let ended (before : List (List Char)) : List (List Char) :=
      if rest.isEmpty then [] :: before else before
    if isDoubleDot segment then walk k (ended (climb before)) rest
    else if isDot segment then walk k (ended before) rest
    else walk k (k.keep segment :: before) rest

/-- Drops the empty segments in front, but keeps one segment. -/
def dropEmptySegments (segments : List (List Char)) : List (List Char) :=
  match segments.dropWhile List.isEmpty with
  | [] => [[]]
  | kept => kept

/-- The encoded segments of a text that stands behind a slash. -/
def rawSegments (k : SchemeKind) (cs : List Char) : List (List Char) :=
  (Text.splitChars '/' (cs.map fun c => if k.isSlash c then '/' else c)).map
    (Percent.encode inPathSet)

/-- The segments of a text that stands behind a slash. -/
def readSegments (k : SchemeKind) (cs : List Char) : List (List Char) :=
  let segments := walk k [] (rawSegments k cs)
  if k = .file then dropEmptySegments segments else segments

/-- Whether a text that stands behind a slash has a drive letter for a segment. -/
def hasDrive (k : SchemeKind) (cs : List Char) : Bool :=
  k == .file && (rawSegments k cs).any isDriveLetter

end AlertRelay.Url
