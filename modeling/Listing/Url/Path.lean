import Listing.Url.Rules

/-!
# Paths

A path is a walk from segment to segment: one point stays, two points go back by one segment,
and any other segment goes on. Nothing goes back past a drive.
-/

namespace Listing.Url

open Text

/-- A point is also written by number. -/
def pointsOnly (s : List Char) : List Char :=
  match s with
  | '%' :: '2' :: c :: r => if c = 'e' || c = 'E' then '.' :: pointsOnly r else s
  | c :: r => c :: pointsOnly r
  | [] => []

/-- A drive is a letter with a colon or a bar. -/
def isDrive (segment : List Char) : Bool :=
  match segment with
  | [letter, sign] => letter.isAlpha && (sign = ':' || sign = '|')
  | _ => false

/-- A segment is kept if a drive is all of it or stands before a backslash in it. -/
def isKept (segment : List Char) : Bool :=
  isDrive (segment.take 2) && (segment.drop 2).head?.all (· = '\\')

/-- A drive with a colon, and what follows it in its segment. -/
def splitDrive? (segment : List Char) : Option (List Char × List Char) :=
  match segment with
  | letter :: ':' :: c :: r => if letter.isAlpha then some ([letter, ':'], c :: r) else none
  | _ => none

structure Walk where
  /-- The segments, the last one first. -/
  segments : List (List Char)
  foundDrive : Bool

namespace Walk

def start : Walk := ⟨[], false⟩

def back (w : Walk) : Walk :=
  match w.segments with
  | [] => w
  | last :: before => if isKept last then w else { w with segments := before }

def forth (w : Walk) (segment : List Char) : Walk :=
  { w with segments := escapeSet pathSet segment :: w.segments }

def move (w : Walk) (segment : List Char) : Walk :=
  match pointsOnly segment with
  | ['.', '.'] => w.back
  | ['.'] => w
  | _ => w.forth segment

/-- Goes to the first segment of a path to a file. A drive is written with a colon there, and
what follows a drive is a segment of its own, even if it is points. -/
def enter (w : Walk) (segment : List Char) : Walk :=
  if isDrive segment then ⟨[segment.take 1 ++ [':']], true⟩
  else match splitDrive? segment with
    | some (drive, rest) => (w.forth drive).forth rest
    | none => w.move segment

/-- The walk along all segments. Where it ends with points, an empty segment follows. -/
def along (isFile : Bool) (w : Walk) : List (List Char) → Walk
  | [] => w
  | segment :: rest =>
    let next := if isFile && w.segments.isEmpty then w.enter segment else w.move segment
    let points := pointsOnly segment
    if rest = [] ∧ (points = ['.'] ∨ points = ['.', '.']) then next.forth []
    else along isFile next rest

def text (w : Walk) : List Char := w.segments.reverse.flatMap ('/' :: ·)

end Walk

def withoutSlash (special : Bool) (s : List Char) : List Char :=
  match s with
  | c :: r => if isSlash special c then r else s
  | [] => []

/-- A path in segments. Only a path of a scheme that is not special can be empty. -/
def segmentedPath (special : Bool) (s : List Char) : List Char :=
  if s = [] && !special then []
  else (Walk.start.along false ((withoutSlash special s).splitOnP (isSlash special))).text

def filePath (s : List Char) : Walk := Walk.start.along true (s.splitOnP (isSlash true))

def filePathText (w : Walk) : List Char := '/' :: w.text.dropWhile (· = '/')

end Listing.Url
