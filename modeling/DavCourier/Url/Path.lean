import DavCourier.Url.Encoding
import DavCourier.Text.Split

/-!
# Paths of addresses

A path is a list of segments with a slash before each. `pathSegments` reads it : a segment
`.` says nothing and `..` takes the segment before it away, also with the dots escaped. A
segment that has the shape of a drive, as in `c:`, is not taken away.
-/

namespace DavCourier.Url

/-- The spellings of a dot. -/
def dots : List (List Char) :=
  ["." , "%2e", "%2E"].map String.toList

/-- Whether a segment says nothing. -/
def isSingleDot (segment : List Char) : Bool :=
  dots.contains segment

/-- Whether a segment goes back. -/
def isDoubleDot (segment : List Char) : Bool :=
  dots.any fun a => dots.any fun b => a ++ b == segment

/-- A letter and a colon or a bar. -/
def isDrive : List Char → Bool
  | [letter, mark] => letter.isAlpha && (mark = ':' || mark = '|')
  | _ => false

/-- Takes the last segment away. The segments are in reverse. -/
def goBack : List (List Char) → List (List Char)
  | [] => []
  | segment :: rest => if isDrive segment then segment :: rest else rest

/-- Reads a segment that others follow, after those in reverse. -/
def stepSegment (done : List (List Char)) (segment : List Char) : List (List Char) :=
  if isDoubleDot segment then goBack done
  else if isSingleDot segment then done
  else segment :: done

/-- Reads the segments of a path, after those in reverse. -/
def pathSegmentsFrom (done : List (List Char)) : List (List Char) → List (List Char)
  | [] => done.reverse
  | [last] =>
    if isDoubleDot last then ([] :: goBack done).reverse
    else if isSingleDot last then ([] :: done).reverse
    else (last :: done).reverse
  | segment :: rest => pathSegmentsFrom (stepSegment done segment) rest

/-- The text with a slash before each segment. -/
def joinSegments (segments : List (List Char)) : List Char :=
  segments.flatMap ('/' :: ·)

/-- Slashes, and with a special scheme backslashes, as slashes. -/
def slashes (special : Bool) (cs : List Char) : List Char :=
  if special then cs.map fun c => if c = '\\' then '/' else c else cs

/-- The segments of a text, escaped and with the dots worked off. -/
def pathSegments (special : Bool) (cs : List Char) : List (List Char) :=
  pathSegmentsFrom [] ((Text.splitAt '/' (slashes special cs)).map (escapeWith keepsInPath))

/-- The drive at the start of the path of a file with its colon, and whether there is one. -/
def settleDrive : List (List Char) → List (List Char) × Bool
  | [] :: rest =>
    let (rest, found) := settleDrive rest
    ([] :: rest, found)
  | [letter, mark] :: rest =>
    if isDrive [letter, mark] then ([letter, ':'] :: rest, true)
    else ([letter, mark] :: rest, false)
  | segments => (segments, false)

end DavCourier.Url
