import DavCourier.Text.Blank
import DavCourier.Text.Split
import DavCourier.Text.Numeral

/-!
# Resources as a server reports them

A `Resource` has its reference on the server, the properties that the server sent, and
the status of those properties, which `statusOfLine` reads from a status line.
-/

namespace DavCourier.Dav

/-- A resource in the answer of a server. -/
structure Resource where
  /-- The reference of the resource, as the server spells it. -/
  href : String
  isCollection : Bool := false
  contentType : Option String := none
  etag : Option String := none
  creationDate : Option String := none
  lastModified : Option String := none
  /-- The status of the properties; zero if none can be read. -/
  status : UInt16 := 0
  deriving DecidableEq, Repr

/-- The number in the second word of a status line; zero if there is none below 2^16. -/
def statusOfLine (line : String) : UInt16 :=
  match (Text.words line.toList)[1]?.bind (Numeral.decimal? 65535) with
  | some n => UInt16.ofNat n
  | none => 0

namespace Resource

/-- The last segment of the reference that is not empty, with its escapes. -/
def name (r : Resource) : String :=
  String.ofList
    (((Text.splitAt '/' (Text.dropTrailing (· = '/') r.href.toList)).getLast?).getD [])

/-- The resource as a collection. -/
def asCollection (r : Resource) : Resource :=
  { r with isCollection := true }

/-- The resource with the status of a status line. -/
def withStatusLine (r : Resource) (line : String) : Resource :=
  { r with status := statusOfLine line }

end Resource

end DavCourier.Dav
