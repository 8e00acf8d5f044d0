import DavCourier.Dav.MultiStatus
import DavCourier.Markup.Reading

/-!
# Reading reports

A report is a document whose root is `multistatus` in the namespace `DAV:`. Below the root
all elements are found by name alone, with the prefix that the root has. Each `response`
with a reference makes an entry, and the properties come from its first `propstat` that
has a `prop`. A document with another root is no report, which is no fault.
-/

namespace DavCourier.Dav

open Markup

/-- The namespace of the vocabulary. -/
def davSpace : String := "DAV:"

/-- A name of the vocabulary with the prefix of the root. -/
def qualified (qualifier : Option String) (name : String) : String :=
  match qualifier with
  | some q => q ++ ":" ++ name
  | none => name

namespace MultiStatus

/-- Whether the element lists the type of a collection. -/
def marksCollection (qualifier : Option String) (prop : Node) : Bool :=
  match prop.child? (qualified qualifier "resourcetype") with
  | some kind => (kind.child? (qualified qualifier "collection")).isSome
  | none => false

/-- The resource with the properties of a `prop`. -/
def withProperties (qualifier : Option String) (r : Resource) (prop : Node) : Resource :=
  { r with
    contentType := prop.childText? (qualified qualifier "getcontenttype")
    etag := prop.childText? (qualified qualifier "getetag")
    creationDate := prop.childText? (qualified qualifier "creationdate")
    lastModified := prop.childText? (qualified qualifier "getlastmodified")
    isCollection := marksCollection qualifier prop }

/-- The resource with what a `propstat` says of it. -/
def withPropstat (qualifier : Option String) (r : Resource) (propstat : Node) : Resource :=
  match propstat.child? (qualified qualifier "prop") with
  | none => r
  | some prop =>
    let r := withProperties qualifier r prop
    match propstat.childText? (qualified qualifier "status") with
    | some line => r.withStatusLine line
    | none => r

/-- The first `propstat` of a response that has a `prop`. -/
def propstat? (qualifier : Option String) (response : Node) : Option Node :=
  (response.childrenNamed (qualified qualifier "propstat")).find? fun p =>
    (p.child? (qualified qualifier "prop")).isSome

/-- The entry of a response, if it has a reference. -/
def resourceOf? (qualifier : Option String) (response : Node) : Option Resource :=
  (response.childText? (qualified qualifier "href")).map fun href =>
    let r : Resource := { href := Text.trim href }
    match propstat? qualifier response with
    | some p => withPropstat qualifier r p
    | none => r

/-- The report that a document with this root makes, if it makes one. -/
def ofNode? : Node → Option MultiStatus
  | .text _ => none
  | .element tag children =>
    if tag.space = some davSpace ∧ tag.localName = "multistatus" then
      let responses :=
        (Node.element tag children).childrenNamed (qualified tag.qualifier "response")
      some (ofList (responses.filterMap (resourceOf? tag.qualifier)))
    else none

/-- The report in a document, or nothing if the document is none; a fault if the bytes are
no document. -/
def parse (bs : Bytes) : Except Markup.Fault (Option MultiStatus) :=
  (Node.read bs).map ofNode?

end MultiStatus

end DavCourier.Dav
