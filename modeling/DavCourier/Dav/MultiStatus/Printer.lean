import DavCourier.Dav.MultiStatus
import DavCourier.Markup.Reference

/-!
# Writing reports

`MultiStatus.render` writes a report as a document, with the prefix `D` and the entries in
the order of their references. A property without a value and a status of zero are not
written.
-/

namespace DavCourier.Dav.MultiStatus

/-- An element around its content. -/
def element (name : String) (content : List Char) : List Char :=
  "<".toList ++ name.toList ++ ">".toList ++ content ++ "</".toList ++ name.toList ++ ">".toList

/-- An element around a text. -/
def textElement (name text : String) : List Char :=
  element name (Markup.Reference.escape text.toList)

/-- A property, if it has a value. -/
def property (name : String) (value : Option String) : List Char :=
  match value with
  | some text => textElement name text
  | none => []

/-- The type of a resource. -/
def typeElement (isCollection : Bool) : List Char :=
  if isCollection then element "D:resourcetype" "<D:collection/>".toList
  else "<D:resourcetype/>".toList

/-- The status of the properties, unless it is zero. -/
def statusElement (status : UInt16) : List Char :=
  if status = 0 then []
  else element "D:status" ("HTTP/1.1 ".toList ++ Numeral.decimal status.toNat)

/-- The properties of an entry. -/
def propElement (r : Resource) : List Char :=
  element "D:prop" <|
    property "D:getcontenttype" r.contentType ++ property "D:getetag" r.etag
      ++ property "D:creationdate" r.creationDate
      ++ property "D:getlastmodified" r.lastModified ++ typeElement r.isCollection

/-- An entry. -/
def responseElement (r : Resource) : List Char :=
  element "D:response" <|
    textElement "D:href" r.href
      ++ element "D:propstat" (propElement r ++ statusElement r.status)

/-- The characters of the document. -/
def renderChars (m : MultiStatus) : List Char :=
  "<?xml version=\"1.0\" encoding=\"utf-8\"?><D:multistatus xmlns:D=\"DAV:\">".toList
    ++ m.entries.flatMap responseElement ++ "</D:multistatus>".toList

/-- The report as a document. -/
def render (m : MultiStatus) : String :=
  String.ofList (renderChars m)

end DavCourier.Dav.MultiStatus
