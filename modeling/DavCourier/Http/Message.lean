import DavCourier.Text.Utf8
import DavCourier.Text.Case

/-!
# Requests and answers
-/

namespace DavCourier.Http

/-- What a request asks for. -/
inductive Method where
  | propfind
  | mkcol
  | put
  | get
  | head
  | options
  deriving DecidableEq, Repr

/-- The method as a request writes it. -/
def Method.name : Method → String
  | propfind => "PROPFIND"
  | mkcol => "MKCOL"
  | put => "PUT"
  | get => "GET"
  | head => "HEAD"
  | options => "OPTIONS"

/-- A request for one address. -/
structure Request where
  method : Method
  url : String
  headers : List (String × String) := []
  body : Option Bytes := none
  deriving DecidableEq, Repr

/-- A status with the phrase that came with it. -/
structure Status where
  code : UInt16
  reason : Option String := none
  deriving DecidableEq, Repr

/-- The status in words : the code, and the phrase if there is one. -/
def Status.describe (status : Status) : String :=
  match status.reason with
  | none => s!"{status.code.toNat}"
  | some reason =>
    if reason.isEmpty then s!"{status.code.toNat}" else s!"{status.code.toNat} {reason}"

/-- Whether the status is one of success. -/
def Status.isSuccess (status : Status) : Bool :=
  200 ≤ status.code && status.code < 300

/-- An answer with its whole body. -/
structure Response where
  status : Status
  headers : List (String × String) := []
  body : Bytes := []
  deriving DecidableEq, Repr

/-- The name of a header in lower case. -/
def lowerName (name : String) : String :=
  String.ofList (name.toList.map Text.lower)

/-- Whether a value can be read as a text : printable characters of ASCII, and tabs. -/
def isReadable (value : String) : Bool :=
  value.toList.all fun c => (0x20 ≤ c.toNat && c.toNat ≤ 0x7E) || c = '\t'

/-- The value of the first header with a name, in either case, if it can be read. -/
def Response.header? (response : Response) (name : String) : Option String :=
  (response.headers.find? fun h => lowerName h.1 = lowerName name).bind fun h =>
    if isReadable h.2 then some h.2 else none

/-- Why a request got no answer. -/
inductive TransportFault where
  | timeout (url : String)
  | connection (url details : String)
  | invalidRequest (url details : String)
  deriving DecidableEq, Repr

/-- The wording of a fault. -/
def TransportFault.message : TransportFault → String
  | timeout url => s!"Request to '{url}' timed out"
  | connection url details => s!"Request to '{url}' failed: {details}"
  | invalidRequest url details => s!"Invalid request for '{url}': {details}"

/-- What comes back for a request. -/
abbrev Answer := Except TransportFault Response

end DavCourier.Http
