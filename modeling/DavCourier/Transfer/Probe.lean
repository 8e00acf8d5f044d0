import DavCourier.Dav.Depth
import DavCourier.Dav.MultiStatus.Reader
import DavCourier.Repository.Basic
import DavCourier.Transfer.Dialogue
import DavCourier.Transfer.Fault

/-!
# Asking for properties

`probe` asks a server for the properties of a resource and, by the depth, of what is below
it. `Finding.target?` finds the entry of one resource in the answer, however its reference
is spelled.
-/

namespace DavCourier.Transfer

open Http Dav

/-- The names of the properties that a probe asks for. -/
def probedProperties : List String :=
  ["getcontenttype", "getetag", "creationdate", "getlastmodified", "resourcetype"]

/-- The body of a probe. -/
def probeBody : String :=
  "<?xml version=\"1.0\" encoding=\"utf-8\"?>\n<D:propfind xmlns:D=\"DAV:\">\n    <D:prop>\n"
    ++ String.join (probedProperties.map fun name => s!"        <D:{name}/>\n")
    ++ "    </D:prop>\n</D:propfind>"

/-- The request for the properties of a resource. -/
def probeRequest (url : String) (depth : Depth) : Request :=
  { method := .propfind
    url := url
    headers := [("Depth", depth.headerValue), ("Content-Type", "application/xml; charset=utf-8")]
    body := some (Utf8.encodeString probeBody) }

/-- What a probe finds. -/
structure Finding where
  status : Status
  /-- The report, if the answer has one. -/
  report : Option MultiStatus
  deriving DecidableEq

/-- What an answer to a probe says. Only the status 207 comes with a report. -/
def findingOf (url : String) : Answer → Except ExchangeFault Finding
  | .error fault => .error (.transport fault)
  | .ok response =>
    if response.status.code = 207 then
      match MultiStatus.parse response.body with
      | .ok report => .ok ⟨response.status, report⟩
      | .error fault => .error (.malformed url fault.message)
    else .ok ⟨response.status, none⟩

/-- Asks for the properties of a resource. -/
def probe (url : String) (depth : Depth) : Dialogue (Except ExchangeFault Finding) :=
  (Dialogue.send (probeRequest url depth)).map (findingOf url)

/-- The entry for a reference, in whatever order the entries come. A single entry is taken
for it. -/
def targetAmong (entries : List Resource) (href : String) : Option Resource :=
  let wanted := Href.comparable href.toList
  match entries.find? fun r => Href.comparable r.href.toList = wanted with
  | some r => some r
  | none =>
    match entries with
    | [r] => some r
    | _ => none

namespace Finding

/-- Whether the server reported the resource. -/
def isPresent (f : Finding) : Bool :=
  f.status.code = 207 || f.status.code = 200

/-- Whether the server knows nothing there. -/
def isNotFound (f : Finding) : Bool :=
  f.status.code = 404

/-- The entry for a reference. -/
def target? (f : Finding) (href : String) : Option Resource :=
  f.report.bind fun m => targetAmong m.entries href

end Finding

end DavCourier.Transfer
