import DavCourier.Transfer.Collections
import DavCourier.Text.Blank

/-!
# Questions to a server

Whether a resource or a collection exists, and whether the server knows the protocol.
-/

namespace DavCourier.Transfer

open Http

/-- Whether a resource exists. -/
def resourceExists (r : Repository) (p : ResourcePath) : Dialogue (Except Failure Bool) :=
  (Dialogue.send { method := .head, url := r.url p }).map fun answer =>
    match answer with
    | .error fault => .error (.ofTransport fault)
    | .ok response =>
      if response.status.code = 200 ∨ response.status.code = 304 then .ok true
      else if response.status.code = 404 then .ok false
      else .error (.ofStatus response.status (r.url p))

/-- Whether a collection exists. -/
def collectionExists (r : Repository) (p : ResourcePath) : Dialogue (Except Failure Bool) :=
  (probe (r.collectionUrl p) .zero).map fun result =>
    match result with
    | .error fault => .error (.exchange fault)
    | .ok finding =>
      if finding.isPresent then
        .ok ((finding.target? (r.href p)).any fun entry => entry.isCollection)
      else if finding.isNotFound then .ok false
      else .error (.ofStatus finding.status (r.collectionUrl p))

/-- Whether the classes of a server, between commas, have the first one. -/
def hasFirstClass (classes : String) : Bool :=
  (Text.splitAt ',' classes.toList).any fun c => Text.trimChars c = ['1']

/-- Whether the server says that it knows the protocol. -/
def isCapable (r : Repository) : Dialogue (Except Failure Bool) :=
  (Dialogue.send { method := .options, url := r.collectionUrl .root }).map fun answer =>
    match answer with
    | .error fault => .error (.ofTransport fault)
    | .ok response =>
      .ok (response.status.isSuccess && (response.header? "DAV").any hasFirstClass)

end DavCourier.Transfer
