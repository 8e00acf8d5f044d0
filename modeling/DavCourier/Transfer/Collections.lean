import DavCourier.Dav.Creation
import DavCourier.Transfer.Probe

/-!
# Collections on a server

`createCollection` makes one new collection. `ensureCollection` makes sure that a
collection is there : it probes it, and if nothing is there it creates every collection on
the way, the outermost first.
-/

namespace DavCourier.Transfer

open Http Dav

/-- The request for a new collection. -/
def creationRequest (url : String) : Request :=
  { method := .mkcol, url := url }

/-- Asks for a new collection. -/
def create (url : String) : Dialogue (Except TransportFault Creation) :=
  (Dialogue.send (creationRequest url)).map fun answer =>
    answer.map fun response => Creation.ofStatus response.status

/-- The failure of a transport as one of a transfer. -/
def Failure.ofTransport (fault : TransportFault) : Failure :=
  .exchange (.transport fault)

/-- What the outcome for a collection on the way stands for. One that is there is fine. -/
def chainOutcome (url : String) : Creation → Except Failure Unit
  | .created | .alreadyExists => .ok ()
  | .conflict => .error (.parentMissing url)
  | .failed status => .error (.ofCollectionStatus status url)

/-- Creates collections one after the other, up to the first failure. -/
def createChain (r : Repository) : List ResourcePath → Dialogue (Except Failure Unit)
  | [] => .done (.ok ())
  | p :: ps =>
    (create (r.url p)).bind fun outcome =>
      match outcome with
      | .error fault => .done (.error (.ofTransport fault))
      | .ok creation =>
        match chainOutcome (r.url p) creation with
        | .error failure => .done (.error failure)
        | .ok () => createChain r ps

/-- Makes sure that a collection is there. The root always is. A server that reports it
without an entry for it is believed. -/
def ensureCollection (r : Repository) (p : ResourcePath) : Dialogue (Except Failure Unit) :=
  if p.isRoot then .done (.ok ())
  else
    let url := r.collectionUrl p
    (probe url .zero).bind fun result =>
      match result with
      | .error fault => .done (.error (.exchange fault))
      | .ok finding =>
        if finding.isPresent then
          match finding.target? (r.href p) with
          | some entry =>
            if entry.isCollection then .done (.ok ()) else .done (.error (.occupied url))
          | none => .done (.ok ())
        else if finding.isNotFound then createChain r p.chain
        else .done (.error (.ofCollectionStatus finding.status url))

/-- What the outcome for one new collection stands for. -/
def creationOutcome (url : String) : Creation → Except Failure Unit
  | .created => .ok ()
  | .alreadyExists => .error (.alreadyExists url)
  | .conflict => .error (.noParent url)
  | .failed status => .error (.ofStatus status url)

/-- Creates one collection, which must not be there. -/
def createCollection (r : Repository) (p : ResourcePath) : Dialogue (Except Failure Unit) :=
  (create (r.url p)).map fun outcome =>
    match outcome with
    | .error fault => .error (.ofTransport fault)
    | .ok creation => creationOutcome (r.url p) creation

end DavCourier.Transfer
