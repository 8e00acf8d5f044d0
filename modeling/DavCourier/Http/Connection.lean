import DavCourier.Http.Outgoing
import DavCourier.Http.Phrase

/-!
# Connections

A connection sends requests over a network and reads what comes back. A network that
reaches no server has no reply to anything (`unreachable`).
-/

namespace DavCourier.Http

/-- What a server sends back. -/
structure Reply where
  code : UInt16
  headers : List (String × String) := []
  body : Bytes := []
  deriving DecidableEq, Repr

/-- What comes back over a network, if anything does. -/
abbrev Network := Outgoing → Option Reply

/-- The network without servers. -/
def unreachable : Network := fun _ => none

/-- The answer that a reply is read as : its phrase is the one of the status, and asking
for the head brings no body. -/
def Reply.read (reply : Reply) (method : Method) : Response :=
  { status := ⟨reply.code, phrase? reply.code⟩
    headers := reply.headers.map fun h => (lowerName h.1, h.2)
    body := if method = .head then [] else reply.body }

/-- The answer to one request over a network, which is sent once. -/
def exchange (network : Network) (user : Option Credentials) (request : Request) : Answer :=
  match Outgoing.ofRequest user request with
  | .error fault => .error fault
  | .ok outgoing =>
    match network outgoing with
    | some reply => .ok (reply.read request.method)
    | none =>
      .error (.connection request.url
        s!"error sending request for url ({outgoing.url.render})")

end DavCourier.Http
