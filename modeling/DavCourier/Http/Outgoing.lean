import DavCourier.Http.Message
import DavCourier.Text.Base64
import DavCourier.Url.Basic

/-!
# Requests on their way to a server

A request for an address that is none, or with headers that cannot be written, is not
sent. `Outgoing.ofRequest` brings any other one into the form in which it is sent : who
asks moves from the address into a header, and the length of the body is added.
-/

namespace DavCourier.Http

/-- A request in the form in which it is sent. -/
structure Outgoing where
  method : Method
  url : Url
  /-- The names are in lower case. -/
  headers : List (String × String)
  body : Bytes
  deriving DecidableEq, Repr

/-- Who asks : a user and a password. -/
structure Credentials where
  user : String
  password : String
  deriving DecidableEq, Repr

namespace Credentials

/-- The text of an escaped part, unless its bytes are not UTF-8. -/
def unescape? (part : List Char) : Option String :=
  (Utf8.decodeString (Percent.decodeBytes (Utf8.encode part))).toOption

/-- Who asks, as an address says. A user that is not UTF-8 is none, and neither is an empty
one without a password. -/
def ofUrl? (url : Url) : Option Credentials :=
  url.authority.bind fun a =>
    (unescape? a.user).bind fun user =>
      match a.password.bind unescape? with
      | some password => some ⟨user, password⟩
      | none => if user.isEmpty then none else some ⟨user, ""⟩

/-- The header that says who asks. -/
def header (c : Credentials) : String × String :=
  let code := Base64.encode (Utf8.encodeString s!"{c.user}:{c.password}")
  ("authorization", "Basic " ++ String.ofList code)

end Credentials

/-- The characters of the name of a header. -/
def isNameChar (c : Char) : Bool :=
  c.isAlphanum || "!#$%&'*+-.^_|~".toList.contains c || c.toNat = 0x60

/-- Whether a header can be written : the name is a word, and the value has no control
characters but tabs. -/
def isWritable (header : String × String) : Bool :=
  !header.1.isEmpty && header.1.toList.all isNameChar
    && header.2.toList.all fun c => c = '\t' || (0x20 ≤ c.toNat && c.toNat ≠ 0x7F)

/-- The length of the longest address that can be sent. -/
def maxAddress : Nat := 65534

/-- The characters of a host that no address in a request has. -/
def isUnsendable (c : Char) : Bool :=
  c = '"' || c = '\x7b' || c = '\x7d' || c.toNat = 0x60

/-- Whether requests can be sent to an address. -/
def isSendable (url : Url) : Bool :=
  (url.scheme = "http".toList || url.scheme = "https".toList)
    && !url.authority.any (fun a => a.host.any isUnsendable)
    && url.render.utf8ByteSize ≤ maxAddress

/-- The headers that a request is sent with. -/
def outgoingHeaders (users : List Credentials) (request : Request) (body : Bytes) :
    List (String × String) :=
  users.map Credentials.header
    ++ request.headers.map (fun h => (lowerName h.1, h.2))
    ++ ("accept", "*/*")
      :: (if body.isEmpty then [] else [("content-length", toString body.length)])

/-- The refusal of a request that is not sent, with the address as far as it was read. -/
def unsent (request : Request) (url : Option Url) : TransportFault :=
  .invalidRequest request.url <|
    match url with
    | none => "builder error"
    | some url => s!"builder error for url ({url.render})"

/-- The form in which a request is sent for a user. -/
def Outgoing.ofRequest (user : Option Credentials) (request : Request) :
    Except TransportFault Outgoing :=
  match Url.parse request.url with
  | .error _ => .error (unsent request none)
  | .ok given =>
    let own := Credentials.ofUrl? given
    let url := if own.isSome then given.withoutUser else given
    if !given.hasHost then .error (unsent request (some given))
    else if !request.headers.all isWritable then .error (unsent request none)
    else if !isSendable url then .error (unsent request (some url))
    else
      let body := request.body.getD []
      .ok ⟨request.method, url,
        outgoingHeaders (own.toList ++ user.toList) request body, body⟩

end DavCourier.Http
