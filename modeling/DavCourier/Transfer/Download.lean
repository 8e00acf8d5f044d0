import DavCourier.Calendar.MailDate
import DavCourier.Local.Files
import DavCourier.Transfer.Collections

/-!
# Downloads

`fetch` gets a resource and writes it to a file; with an instant, only if the copy on the
server is newer. It is a dialogue about a disk, with the disk after it as a result.
-/

namespace DavCourier.Transfer

open Http Calendar

/-- The headers that keep an answer from coming out of a store on the way. -/
def freshHeaders : List (String × String) :=
  [("Cache-control", "no-cache"), ("Cache-store", "no-store"), ("Pragma", "no-cache"),
    ("Expires", "0")]

/-- The header that asks for a copy newer than an instant. -/
def sinceHeader : Option Instant → List (String × String)
  | some t => [("If-Modified-Since", t.httpDate)]
  | none => []

/-- The request for the content of a resource. -/
def fetchRequest (url : String) (since : Option Instant) : Request :=
  { method := .get, url := url, headers := freshHeaders ++ sinceHeader since }

/-- Whether the copy of an answer is known to be no newer than an instant. -/
def isStale (since : Option Instant) (response : Response) : Bool :=
  match since, (response.header? "Last-Modified").bind MailDate.read? with
  | some t, some modified => modified.isUpTo t
  | _, _ => false

/-- The disk with the directory that a path is written in. -/
def makeEnclosing (disk : Local.Disk) (destination : String) : Local.Disk × Except Failure Unit :=
  match Local.enclosing? destination.toList with
  | none => (disk, .ok ())
  | some outer =>
    match disk.makeAll outer with
    | (disk, none) => (disk, .ok ())
    | (disk, some fault) => (disk, .error (.directoryRefused (String.ofList outer) fault))

/-- The disk with a content in a file, in a directory that may be new. After a write that failed
the file is removed, whatever it was. -/
def writeDestination (disk : Local.Disk) (destination : String) (content : Bytes) :
    Local.Disk × Except Failure Unit :=
  match makeEnclosing disk destination with
  | (disk, .error failure) => (disk, .error failure)
  | (disk, .ok ()) =>
    match disk.write destination.toList content with
    | (disk, none) => (disk, .ok ())
    | (disk, some fault) =>
      (disk.discard destination.toList, .error (.writeRefused destination fault))

/-- What an answer does to the disk, and whether the destination was written. -/
def receive (disk : Local.Disk) (url destination : String) (since : Option Instant) :
    Answer → Local.Disk × Except Failure Bool
  | .error fault => (disk, .error (.ofTransport fault))
  | .ok response =>
    if response.status.code = 200 then
      if isStale since response then (disk, .ok false)
      else
        let (disk, result) := writeDestination disk destination response.body
        (disk, result.map fun () => true)
    else if response.status.code = 304 then (disk, .ok false)
    else (disk, .error (.ofStatus response.status url))

/-- Gets a resource into a file, and with an instant only if it is newer. -/
def fetch (r : Repository) (disk : Local.Disk) (p : ResourcePath) (destination : String)
    (since : Option Instant) : Dialogue (Local.Disk × Except Failure Bool) :=
  (Dialogue.send (fetchRequest (r.url p) since)).map (receive disk (r.url p) destination since)

/-- Gets a resource into a file. -/
def download (r : Repository) (disk : Local.Disk) (p : ResourcePath) (destination : String) :
    Dialogue (Local.Disk × Except Failure Unit) :=
  (fetch r disk p destination none).map fun (disk, result) => (disk, result.map fun _ => ())

/-- Gets a resource into a file if it is newer than an instant. The result says whether the
file was written. -/
def downloadIfNewer (r : Repository) (disk : Local.Disk) (p : ResourcePath)
    (destination : String) (t : Instant) : Dialogue (Local.Disk × Except Failure Bool) :=
  fetch r disk p destination (some t)

end DavCourier.Transfer
