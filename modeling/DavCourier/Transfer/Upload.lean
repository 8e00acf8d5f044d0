import DavCourier.Local.Files
import DavCourier.Transfer.Collections

/-!
# Uploads

`store` puts a content where a path leads in a repository, with the collections on the way.
`upload` takes the content from a file, and `uploadTree` uploads every file that a walk through
a directory comes to, each by its own path. A walk that cannot be finished uploads nothing.
-/

namespace DavCourier.Transfer

open Http

/-- The request that stores a content. -/
def storeRequest (url : String) (content : Bytes) : Request :=
  { method := .put
    url := url
    headers := [("Content-Type", "application/octet-stream")]
    body := some content }

/-- Stores a content where its collection is. -/
def putContent (r : Repository) (p : ResourcePath) (content : Bytes) :
    Dialogue (Except Failure Unit) :=
  (Dialogue.send (storeRequest (r.url p) content)).map fun answer =>
    match answer with
    | .error fault => .error (.ofTransport fault)
    | .ok response => putOutcome response.status (r.url p) response.status.isSuccess

/-- Stores a content after making sure of its collection. -/
def store (r : Repository) (p : ResourcePath) (content : Bytes) :
    Dialogue (Except Failure Unit) :=
  if p.isRoot then .done (.error .noName)
  else
    (ensureCollection r p.parent).bind fun result =>
      match result with
      | .error failure => .done (.error failure)
      | .ok () => putContent r p content

/-- The content of a file to upload. -/
def readSource (disk : Local.Disk) (source : String) : Except Failure Bytes :=
  match disk.read source.toList with
  | .ok content => .ok content
  | .error .notFound => .error (.sourceMissing source)
  | .error fault => .error (.sourceUnreadable source fault)

/-- Stores the content of a file. -/
def upload (r : Repository) (disk : Local.Disk) (source : String) (p : ResourcePath) :
    Dialogue (Except Failure Unit) :=
  if p.isRoot then .done (.error .noName)
  else
    match readSource disk source with
    | .error failure => .done (.error failure)
    | .ok content => store r p content

/-- Dialogues one after the other, up to the first failure. -/
def inOrder : List (Dialogue (Except Failure Unit)) → Dialogue (Except Failure Unit)
  | [] => .done (.ok ())
  | d :: ds =>
    d.bind fun result =>
      match result with
      | .error failure => .done (.error failure)
      | .ok () => inOrder ds

/-- Stores the content of a file that names lead to from a directory, where the same names lead
from a destination. -/
def uploadBelow (r : Repository) (disk : Local.Disk) (source : String)
    (destination : ResourcePath) (names : Local.Place) : Dialogue (Except Failure Unit) :=
  upload r disk (String.ofList (Local.pathBelow source.toList names))
    (destination.resolve (Text.join '/' names))

/-- Stores all files of a directory below a destination, in the order of a walk. The result is
their number. -/
def uploadTree (r : Repository) (disk : Local.Disk) (source : String)
    (destination : ResourcePath) : Dialogue (Except Failure Nat) :=
  match disk.follow source.toList with
  | .ok (.directory place) =>
    match disk.walk source.toList place with
    | .error (path, fault) => .done (.error (.treeUnreadable source (String.ofList path) fault))
    | .ok files =>
      (inOrder (files.map (uploadBelow r disk source destination))).map fun result =>
        result.map fun () => files.length
  | _ => .done (.error (.sourceNotDirectory source))

end DavCourier.Transfer
