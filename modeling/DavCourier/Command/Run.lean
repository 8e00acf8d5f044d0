import DavCourier.Command.Line
import DavCourier.Text.Json
import DavCourier.Transfer.Upload
import DavCourier.Transfer.Download
import DavCourier.Transfer.Listing
import DavCourier.Transfer.Inquiry

/-!
# Carrying out a command

`Invocation.run` is the dialogue of a command with a server : it ends with the disk, what
the user reads, and whether the command succeeded.
-/

namespace DavCourier.Command

open Transfer Text

/-- Why a command did not succeed. -/
inductive Trouble where
  | transfer (failure : Failure)
  | exchange (fault : ExchangeFault)
  /-- What was asked for is not there. -/
  | absent (resource : String)
  | noReport (url : String)
  | badDepth (text : String)
  deriving DecidableEq, Repr

/-- The trouble in words. -/
def Trouble.message : Trouble → String
  | transfer failure => failure.message
  | exchange fault => fault.message
  | absent resource => s!"{resource} does not exist"
  | noReport url => s!"No DAV multistatus returned for {url}"
  | badDepth text => Dav.Depth.refusal text

/-- What a command leaves : the disk, the output, and its success. -/
structure Outcome where
  disk : Local.Disk
  output : String := ""
  result : Except Trouble Unit := .ok ()

/-- The end of a command that printed a line. -/
def printed (disk : Local.Disk) (line : String) : Outcome :=
  { disk := disk, output := line ++ "\n" }

/-- The end of a command that failed. -/
def failed (disk : Local.Disk) (trouble : Trouble) : Outcome :=
  { disk := disk, result := .error trouble }

/-- The end of a command that prints what it got, if it got it. -/
def conclude {α : Type} (disk : Local.Disk) (print : α → Outcome) :
    Except Failure α → Outcome
  | .ok a => print a
  | .error failure => failed disk (.transfer failure)

/-- A resource of a report. -/
def resourceBlock (r : Dav.Resource) : Json.Block :=
  Json.object
    [("href", Json.text r.href), ("is_collection", Json.truth r.isCollection),
      ("content_type", Json.optional r.contentType), ("etag", Json.optional r.etag),
      ("creation_date", Json.optional r.creationDate),
      ("last_modified", Json.optional r.lastModified),
      ("status", Json.number r.status.toNat)]

/-- A listing as the user reads it. -/
def listingText (json : Bool) (names : List String) : String :=
  if json then Json.array (names.map Json.text) 0 ++ "\n"
  else String.join (names.map (· ++ "\n"))

/-- The address to probe. With members it is the one of a collection. -/
def probeUrl (r : Repository) (p : ResourcePath) (depth : Dav.Depth) : String :=
  match depth with
  | .zero => r.url p
  | .one | .infinity => r.collectionUrl p

/-- What the finding of a probe prints. -/
def probed (disk : Local.Disk) (url : String) : Except ExchangeFault Finding → Outcome
  | .error fault => failed disk (.exchange fault)
  | .ok finding =>
    match finding.report with
    | none => failed disk (.noReport url)
    | some report => printed disk (Json.array (report.entries.map resourceBlock) 0)

/-- Carries a command out. -/
def Invocation.run (r : Repository) (disk : Local.Disk) : Invocation → Dialogue Outcome
  | .put file resource =>
    let p := ResourcePath.ofString resource
    (upload r disk file p).map <| conclude disk fun () =>
      printed disk s!"Uploaded {file} to {r.url p}"
  | .putDirectory directory destination =>
    let p := ResourcePath.ofString destination
    (uploadTree r disk directory p).map <| conclude disk fun count =>
      printed disk s!"Uploaded {count} files from {directory} to {r.collectionUrl p}"
  | .get resource destination =>
    (download r disk (ResourcePath.ofString resource) destination).map fun (disk, result) =>
      conclude disk (fun () => printed disk s!"Downloaded {resource} to {destination}") result
  | .list directory json =>
    (Transfer.list r (ResourcePath.ofString directory)).map <| conclude disk fun names =>
      { disk := disk, output := listingText json names }
  | .check resource =>
    (resourceExists r (ResourcePath.ofString resource)).map <| conclude disk fun present =>
      if present then printed disk "true"
      else { printed disk "false" with result := .error (.absent resource) }
  | .make directory =>
    let p := ResourcePath.ofString directory
    (createCollection r p).map <| conclude disk fun () =>
      printed disk s!"Created {r.collectionUrl p}"
  | .probe path text =>
    match Dav.Depth.ofString? text with
    | none => .done (failed disk (.badDepth text))
    | some depth =>
      let url := probeUrl r (ResourcePath.ofString path) depth
      (Transfer.probe url depth).map (probed disk url)

end DavCourier.Command
