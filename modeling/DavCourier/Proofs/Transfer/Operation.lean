import DavCourier.Proofs.Transfer.Transcript
import DavCourier.Transfer.Download
import DavCourier.Transfer.Inquiry
import DavCourier.Transfer.Listing
import DavCourier.Transfer.Upload

/-!
# What a session is asked for

An `Operation` is one thing that a session is asked for, with its arguments as they are written.
Its `dialogue` has no more than its success as the result, and says what the operation says, as
another result changes nothing that is said (`transcript_map`).
-/

namespace DavCourier.Transfer

open Http

/-- One thing that a session is asked for. -/
inductive Operation where
  | upload (source name : String)
  | uploadTree (source name : String)
  | ensureCollection (name : String)
  | createCollection (name : String)
  | download (name destination : String)
  | downloadIfNewer (name destination : String) (t : Calendar.Instant)
  | list (name : String)
  | resourceExists (name : String)
  | collectionExists (name : String)
  | isCapable

/-- Whether there is a result. -/
def success {α : Type} (result : Except Failure α) : Except Failure Unit :=
  result.map fun _ => ()

/-- What an operation says, and whether it succeeds. -/
def Operation.dialogue (r : Repository) (disk : Local.Disk) :
    Operation → Dialogue (Except Failure Unit)
  | upload source name => Transfer.upload r disk source (.ofString name)
  | uploadTree source name => (Transfer.uploadTree r disk source (.ofString name)).map success
  | ensureCollection name => Transfer.ensureCollection r (.ofString name)
  | createCollection name => Transfer.createCollection r (.ofString name)
  | download name destination =>
    (Transfer.download r disk (.ofString name) destination).map Prod.snd
  | downloadIfNewer name destination t =>
    (Transfer.downloadIfNewer r disk (.ofString name) destination t).map fun outcome =>
      success outcome.2
  | list name => (Transfer.list r (.ofString name)).map success
  | resourceExists name => (Transfer.resourceExists r (.ofString name)).map success
  | collectionExists name => (Transfer.collectionExists r (.ofString name)).map success
  | isCapable => (Transfer.isCapable r).map success

end DavCourier.Transfer
