import DavCourier.Http.Message
import DavCourier.Local.Disk
import DavCourier.Repository.Settings

/-!
# Failures of transfers

An `ExchangeFault` is the failure of one request; a `Failure` is that of a whole transfer,
with its cause. `Failure.kind` sorts failures, and `Failure.ofStatus` and `putOutcome`
read them from the status of an answer.
-/

namespace DavCourier.Transfer

open Http

/-- Why a request for a report led to none. -/
inductive ExchangeFault where
  | malformed (url details : String)
  | transport (fault : TransportFault)
  deriving DecidableEq, Repr

/-- The wording of the failure of a request. -/
def ExchangeFault.message : ExchangeFault → String
  | malformed url details => s!"Unable to parse multistatus from '{url}': {details}"
  | transport fault => fault.message

/-- The sorts of failures. -/
inductive Kind where
  | missing
  | denied
  | existing
  | failed
  | misconfigured
  deriving DecidableEq, Repr

/-- A name for the sort that does not change. -/
def Kind.code : Kind → String
  | missing => "RESOURCE_DOES_NOT_EXIST"
  | denied => "AUTHORIZATION_FAILED"
  | existing => "ALREADY_EXISTS"
  | failed => "TRANSFER_FAILED"
  | misconfigured => "CONFIGURATION_INVALID"

/-- What a user may do about the sort. -/
def Kind.suggestion? : Kind → Option String
  | denied => some "Check the repository credentials and the server's access rules"
  | misconfigured => some "Fix the repository URL or credentials and try again"
  | existing => some "Remove the existing collection or choose another path"
  | missing | failed => none

/-- Why a transfer failed. -/
inductive Failure where
  /-- The server knows nothing at the address. -/
  | notFound (url : String)
  /-- The server takes no body without a length. -/
  | lengthRequired (url : String)
  /-- A file is where a collection was to be listed. -/
  | notListable (url : String)
  | unauthorized (url : String)
  | forbidden (url : String)
  | proxyUnauthorized (url : String)
  /-- A new collection is there already. -/
  | alreadyExists (url : String)
  /-- The server answered with a status that has no meaning here. -/
  | refused (url : String) (status : Status)
  /-- A file is where a collection around a new file has to be. -/
  | occupied (url : String)
  /-- A collection around a new file could not be had. -/
  | collectionRefused (url : String) (status : Status)
  /-- A collection around a new file has no place. -/
  | parentMissing (url : String)
  /-- A new collection has no place. -/
  | noParent (url : String)
  /-- The root of the repository was to be a file. -/
  | noName
  | sourceMissing (path : String)
  | sourceUnreadable (path : String) (fault : Local.Fault)
  | sourceNotDirectory (path : String)
  /-- A directory of the tree to upload cannot be opened. -/
  | treeUnreadable (root path : String) (fault : Local.Fault)
  | directoryRefused (path : String) (fault : Local.Fault)
  | writeRefused (path : String) (fault : Local.Fault)
  | exchange (fault : ExchangeFault)
  | settings (fault : SettingsFault)
  deriving DecidableEq, Repr

namespace Failure

/-- The sort of a failure. -/
def kind : Failure → Kind
  | notFound _ | lengthRequired _ | notListable _ => .missing
  | unauthorized _ | forbidden _ | proxyUnauthorized _ => .denied
  | alreadyExists _ => .existing
  | settings _ => .misconfigured
  | _ => .failed

/-- The failure in words, without its sort. -/
def details : Failure → String
  | notFound url => s!"File: {url} does not exist"
  | lengthRequired url => s!"Transfer failed, server requires Content-Length: {url}"
  | notListable url => s!"Destination {url} exists but is not a WebDAV collection (directory)"
  | unauthorized url => s!"Not authorized: {url}"
  | forbidden url => s!"Access denied to: {url}"
  | proxyUnauthorized url => s!"Not authorized by proxy: {url}"
  | alreadyExists url => url
  | refused url status =>
    s!"Failed to transfer file: {url}. Return code is: {status.describe}"
  | occupied url =>
    s!"Destination path exists and is not a WebDAV collection (directory): {url}"
  | collectionRefused url status =>
    s!"Failed to create destination WebDAV collection (directory): {url}. Return code is: {status.describe}"
  | parentMissing url =>
    s!"Failed to create destination WebDAV collection (directory): {url}. Parent collection is missing (409 Conflict)"
  | noParent url =>
    s!"Failed to create WebDAV collection (directory): {url}. Parent collection is missing (409 Conflict)"
  | noName => "Resource name cannot be empty"
  | sourceMissing path => s!"Specified source file does not exist: {path}"
  | sourceUnreadable path _ => s!"Unable to read source file: {path}"
  | sourceNotDirectory path =>
    s!"Specified source directory does not exist or is not a directory: {path}"
  | treeUnreadable root _ _ => s!"Unable to read {root}"
  | directoryRefused path _ => s!"Unable to create directory {path}"
  | writeRefused path _ => s!"Unable to write {path}"
  | exchange (.malformed url _) => s!"Could not read response body from '{url}'"
  | exchange (.transport fault) => fault.message
  | settings fault => fault.message

/-- The failure in words. -/
def message (failure : Failure) : String :=
  match failure.kind with
  | .missing => s!"Resource does not exist: {failure.details}"
  | .denied => s!"Authorization failed: {failure.details}"
  | .existing => s!"Collection already exists: {failure.details}"
  | .failed => s!"Transfer failed: {failure.details}"
  | .misconfigured => s!"Invalid repository configuration: {failure.details}"

/-- The failure of something else that led to this one, in words. -/
def source? : Failure → Option String
  | sourceUnreadable _ fault | directoryRefused _ fault | writeRefused _ fault =>
    some fault.message
  | treeUnreadable _ path fault => some s!"IO error for operation on {path}: {fault.message}"
  | exchange fault => some fault.message
  | _ => none

/-- The failure that a status without success stands for. -/
def ofStatus (status : Status) (url : String) : Failure :=
  if status.code = 401 then .unauthorized url
  else if status.code = 403 then .forbidden url
  else if status.code = 407 then .proxyUnauthorized url
  else if status.code = 404 then .notFound url
  else .refused url status

/-- Whether the status says that the user may not. -/
def isDenial (status : Status) : Bool :=
  status.code = 401 || status.code = 403 || status.code = 407

/-- The failure that a status stands for on the way to a collection. -/
def ofCollectionStatus (status : Status) (url : String) : Failure :=
  if isDenial status then ofStatus status url else .collectionRefused url status

end Failure

/-- What the status for a new file stands for. Of codes without a meaning of their own only
those are fine that the transport takes for success. -/
def putOutcome (status : Status) (url : String) (success : Bool) : Except Failure Unit :=
  if status.code = 200 ∨ status.code = 201 then .ok ()
  else if Failure.isDenial status then .error (.ofStatus status url)
  else if status.code = 404 then .error (.notFound url)
  else if status.code = 411 then .error (.lengthRequired url)
  else if success then .ok ()
  else .error (.ofStatus status url)

end DavCourier.Transfer
