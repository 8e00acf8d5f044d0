import DavCourier.Repository.Href
import DavCourier.ResourcePath

/-!
# Addresses of resources

A `Repository` is known by its address and by its path on the server. It turns the path of
a resource into the address of a request (`url`, `collectionUrl`) and into a reference
(`href`), and reads references back (`pathOfHref`).
-/

namespace DavCourier

/-- The place of a repository. -/
structure Repository where
  /-- The address, without slashes at its end. -/
  baseUrl : List Char
  /-- The path on the server, without slashes at its end. -/
  basePath : List Char
  deriving DecidableEq, Repr

namespace Repository

/-- The place that settings name. -/
def ofSettings (s : Settings) : Repository :=
  ⟨s.urlChars, s.basePathChars⟩

/-- The segments of a path, escaped, with a slash before each. -/
def escaped (p : ResourcePath) : List Char :=
  p.segments.flatMap fun s => '/' :: Percent.encode s

/-- The address of a resource. -/
def url (r : Repository) (p : ResourcePath) : String :=
  String.ofList (r.baseUrl ++ escaped p)

/-- The address of a collection, which ends with a slash. -/
def collectionUrl (r : Repository) (p : ResourcePath) : String :=
  String.ofList (r.baseUrl ++ escaped p ++ ['/'])

/-- The reference of a resource; the one of the root ends with a slash. -/
def hrefChars (r : Repository) (p : ResourcePath) : List Char :=
  if p.isRoot then r.basePath ++ ['/'] else r.basePath ++ escaped p

/-- The reference of a resource; the one of the root ends with a slash. -/
def href (r : Repository) (p : ResourcePath) : String :=
  String.ofList (r.hrefChars p)

/-- The part of a path on the server that is below `base`, or the whole path if it is not. -/
def below (base path : List Char) : List Char :=
  match dropStart? base path with
  | some [] => []
  | some ('/' :: rest) => '/' :: rest
  | _ => path

/-- The path of the resource that a reference names. -/
def pathOfHref (r : Repository) (href : String) : ResourcePath :=
  ResourcePath.ofChars
    (below (Percent.decode r.basePath) (Percent.decode (Href.path href.toList)))

end Repository

end DavCourier
