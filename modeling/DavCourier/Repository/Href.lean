import DavCourier.Repository.Settings

/-!
# References on a server

A server spells the reference of a resource as a path or as a whole address, with any
characters escaped, and with or without a slash at its end. `comparable` takes these
differences away.
-/

namespace DavCourier.Href

/-- What follows the authority of an address; a slash if nothing does. -/
def afterAuthority (cs : List Char) : List Char :=
  match cs.dropWhile (· ≠ '/') with
  | [] => ['/']
  | path => path

/-- The path of a reference, which may be a whole address. -/
def path (href : List Char) : List Char :=
  match dropStart? "http://".toList href with
  | some rest => afterAuthority rest
  | none =>
    match dropStart? "https://".toList href with
    | some rest => afterAuthority rest
    | none => href

/-- The form of a reference that all its spellings share. -/
def comparable (href : List Char) : List Char :=
  dropSlashes (Percent.decode (path href))

end DavCourier.Href
