import DavCourier.Transfer.Probe

/-!
# Listings

`list` gives the names of the members of a collection. `membersAmong` reads them from the
entries of a report, in whatever order these come.
-/

namespace DavCourier.Transfer

open Http Dav

/-- Whether an entry is about the collection itself. -/
def isSelf (r : Repository) (p : ResourcePath) (entry : Resource) : Bool :=
  r.pathOfHref entry.href = p

/-- The name of a member, with a slash after that of a collection. -/
def memberName? (r : Repository) (p : ResourcePath) (entry : Resource) : Option String :=
  let path := r.pathOfHref entry.href
  if path = p ∨ path.isRoot then none
  else some (String.ofList (if entry.isCollection then path.name ++ ['/'] else path.name))

/-- The names of the members in order. There are none if the collection is a file. -/
def membersAmong (r : Repository) (p : ResourcePath) (entries : List Resource) :
    Option (List String) :=
  if entries.any fun e => isSelf r p e && !e.isCollection then none
  else some ((entries.filterMap (memberName? r p)).mergeSort fun a b => a ≤ b)

/-- The names of the members of a collection. -/
def list (r : Repository) (p : ResourcePath) : Dialogue (Except Failure (List String)) :=
  let url := r.collectionUrl p
  (probe url .one).map fun result =>
    match result with
    | .error fault => .error (.exchange fault)
    | .ok finding =>
      if finding.isPresent then
        match finding.report with
        | none => .ok []
        | some report =>
          match membersAmong r p report.entries with
          | some names => .ok names
          | none => .error (.notListable url)
      else .error (.ofStatus finding.status url)

end DavCourier.Transfer
