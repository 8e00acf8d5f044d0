import DavCourier.Http.Message

/-!
# Creating collections

What a server answers when it is asked for a new collection.
-/

namespace DavCourier.Dav

/-- The outcome of asking for a new collection. -/
inductive Creation where
  | created
  /-- Something is there already. -/
  | alreadyExists
  /-- The collection around it is missing. -/
  | conflict
  | failed (status : Http.Status)
  deriving DecidableEq, Repr

/-- The outcome that a status stands for. -/
def Creation.ofStatus (status : Http.Status) : Creation :=
  if status.code = 201 then .created
  else if status.code = 405 then .alreadyExists
  else if status.code = 409 then .conflict
  else .failed status

/-- The word for the outcome. -/
def Creation.word : Creation → String
  | created => "created"
  | alreadyExists => "already_exists"
  | conflict => "conflict"
  | failed _ => "failed"

end DavCourier.Dav
