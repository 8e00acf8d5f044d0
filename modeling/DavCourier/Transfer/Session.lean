import DavCourier.Http.Outgoing
import DavCourier.Transfer.Fault
import DavCourier.Repository.Basic

/-!
# Sessions

A session is held with the repository of settings that can be used, and for the user that
they name.
-/

namespace DavCourier

/-- Who asks, if settings say so. -/
def Settings.credentials? (s : Settings) : Option Http.Credentials :=
  match s.username, s.password with
  | some user, some password => some ⟨user, password⟩
  | _, _ => none

namespace Transfer

/-- The repository of settings, if they can be used. -/
def openSession (s : Settings) : Except Failure Repository :=
  match s.validate with
  | .ok () => .ok (Repository.ofSettings s)
  | .error fault => .error (.settings fault)

end Transfer

end DavCourier
