import DavCourier.Url.Basic

/-!
# Settings of a repository

`Settings` say where a repository is and who asks. `Settings.validate` refuses those that
no session can use, with the first `SettingsFault` in a fixed order.
-/

namespace DavCourier

/-- Where a repository is, and who asks. -/
structure Settings where
  repositoryUrl : String
  username : Option String := none
  password : Option String := none
  timeoutSeconds : UInt64 := 60
  deriving DecidableEq, Repr

/-- Why settings are of no use. -/
inductive SettingsFault where
  | noUrl
  | notHttp (url : String)
  | badUrl (url : String) (fault : Url.Fault)
  | halfCredentials
  | noTime
  deriving DecidableEq, Repr

/-- The wording of a fault. -/
def SettingsFault.message : SettingsFault → String
  | noUrl => "Repository URL cannot be empty"
  | notHttp url => s!"Repository URL must start with http:// or https://: {url}"
  | badUrl url fault => s!"Invalid repository URL '{url}': {fault.message}"
  | halfCredentials => "Username and password must be provided together"
  | noTime => "Timeout must be at least one second"

/-- The text after `start`, if it starts so. -/
def dropStart? (start cs : List Char) : Option (List Char) :=
  if start.isPrefixOf cs then some (cs.drop start.length) else none

/-- The text without slashes at its end. -/
def dropSlashes (cs : List Char) : List Char :=
  Text.dropTrailing (· = '/') cs

namespace Settings

/-- What may stand before the address of a repository. -/
def marker : List Char := "dav:".toList

/-- The address of the repository without the marker, blanks around it, and slashes at its
end. -/
def urlChars (s : Settings) : List Char :=
  let url := Text.trimChars s.repositoryUrl.toList
  dropSlashes ((dropStart? marker url).getD url)

/-- The address of the repository without the marker, blanks around it, and slashes at its
end. -/
def url (s : Settings) : String :=
  String.ofList s.urlChars

/-- The path of the repository on its server, without slashes at its end. -/
def basePathChars (s : Settings) : List Char :=
  match Url.parse s.url with
  | .ok u => dropSlashes u.path
  | .error _ => []

/-- The path of the repository on its server, without slashes at its end. -/
def basePath (s : Settings) : String :=
  String.ofList s.basePathChars

/-- Whether the address has a scheme that a session can use. -/
def isHttp (cs : List Char) : Bool :=
  "http://".toList.isPrefixOf cs || "https://".toList.isPrefixOf cs

/-- Accepts the settings that a session can use. -/
def validate (s : Settings) : Except SettingsFault Unit :=
  if s.urlChars.isEmpty then .error .noUrl
  else if !isHttp s.urlChars then .error (.notHttp s.url)
  else
    match Url.parse s.url with
    | .error fault => .error (.badUrl s.url fault)
    | .ok _ =>
      if s.username.isSome != s.password.isSome then .error .halfCredentials
      else if s.timeoutSeconds = 0 then .error .noTime
      else .ok ()

end Settings

end DavCourier
