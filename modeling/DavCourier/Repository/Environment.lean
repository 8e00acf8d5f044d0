import DavCourier.Repository.EnvFile
import DavCourier.Repository.Settings

/-!
# Settings from variables
-/

namespace DavCourier

/-- The largest number of seconds. -/
def maxSeconds : Nat := Nat.pow 2 64 - 1

/-- A variable that is not empty. -/
def Environment.nonEmpty? (env : Environment) (name : String) : Option String :=
  (env.get? name).bind fun s => if s.isEmpty then none else some s

/-- The settings that variables give. Empty names and passwords count as none, and a time
that is no number as the usual one. -/
def Settings.ofEnvironment? (env : Environment) : Option Settings :=
  (env.get? "DAV_REPOSITORY_URL").map fun url =>
    { repositoryUrl := url
      username := env.nonEmpty? "DAV_USERNAME"
      password := env.nonEmpty? "DAV_PASSWORD"
      timeoutSeconds :=
        match (env.get? "DAV_TIMEOUT_SECONDS").bind fun s =>
            Numeral.decimal? maxSeconds s.toList with
        | some n => UInt64.ofNat n
        | none => 60 }

/-- The wording for variables that give no settings. -/
def missingUrl : String := "DAV_REPOSITORY_URL must be set"

end DavCourier
