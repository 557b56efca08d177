import ServerSetup.Profile

/-!
# Accounts and requests

The account under which a service runs, what is asked of a registrar, and the record that a
registration leaves.
-/

namespace ServerSetup

/-- The account of a service. -/
inductive Account
  | localSystem
  | user (name : String) (password : String)
deriving DecidableEq

/-- What a registrar is asked to register. -/
structure RegistrationRequest where
  serviceName : String
  displayName : String
  /-- The path of the executable, without arguments. -/
  executable : String
  account : Account
deriving DecidableEq

/-- The record of a service that was just registered: the path of its executable, in quotes if it
contains a space. -/
def executableRecord (executable : String) : String :=
  if executable.toList.contains ' ' then "\"" ++ executable ++ "\"" else executable

end ServerSetup
