import ServerSetup.Account
import ServerSetup.Rollback.Identifier
import ServerSetup.Rollback.Moment

/-!
# Rollback states

A rollback state records what the registration of a service changed, so that the service can be
unregistered by the same account of it later. It never holds a password.
-/

namespace ServerSetup

/-- The kind of account that a registration used. -/
inductive AccountClass
  | localSystem
  | user
deriving DecidableEq

/-- What the registration of a service changed. -/
structure Rollback.State where
  /-- The version of the format. -/
  schemaVersion : UInt32
  id : Identifier
  serviceName : String
  account : AccountClass
  /-- The name of the account, where it is a user's. -/
  accountName : Option String
  /-- Whether the service was there before, and so has to stay. -/
  alreadyRegistered : Bool
  /-- Whether the event source of the service was there before, and so has to stay. -/
  eventLogExisted : Bool
  /-- Whether the registration was completed. -/
  installed : Bool
  recordedAt : Moment
deriving DecidableEq

namespace Rollback.State

/-- The version of the format in which states are written. -/
def currentVersion : UInt32 := 1

/-- The state of a new registration. -/
def new (id : Identifier) (now : Moment) (service : String) (account : Account) :
    Rollback.State where
  schemaVersion := currentVersion
  id := id
  serviceName := service
  account := match account with
    | .localSystem => .localSystem
    | .user _ _ => .user
  accountName := match account with
    | .localSystem => none
    | .user name _ => some name
  alreadyRegistered := false
  eventLogExisted := false
  installed := true
  recordedAt := now

/-- The state that stands in for one that was not written: a completed registration under the system
account, of a service that was not there before, whose event source has to stay. -/
def synthetic (id : Identifier) (now : Moment) (service : String) : Rollback.State :=
  { new id now service .localSystem with eventLogExisted := true }

end Rollback.State

end ServerSetup
