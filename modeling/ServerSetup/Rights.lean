import ServerSetup.Environment

/-!
# Administrator rights

Commands that change the machine ask for administrator rights first, so that a lack of them is
reported plainly. A test environment may waive the check by a variable.
-/

namespace ServerSetup

/-- Whether the program runs with administrator rights. Outside Windows it never does. -/
def isAdministrator : Bool := false

/-- Fails unless an action may change the machine. -/
def requireAdministrator (env : Environment) (action : String) : Except Fault Unit :=
  if env.get? "RESIN_SETUP_ALLOW_NON_ADMIN" = some "1" || isAdministrator then .ok ()
  else .error (.said (action ++ " 需要管理员权限，请以管理员身份运行"))

/-- Why there is no host outside Windows. -/
def hostUnavailable : Fault := .said "服务与注册表操作仅支持 Windows"

end ServerSetup
