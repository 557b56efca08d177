import ServerSetup.Fault
import ServerSetup.Path.Join

/-!
# The environment

Environment variables, and the directories whose place they give.
-/

namespace ServerSetup

/-- The environment variables that are set. -/
structure Environment where
  bindings : List (String × String)

namespace Environment

/-- The value of a variable, if it is set. -/
def get? (env : Environment) (name : String) : Option String := env.bindings.lookup name

/-- The value of a variable that has to be set. -/
def require (env : Environment) (name : String) : Except Fault String :=
  match env.get? name with
  | some value => .ok value
  | none => .error ((Fault.said "environment variable not found").whileDoing
      ("读取 " ++ name ++ " 环境变量失败"))

/-- The directory of this product below the common program data. -/
def productDirectory (env : Environment) : Except Fault String :=
  (env.require "ProgramData").map fun base => Path.join base "Caucho"

/-- The directory of the rollback files, where the configuration names no other. -/
def stateDirectory (env : Environment) : Except Fault String :=
  env.productDirectory.map fun base => Path.join base "services"

end Environment

end ServerSetup
