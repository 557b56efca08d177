import ServerSetup.Settings
import ServerSetup.Rights
import ServerSetup.Catalog
import ServerSetup.Text.Truth

/-!
# Summaries

The lines in which the program shows what it has found: installations, services, the reading of one
service record, and its own configuration.
-/

namespace ServerSetup.Console

open CommandLine

/-! ### Installations and services -/

/-- The line of an installation, with a star before the current one. -/
def installationLine (selected : Option Installation) (i : Installation) : String :=
  let mark := if selected.any (·.home.same i.home) then "* " else "  "
  let servers := if i.servers.isEmpty then ""
    else " servers=[" ++ String.intercalate "," i.servers ++ "]"
  mark ++ i.home.shown ++ servers

/-- The lines of the installations, or one line that says that there are none. -/
def installationLines (selected : Option Installation) (is_ : List Installation) : List String :=
  if is_.isEmpty then ["未发现 Resin 安装"] else is_.map (installationLine selected)

/-- The lines of a service. -/
def serviceLines (d : ServiceProfile) : List String :=
  [d.shown, "    home = " ++ d.home, "    args = " ++ d.argumentLine]

/-! ### One service record -/

/-- The home of a service as its arguments state it: the one that they name, or else the directory
of the executable, whether or not there is an installation. -/
def statedHome (args : Arguments) : String :=
  ((args.value .home).or (Path.above? ((args.value .exe).getD ""))).getD ""

/-- The service that a record describes, with empty texts for what the record does not give. -/
def statedService (args : Arguments) : ServiceProfile :=
  .ofArguments ((args.value .name).getD "") (statedHome args) args

/-- The line of the server selection. -/
def serverLine : ServerChoice → String
  | .fixed id => "server = " ++ id
  | .dynamic address => "dynamic_server = " ++ address
  | .unspecified => "server = (default)"

/-- The line of a port. -/
def portLine (label : String) (port : Option Port) : String :=
  label ++ " = " ++ match port with
    | some p => p.toNat.repr
    | none => "(unset)"

/-- What a service record says, and its arguments in their usual form. -/
def recordLines (record : String) : List String :=
  let args := Arguments.parse record
  let d := statedService args
  ["exe = " ++ (args.value .exe).getD "",
    "service = " ++ Text.truth args.service,
    "name = " ++ d.name,
    "home = " ++ d.home,
    serverLine d.server,
    portLine "debug_port" d.debugPort,
    portLine "jmx_port" d.jmxPort,
    portLine "watchdog_port" d.watchdogPort] ++
    d.extraArguments.toList.map ("extra = " ++ ·) ++
    ["args = " ++ d.argumentLine]

/-! ### The program itself -/

/-- The line about the rights of the program. -/
def rightsLine : String := "admin = " ++ Text.truth isAdministrator

/-- The lines about a configuration. -/
def settingsLines (settings : Settings) (env : Environment) : List String :=
  ["launcher = " ++ settings.product.launcher,
    "filter = " ++ settings.filter.name ++ " (" ++ settings.filter.binary ++ ")",
    "state_dir = " ++ match settings.rollback.resolveDirectory env with
      | .ok directory => directory
      | .error e => "(unavailable: " ++ e.message ++ ")",
    "rollback = persist:" ++ Text.truth settings.rollback.keepStates ++
      " load_persisted:" ++ Text.truth settings.rollback.readStates ++
      " synthetic_default:" ++ Text.truth settings.rollback.standIn,
    "transition_timeout = " ++ match settings.waiting.timeoutSecs with
      | some secs => secs.toNat.repr ++ "s"
      | none => "(none)"]

end ServerSetup.Console
