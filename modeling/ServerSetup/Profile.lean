import ServerSetup.CommandLine.Arguments
import ServerSetup.Text.Decimal

/-!
# Service profiles

A service profile is the start configuration of one managed service. It is written to the service
record as a line of arguments in a fixed order, and is rebuilt from the arguments read back.
-/

namespace ServerSetup

open CommandLine

/-- A port as a profile stores it. Zero counts as unset when it is written. -/
abbrev Port := UInt16

/-- The port that a text gives: blanks around it are dropped, and a text that is no number from 1 to
65535 gives none. -/
def Port.ofText? (text : String) : Option Port :=
  ((Text.boundedUnsigned? 65535 (Text.trim text.toList)).filter (0 < ·)).map UInt16.ofNat

/-- Which server of an installation a service runs. The two kinds exclude each other. -/
inductive ServerChoice
  /-- The one that the configuration file names. -/
  | unspecified
  /-- A server with a fixed id. -/
  | fixed (id : String)
  /-- A server that joins under an address. -/
  | dynamic (address : String)
deriving DecidableEq

/-- A password. It is handed to the service manager and never read back or shown. -/
structure Password where
  secret : String
deriving DecidableEq

/-- The text that stands for a password wherever one would be shown. -/
def Password.shown (_ : Password) : String := "Password(******)"

/-- The start configuration of a service. The name is its identity. -/
structure ServiceProfile where
  name : String
  home : String
  executable : Option String := none
  rootDirectory : Option String := none
  logDirectory : Option String := none
  confFile : Option String := none
  runAsUser : Option String := none
  password : Option Password := none
  isPreview : Bool := false
  javaHome : Option String := none
  server : ServerChoice := .unspecified
  debugPort : Option Port := none
  jmxPort : Option Port := none
  watchdogPort : Option Port := none
  extraArguments : Option String := none
deriving DecidableEq

namespace ServiceProfile

/-- An empty text counts as unset. -/
def ifNonEmpty (value : Option String) : Option String := value.filter (! ·.isEmpty)

/-- The server that arguments select. A fixed id wins over an address. -/
def serverOf (args : Arguments) : ServerChoice :=
  match ifNonEmpty (args.value .server), ifNonEmpty (args.value .dynamicServer) with
  | some id, _ => .fixed id
  | none, some address => .dynamic address
  | none, none => .unspecified

/-- The profile of a service with a known name and home, from its arguments. -/
def ofArguments (name home : String) (args : Arguments) : ServiceProfile where
  name := name
  home := home
  executable := args.value .exe
  rootDirectory := args.value .rootDirectory
  logDirectory := args.value .logDirectory
  confFile := args.value .conf
  runAsUser := args.value .user
  isPreview := args.preview
  javaHome := args.value .javaHome
  server := serverOf args
  debugPort := (args.value .debugPort).bind Port.ofText?
  jmxPort := (args.value .jmxPort).bind Port.ofText?
  watchdogPort := (args.value .watchdogPort).bind Port.ofText?
  extraArguments := ifNonEmpty args.extra

/-- The fixed server id, if that is what the profile selects. -/
def fixedServer? (d : ServiceProfile) : Option String :=
  match d.server with
  | .fixed id => some id
  | _ => none

/-- A flag with its value, quoted if needed; nothing for an unset value. -/
def valuePart (flag : ValueFlag) (value : Option String) : List String :=
  match value with
  | some v => [flag.text, asOneToken v]
  | none => []

/-- A flag with a port; nothing for a port that is unset or zero. -/
def portPart (flag : ValueFlag) (port : Option Port) : List String :=
  match port with
  | some p => if p.toNat = 0 then [] else [flag.text, p.toNat.repr]
  | none => []

/-- The flag that selects the server; nothing for an empty id or address. -/
def serverPart : ServerChoice → List String
  | .unspecified => []
  | .fixed id => valuePart .server (ifNonEmpty (some id))
  | .dynamic address => valuePart .dynamicServer (ifNonEmpty (some address))

/-- The pieces of the argument line, in their fixed order. -/
def argumentParts (d : ServiceProfile) : List String :=
  [Flag.service.text] ++ valuePart .name (some d.name) ++ valuePart .conf d.confFile ++
    valuePart .home (some d.home) ++ valuePart .rootDirectory d.rootDirectory ++
    valuePart .logDirectory d.logDirectory ++ serverPart d.server ++
    (if d.isPreview then [Flag.preview.text] else []) ++
    portPart .debugPort d.debugPort ++ portPart .jmxPort d.jmxPort ++
    portPart .watchdogPort d.watchdogPort ++ (ifNonEmpty d.extraArguments).toList

/-- The argument line that is written to the service record. -/
def argumentLine (d : ServiceProfile) : String :=
  String.intercalate " " d.argumentParts

/-- The text by which a service is shown. -/
def shown (d : ServiceProfile) : String :=
  match d.server with
  | .fixed id => d.name ++ " [-server " ++ id ++ "]"
  | .dynamic address => d.name ++ " [-dynamic-server " ++ address ++ "]"
  | .unspecified => d.name ++ " [default server]"

end ServiceProfile

end ServerSetup
