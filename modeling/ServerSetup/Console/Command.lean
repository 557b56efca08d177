import ServerSetup.Console.Grammar
import ServerSetup.Profile

/-!
# Commands

What the program can be asked to do, and how that is written on its command line.
-/

namespace ServerSetup.Console

/-- What is wanted for the installation of a service. -/
structure InstallWish where
  name : String
  home : Option String
  executable : Option String
  confFile : Option String
  rootDirectory : Option String
  logDirectory : Option String
  server : ServerChoice
  user : Option String
  password : Option String
  isPreview : Bool
  debugPort : Option Port
  jmxPort : Option Port
  watchdogPort : Option Port
  extraArguments : Option String
  /-- Whether only the record of an existing service is changed. -/
  isUpdate : Bool

/-- A command. -/
inductive Command
  | discover
  | showServices
  /-- Shows what a service record says. -/
  | explain (record : String)
  | install (wish : InstallWish)
  | uninstall (service : String)
  | start (service : String)
  | stop (service : String)
  | restart (service : String)
  | registerFilter (home scripts : Option String)
  | deregisterFilter (scripts : Option String)
  | stopWeb
  | restartWeb
  /-- Shows the configuration and the rights of the program. -/
  | checkUp

/-- A command with the configuration file that it is to use. -/
structure Invocation where
  settingsFile : Option String
  command : Command

/-- The port number in a text, which may have a sign and leading zeros. -/
def portNumber? (text : String) : Option Nat :=
  match text.toList with
  | '-' :: digits => (Text.digits? digits).filter (· = 0)
  | cs => Text.boundedUnsigned? 65535 cs

/-! ### Options -/

/-- The option that asks for help. -/
def helpOption : OptionRule := ⟨"help", some 'h', .stop .help⟩

/-- An option whose value is any text. -/
def textOption (name : String) : OptionRule := ⟨name, none, .value (fun _ => true) false⟩

/-- An option whose value is a path. A path is not empty. -/
def pathOption (name : String) : OptionRule := ⟨name, none, .value (! ·.isEmpty) false⟩

/-- An option whose value is a port. -/
def portOption (name : String) : OptionRule :=
  ⟨name, none, .value (fun text => (portNumber? text).isSome) false⟩

/-- An option without a value. -/
def flagOption (name : String) : OptionRule := ⟨name, none, .flag⟩

/-- The options of an installation. -/
def installOptions : List OptionRule :=
  ["home", "exe", "conf", "root-directory", "log-directory", "server", "dynamic-server", "user",
      "password"].map textOption ++
    [flagOption "preview"] ++
    ["debug-port", "jmx-port", "watchdog-port"].map portOption ++
    [⟨"extra", none, .value (fun _ => true) true⟩, flagOption "update"]

/-- The options in front of the command. The log that the second one makes more detailed is no part
of a command. -/
def frontOptions : List OptionRule :=
  [pathOption "config", ⟨"verbose", some 'v', .flag⟩, ⟨"version", some 'V', .stop .version⟩,
    helpOption]

/-! ### Reading -/

/-- A port that is given and is not zero. -/
def Given.port? (g : Given) (option : String) : Option Port :=
  (((g.value? option).bind portNumber?).filter (0 < ·)).map UInt16.ofNat

/-- The installation that the options ask for. A server has a fixed id or an address, not both, and
a password is that of a user. -/
def InstallWish.ofGiven (name : String) (g : Given) : Except Refusal InstallWish :=
  if g.has "server" && g.has "dynamic-server" || g.has "password" && !g.has "user" then
    .error .usage
  else .ok
    { name := name
      home := g.value? "home"
      executable := g.value? "exe"
      confFile := g.value? "conf"
      rootDirectory := g.value? "root-directory"
      logDirectory := g.value? "log-directory"
      server := match ServiceProfile.ifNonEmpty (g.value? "server"),
          ServiceProfile.ifNonEmpty (g.value? "dynamic-server") with
        | some id, _ => .fixed id
        | none, some address => .dynamic address
        | none, none => .unspecified
      user := g.value? "user"
      password := g.value? "password"
      isPreview := g.has "preview"
      debugPort := g.port? "debug-port"
      jmxPort := g.port? "jmx-port"
      watchdogPort := g.port? "watchdog-port"
      extraArguments := ServiceProfile.ifNonEmpty (g.value? "extra")
      isUpdate := g.has "update" }

namespace Command

/-- Reads the words of a command with the given options and no operand. -/
def readPlain (options : List OptionRule) (make : Given → Command) (words : List String) :
    Except Refusal Command :=
  (Grammar.read ⟨options ++ [helpOption], some 0⟩ words).map fun (given, _) => make given

/-- Reads the words of a command with the given options and one operand. -/
def readNamed (options : List OptionRule) (make : String → Given → Except Refusal Command)
    (words : List String) : Except Refusal Command :=
  (Grammar.read ⟨options ++ [helpOption], some 1⟩ words).bind fun (given, _) =>
    match given.operands with
    | [operand] => make operand given
    | _ => .error .usage

/-- The names of the commands, each with the reading of the words that follow it. -/
def readers : List (String × (List String → Except Refusal Command)) :=
  [("discover", readPlain [] fun _ => .discover),
    ("services", readPlain [] fun _ => .showServices),
    ("args", readNamed [] fun record _ => .ok (.explain record)),
    ("install", readNamed installOptions fun name g => (InstallWish.ofGiven name g).map .install),
    ("uninstall", readNamed [] fun name _ => .ok (.uninstall name)),
    ("start", readNamed [] fun name _ => .ok (.start name)),
    ("stop", readNamed [] fun name _ => .ok (.stop name)),
    ("restart", readNamed [] fun name _ => .ok (.restart name)),
    ("iis-register", readPlain [pathOption "home", pathOption "scripts"] fun g =>
      .registerFilter (g.value? "home") (g.value? "scripts")),
    ("iis-deregister", readPlain [pathOption "scripts"] fun g =>
      .deregisterFilter (g.value? "scripts")),
    ("iis-stop", readPlain [] fun _ => .stopWeb),
    ("iis-restart", readPlain [] fun _ => .restartWeb),
    ("doctor", readPlain [] fun _ => .checkUp)]

/-- Reads the words behind `help`: the name of a command or nothing. -/
def readHelp : List String → Refusal
  | [] => .help
  | [name] => if (readers.lookup name).isSome || name == "help" then .help else .usage
  | _ => .usage

/-- Reads a command from its name on. -/
def ofWords : List String → Except Refusal Command
  | [] => .error .usage
  | name :: words =>
    match readers.lookup name with
    | some read => read words
    | none => .error (if name == "help" then readHelp words else .usage)

end Command

/-- Reads a command line. -/
def Invocation.ofWords (words : List String) : Except Refusal Invocation :=
  (Grammar.read ⟨frontOptions, none⟩ words).bind fun (given, rest) =>
    (Command.ofWords rest).map fun command => ⟨given.value? "config", command⟩

end ServerSetup.Console
