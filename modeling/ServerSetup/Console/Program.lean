import ServerSetup.Settings.Document
import ServerSetup.Console.Execution

/-!
# The program

One run of the program, from the words of its command line to its output and its exit code. Two
commands need no host: they read a service record, or show the configuration. All others open a
session first.
-/

namespace ServerSetup.Console

/-- What is seen of a run: the exit code, the printed lines, and the words for a failure. -/
structure Outcome where
  code : Nat
  lines : List String := []
  error : Option String := none

/-- The outcome of a run that got as far as executing its command. -/
def Outcome.ofResult (lines : List String) : Except Failure Unit → Outcome
  | .ok () => { code := 0, lines := lines }
  | .error why => { code := why.code, lines := lines, error := why.message }

/-- The name of the program with its version. -/
def versionLine : String := "resin-setup 0.1.0"

/-- The line that says how the program is used. -/
def usageLine : String :=
  "resin-setup [--config FILE] [--verbose] " ++
    String.intercalate "|" (Command.readers.map Prod.fst) ++ " ..."

/-- The outcome of a run whose command line gives no command. -/
def Outcome.ofRefusal : Refusal → Outcome
  | .usage => { code := 2, error := some usageLine }
  | .help => { code := 0, lines := [usageLine] }
  | .version => { code := 0, lines := [versionLine] }

/-- The configuration file that is read without being asked for. -/
def usualSettingsFile : String := "setup-config.json"

/-- Loads a configuration file for a run. -/
def loadFile (disk : Disk) (path : String) : Except Failure Settings :=
  (Settings.load disk path).mapError fun e =>
    .fault ((Fault.said e.message).whileDoing ("加载配置失败: " ++ path))

/-- The configuration of a run: from the file that was asked for, or from the usual file if it is
there, or else the default. -/
def settingsOf (disk : Disk) (path : Option String) : Except Failure Settings :=
  match path with
  | some path => loadFile disk path
  | none => if disk.isFile usualSettingsFile then loadFile disk usualSettingsFile else .ok {}

/-- Shows the rights of the program and its configuration. -/
def checkUp (disk : Disk) (env : Environment) (path : Option String) : Outcome :=
  match settingsOf disk path with
  | .error why => .ofResult [rightsLine] (.error why)
  | .ok settings => .ofResult (rightsLine :: settingsLines settings env) (.ok ())

variable {η : Type}

/-- Opens a session with a host and executes a command. -/
def runOn (host : Host η) (settings : Settings) (patience : Nat) (command : Command)
    (w : World η) : Outcome × World η :=
  let homeTest := .byMarkers settings.product.rootMarkers
  match Session.new settings w.environment host homeTest patience with
  | .error e => (.ofResult [] (.error (.halt (.failed e))), w)
  | .ok s =>
    let ((result, lines), w) := execute s command [] w
    (.ofResult lines result, w)

/-- A run of the program. If it has opened a host, the world afterwards comes with the outcome. -/
def run (openHost : Settings → Except Fault (Host η)) (patience : Nat) (words : List String)
    (w : World η) : Outcome × Option (World η) :=
  match Invocation.ofWords words with
  | .error why => (.ofRefusal why, none)
  | .ok ⟨path, command⟩ =>
    match command with
    | .explain record => (.ofResult (recordLines record) (.ok ()), none)
    | .checkUp => (checkUp w.disk w.environment path, none)
    | _ =>
      match settingsOf w.disk path with
      | .error why => (.ofResult [] (.error why), none)
      | .ok settings =>
        match openHost settings with
        | .error fault => (.ofResult [] (.error (.fault fault)), none)
        | .ok host =>
          let (outcome, w) := runOn host settings patience command w
          (outcome, some w)

end ServerSetup.Console
