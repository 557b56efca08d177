import ServerSetup.CommandLine.Executable
import ServerSetup.CommandLine.Flag
import ServerSetup.Path.Segment

/-!
# The arguments of a service

Reading a command line sorts its tokens: a recognised switch is set, a recognised flag takes the
next token unless that is itself a flag, and every other token is kept as it was written.
-/

namespace ServerSetup.CommandLine

open ServerSetup.Text

/-- What a command line says. Ports are still texts here. -/
structure Arguments where
  /-- The switch that marks a run as a service. -/
  service : Bool
  /-- The switch for the preview stage. -/
  preview : Bool
  /-- The value of each flag; for `exe` also the executable that leads the line. -/
  value : ValueFlag → Option String
  /-- The tokens that belong to no flag, with single spaces between them. -/
  extra : Option String

namespace Arguments

/-- Nothing is set. -/
def empty : Arguments := ⟨false, false, fun _ => none, none⟩

/-- Sets the value of one flag, whatever it was before. -/
def set (args : Arguments) (flag : ValueFlag) (value : String) : Arguments :=
  { args with value := fun f => if f = flag then some value else args.value f }

/-- Sorts the tokens behind the executable; the second part are those that belong to no flag. -/
def ofTokens (args : Arguments) : List Token → Arguments × List Token
  | [] => (args, [])
  | t :: rest =>
    match t.flag? with
    | some .service => ofTokens { args with service := true } rest
    | some .preview => ofTokens { args with preview := true } rest
    | some (.value flag) =>
      match rest with
      | [] => (args, [])
      | v :: rest' =>
        if v.flag?.isSome then ofTokens args (v :: rest')
        else ofTokens (args.set flag v.text) rest'
    | none =>
      let (sorted, others) := ofTokens args rest
      (sorted, t :: others)
termination_by ts => ts.length

/-- Reads a command line: the executable with its arguments, or arguments alone. -/
def parse (line : String) : Arguments :=
  let (exe, ts) := leadingExecutable (trim line.toList)
  let start := match exe with
    | some path => empty.set .exe path
    | none => empty
  let (args, others) := ofTokens start ts
  { args with extra := if others.isEmpty then none else some (joined others) }

end Arguments

/-- Whether the last segment of an executable's path is the launcher, up to ASCII letter case. -/
def namesLauncher (executable launcher : String) : Bool :=
  equalIgnoringCase (Path.lastSegment executable) launcher

/-- The arguments of a service record, if its executable is the launcher. -/
def launcherArguments? (record launcher : String) : Option Arguments :=
  let args := Arguments.parse record
  if (args.value .exe).any (namesLauncher · launcher) then some args else none

end ServerSetup.CommandLine
