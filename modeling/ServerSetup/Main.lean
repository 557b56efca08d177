import ServerSetup.Console.Program

/-!
# The command line

The outer layer of the program. It looks up the environment variables and the configuration file
that a run may ask for, runs the program on them, and prints what is seen of the run. There is no
host to open, as there is none outside Windows.
-/

namespace ServerSetup

/-- The environment variables that a run may ask for. -/
def readEnvironment : IO Environment := do
  let names := ["ProgramData", "SystemDrive", "RESIN_SETUP_ALLOW_NON_ADMIN"]
  let values ← names.mapM fun name => return (name, ← IO.getEnv name)
  return ⟨values.filterMap fun (name, value) => value.map (name, ·)⟩

/-- A disk with the file at a path, if it can be read. -/
def readDisk (path : String) : IO Disk := do
  let disk : Disk := { tree := .empty, workDirectory := [] }
  try
    let bytes ← IO.FS.readBinFile path
    let write : DiskM Unit := do
      Disk.ensureDirectory ((Disk.pathsAbove path).head?.getD "")
      Disk.write path bytes.data.toList
    return (write disk).2
  catch _ => return disk

end ServerSetup

open ServerSetup

/-- Runs the program. -/
def main (words : List String) : IO UInt32 := do
  let path := match Console.Invocation.ofWords words with
    | .ok invocation => invocation.settingsFile.getD Console.usualSettingsFile
    | .error _ => Console.usualSettingsFile
  let world : World Unit :=
    { disk := ← readDisk path, environment := ← readEnvironment, host := () }
  let (outcome, _) := Console.run (fun _ => .error hostUnavailable) 0 words world
  for line in outcome.lines do IO.println line
  if let some error := outcome.error then
    IO.eprintln (if outcome.code = 2 then error else "Error: " ++ error)
  return outcome.code.toUInt32
