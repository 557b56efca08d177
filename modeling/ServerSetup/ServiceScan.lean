import ServerSetup.Host
import ServerSetup.HomeTest

/-!
# Scanning the service records

Services of this product are found by their records: the executable is the launcher, and the record
asks for a run as a service. The home of a service is the one that its record names; without a name
it is the directory of the executable, if that is the home of an installation.
-/

namespace ServerSetup

open CommandLine

/-- The home that a command line gives. -/
def homeOf? (test : HomeTest) (disk : Disk) (args : Arguments) : Option String :=
  match (args.value .home).filter (! ·.isEmpty) with
  | some home => some home
  | none =>
    ((args.value .exe).bind Path.above?).bind fun directory =>
      if (test disk directory).isSome then some directory else none

/-- The service that a record describes, if it is one of this product. -/
def describedService? (test : HomeTest) (disk : Disk) (launcher name record : String) :
    Option ServiceProfile :=
  (launcherArguments? record launcher).bind fun args =>
    if args.service then
      (homeOf? test disk args).map fun home => .ofArguments name home args
    else none

variable {η : Type}

/-- Reads the records of some services, passing over those that are missing or cannot be read, and
keeps what `f` makes of each record. -/
def readRecords {α : Type} (records : ServiceRecords η) (f : Disk → String → String → Option α) :
    List String → StateM (World η) (List α)
  | [] => pure []
  | name :: rest => do
    let found ← match ← records.record name with
      | .ok (some record) => pure (f (← get).disk name record)
      | _ => pure none
    return found.toList ++ (← readRecords records f rest)

/-- The services of this product, in the order in which the host lists them. -/
def describedServices (records : ServiceRecords η) (test : HomeTest) (launcher : String) :
    SetupM η (List ServiceProfile) := do
  let names ← SetupM.call (.accessDenied .serviceList) records.list
  readRecords records
    (fun disk name record =>
      if Text.isBlankText record then none
      else describedService? test disk launcher name record) names

end ServerSetup
