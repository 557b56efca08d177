import ServerSetup.Account
import ServerSetup.Text.Literal
import ServerSetup.Text.Truth

/-!
# Diagnostic texts

Accounts and profiles as they stand in diagnostic output, with every field by name. A password is
never part of such a text.
-/

namespace ServerSetup

/-- An account for diagnosis. -/
def Account.diagnostic : Account → String
  | localSystem => "LocalSystem"
  | user name _ => "User \x7b name: " ++ Text.literal name ++ ", .. \x7d"

namespace Diagnostic

/-- A value that may be unset. -/
def optional {α : Type} (shown : α → String) : Option α → String
  | none => "None"
  | some a => "Some(" ++ shown a ++ ")"

/-- A server selection. -/
def selection : ServerChoice → String
  | .unspecified => "Default"
  | .fixed id => "Static(" ++ Text.literal id ++ ")"
  | .dynamic address => "Dynamic(" ++ Text.literal address ++ ")"

end Diagnostic

open Diagnostic in
/-- The fields of a profile, by name and in order. -/
def ServiceProfile.diagnosticFields (d : ServiceProfile) : List (String × String) :=
  let text := optional Text.literal
  let port := optional fun (p : Port) => p.toNat.repr
  [("name", Text.literal d.name), ("executable_path", text d.executable),
    ("home", Text.literal d.home), ("root_directory", text d.rootDirectory),
    ("log_directory", text d.logDirectory), ("conf_file", text d.confFile),
    ("run_as_user", text d.runAsUser), ("run_as_password", optional Password.shown d.password),
    ("is_preview", Text.truth d.isPreview), ("java_home", text d.javaHome),
    ("server", selection d.server), ("debug_port", port d.debugPort), ("jmx_port", port d.jmxPort),
    ("watchdog_port", port d.watchdogPort), ("extra_arguments", text d.extraArguments)]

/-- A profile for diagnosis. -/
def ServiceProfile.diagnostic (d : ServiceProfile) : String :=
  "ServiceDescriptor \x7b " ++ String.intercalate ", "
    (d.diagnosticFields.map fun (name, value) => name ++ ": " ++ value) ++ " \x7d"

end ServerSetup
