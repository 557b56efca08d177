import ServerSetup.Json.Reader
import ServerSetup.Rollback.State
import ServerSetup.Text.Truth

/-!
# Rollback documents

A rollback state is written as a JSON object with one field a line, indented by two spaces. It is
read from any JSON record with the same fields; only the name of the account may be missing.
-/

namespace ServerSetup

open Json

/-- The name of a kind of account. -/
def AccountClass.text : AccountClass → String
  | localSystem => "local_system"
  | user => "user"

/-- The kind of account with a name. -/
def AccountClass.ofText? (text : String) : Option AccountClass :=
  if text = "local_system" then some .localSystem
  else if text = "user" then some .user
  else none

/-- A kind of account: its name, or an object with the name as its only key and `null` behind it. -/
def AccountClass.ofJson? (source : Source) : Option AccountClass :=
  match members? source with
  | some [(name, value)] => if isNull value then ofText? name else none
  | some _ => none
  | none => (string? source).bind ofText?

/-- A moment: an array of its nine numbers. -/
def Moment.ofJson? (source : Source) : Option Moment :=
  (list? (int? (-0x80000000) 0xFFFFFFFF) source).bind Moment.ofParts?

namespace Rollback.State

/-- The names of the fields, in the order in which they are written. -/
def fieldNames : List String :=
  ["schema_version", "state_id", "service_name", "account", "account_name", "already_registered",
    "event_log_existed", "installed", "recorded_at"]

/-- The JSON texts of the fields, in order. -/
def fieldTexts (s : Rollback.State) : List String :=
  [s.schemaVersion.toNat.repr, quote s.id.text, quote s.serviceName, quote s.account.text,
    (s.accountName.map quote).getD "null", Text.truth s.alreadyRegistered,
    Text.truth s.eventLogExisted, Text.truth s.installed,
    "[\n    " ++ String.intercalate ",\n    " (s.recordedAt.parts.map toString) ++ "\n  ]"]

/-- The document of a state. -/
def document (s : Rollback.State) : String :=
  "\x7b\n  " ++
    String.intercalate ",\n  "
      (List.zipWith (fun name text => "\"" ++ name ++ "\": " ++ text) fieldNames s.fieldTexts) ++
    "\n\x7d"

/-- The state that a JSON value gives. -/
def ofJson? (source : Source) : Option Rollback.State := do
  match ← record? fieldNames source with
  | [some version, some id, some service, some account, accountName, some registered, some eventLog,
      some installed, some moment] => return {
      schemaVersion := .ofNat (← nat? 0xFFFFFFFF version)
      id := ← (string? id).bind Identifier.ofText?
      serviceName := ← string? service
      account := ← AccountClass.ofJson? account
      accountName := ← given (nullable? string?) none accountName
      alreadyRegistered := ← bool? registered
      eventLogExisted := ← bool? eventLog
      installed := ← bool? installed
      recordedAt := ← Moment.ofJson? moment }
  | _ => none

/-- The state in the bytes of a document. -/
def ofBytes? (bytes : List UInt8) : Option Rollback.State := (document? bytes).bind ofJson?

end Rollback.State

end ServerSetup
