import ServerSetup.Text.AsciiCase
import ServerSetup.CommandLine.Token

/-!
# The executable at the front of a command line

A service record starts with the path of an executable. The path ends with `.exe` in any letter
case, and this is what tells a path with spaces from the arguments behind it where no quotes do.
-/

namespace ServerSetup.CommandLine

open ServerSetup.Text

/-- Cuts a text just behind its first `.exe`, in any letter case. -/
def cutAfterExe : List Char → Option (List Char × List Char)
  | [] => none
  | c :: rest =>
    if startsIgnoringCase ['.', 'e', 'x', 'e'] (c :: rest) then
      some ((c :: rest).take 4, (c :: rest).drop 4)
    else (cutAfterExe rest).map fun (exe, after) => (c :: exe, after)

/-- The number of bytes, in UTF-8, up to the end of the first `.exe`. -/
def exeBytes? (text : String) : Option Nat :=
  (cutAfterExe text.toList).map fun (exe, _) => (String.ofList exe).utf8ByteSize

/-- The executable without quotes at the front of a line, and the rest of the line: everything up to
the first `.exe`, if a blank or the end follows. There is none if the line starts with a quote or a
dash, or if an argument seems to stand before that `.exe`: a later word that starts with a dash or
contains a quote. -/
def plainExecutable? (line : List Char) : Option (List Char × List Char) :=
  if line.head? = some '"' || line.head? = some '-' then none
  else
    match cutAfterExe line with
    | none => none
    | some (exe, rest) =>
      if rest.head?.any (! isBlank ·) then none
      else if (words exe).tail.any fun word => word.head? == some '-' || word.contains '"' then none
      else some (exe, rest)

/-- The executable that leads a line, and the tokens behind it. Without an unquoted path the first
token is the executable, unless it starts with a dash. -/
def leadingExecutable (line : List Char) : Option String × List Token :=
  match plainExecutable? line with
  | some (exe, rest) => (some (String.ofList exe), tokens rest)
  | none =>
    match tokens line with
    | [] => (none, [])
    | first :: rest =>
      if first.chars.head? = some '-' then (none, first :: rest) else (some first.text, rest)

/-- A record cut down to its executable: up to the first `.exe`, together with the closing quote
behind it if the record starts with a quote. -/
def executablePart? (record : String) : Option String :=
  (cutAfterExe record.toList).map fun (exe, rest) =>
    if record.toList.head? = some '"' && rest.head? = some '"' then
      String.ofList (exe ++ ['"'])
    else String.ofList exe

end ServerSetup.CommandLine
