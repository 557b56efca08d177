import ServerSetup.CommandLine.Token

/-!
# The flags of a service command line

The launcher knows two switches and thirteen flags that take the next token as their value. Every
flag may be written with one dash or with two.
-/

namespace ServerSetup.CommandLine

/-- A flag that takes a value. -/
inductive ValueFlag
  | exe | name | conf | home | rootDirectory | logDirectory | server | dynamicServer | user
  | javaHome | debugPort | jmxPort | watchdogPort
deriving DecidableEq

/-- A recognised flag. -/
inductive Flag
  | service
  | preview
  | value (flag : ValueFlag)
deriving DecidableEq

namespace ValueFlag

/-- The one-dash spelling. -/
def text : ValueFlag → String
  | exe => "-exe"
  | name => "-name"
  | conf => "-conf"
  | home => "-resin-home"
  | rootDirectory => "-root-directory"
  | logDirectory => "-log-directory"
  | server => "-server"
  | dynamicServer => "-dynamic-server"
  | user => "-user"
  | javaHome => "-java-home"
  | debugPort => "-debug-port"
  | jmxPort => "-jmx-port"
  | watchdogPort => "-watchdog-port"

/-- Every flag that takes a value. -/
def all : List ValueFlag :=
  [exe, name, conf, home, rootDirectory, logDirectory, server, dynamicServer, user, javaHome,
    debugPort, jmxPort, watchdogPort]

/-- Every flag with a value is in the list. -/
theorem mem_all (f : ValueFlag) : f ∈ all := by cases f <;> decide

end ValueFlag

namespace Flag

/-- The one-dash spelling. -/
def text : Flag → String
  | service => "-service"
  | preview => "-preview"
  | value f => f.text

/-- Every recognised flag. -/
def all : List Flag := service :: preview :: ValueFlag.all.map value

/-- Every flag is in the list. -/
theorem mem_all (f : Flag) : f ∈ all := by
  cases f with
  | value f => exact .tail _ (.tail _ (List.mem_map_of_mem f.mem_all))
  | _ => simp [all]

/-- Reduces two leading dashes to one, unless nothing follows them. -/
def normalized : List Char → List Char
  | '-' :: '-' :: c :: rest => '-' :: c :: rest
  | cs => cs

/-- The flag that a text spells, if it spells one. -/
def ofChars? (cs : List Char) : Option Flag :=
  all.find? fun f => f.text.toList == normalized cs

end Flag

/-- The flag that the value of a token spells. -/
def Token.flag? (t : Token) : Option Flag := Flag.ofChars? t.chars

end ServerSetup.CommandLine
