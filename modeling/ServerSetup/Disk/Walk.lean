import ServerSetup.Disk.Tree
import ServerSetup.Fault
import ServerSetup.Text.Blank

/-!
# From paths to locations

A path is walked name by name from the root or from the working directory. A dot stays, two dots go
up, and a symbolic link on the way is replaced by its target; at most forty links are followed. A
slash at the end asks for a directory, as a dot would.
-/

namespace ServerSetup

/-- The names in a path, empty ones left out. -/
def Path.names (path : String) : List String :=
  ((Text.splitWhere (· == '/') path.toList).filter (! ·.isEmpty)).map String.ofList

/-- Whether a path starts at the root. -/
def Path.isAbsolute (path : String) : Bool := path.toList.head? == some '/'

/-- Whether a path ends with a slash. -/
def Path.endsWithSlash (path : String) : Bool := path.toList.getLast? == some '/'

/-- The names to walk for a path: a slash at the end counts as a dot. -/
def Path.steps (path : String) : List String :=
  Path.names path ++ if Path.endsWithSlash path then ["."] else []

namespace FileTree

/-- The longest name of an entry, in bytes. -/
def maxNameBytes : Nat := 255

/-- The number of links that a walk follows. -/
def maxLinks : Nat := 40

/-- Walks names from a location, following at most `links` links. The last name may be missing; if
it is a link, it is followed only if `follow` is set. -/
def walk (t : FileTree) (follow : Bool) (links : Nat) (here : Location) (steps : List String) :
    Except IoKind Location :=
  match steps with
  | [] => .ok here
  | name :: rest =>
    if ! t.isDirectory here then .error .notADirectory
    else if name = "." then walk t follow links here rest
    else if name = ".." then walk t follow links here.dropLast rest
    else if maxNameBytes < name.utf8ByteSize then .error .nameTooLong
    else
      match t.get? (here ++ [name]) with
      | none => if rest.isEmpty then .ok (here ++ [name]) else .error .notFound
      | some (.link target) =>
        if rest.isEmpty && !follow then .ok (here ++ [name])
        else
          match links with
          | 0 => .error .linkLoop
          | links + 1 =>
            walk t follow links (if Path.isAbsolute target then [] else here)
              (Path.steps target ++ rest)
      | some _ => walk t follow links (here ++ [name]) rest
termination_by (links, steps.length)

end FileTree

end ServerSetup
