import ServerSetup.Text.AsciiCase
import ServerSetup.Text.Cut

/-!
# Listings of the web server's administration script

The script prints a node as lines: a property as `Name : (TYPE) value`, with texts in double quotes,
and a child node as its path in brackets. This module reads both kinds of line.
-/

namespace ServerSetup.Listing

open Text

/-- A value without its type in parentheses. A type that is not closed is all value. -/
def untyped (cs : List Char) : List Char :=
  match afterLeading '(' cs with
  | none => cs
  | some typed => trim (((cutAtFirst ')' typed).map Prod.snd).getD typed)

/-- A value without the quotes around it, if there is one at each end. -/
def unquoted (cs : List Char) : List Char :=
  ((afterLeading '"' cs).bind (beforeClosing '"')).getD cs

/-- The value of a property, if the line gives that property. -/
def lineProperty? (property : List Char) (line : List Char) : Option (List Char) :=
  match cutAtFirst ':' line with
  | none => none
  | some (name, value) =>
    if sameIgnoringCase (trim name) property then some (unquoted (untyped (trim value))) else none

/-- The value of a property in a listing: the first line that gives it decides. -/
def property? (listing name : String) : Option String :=
  ((lines listing.toList).findSome? (lineProperty? name.toList)).map String.ofList

/-- The child node that a line names: the last segment of a path in brackets. -/
def lineChild? (line : List Char) : Option (List Char) :=
  ((afterLeading '[' (trim line)).bind (beforeClosing ']')).bind fun path =>
    let name := ((dropEndWhile (· == '/') path).reverse.takeWhile (· != '/')).reverse
    if name.isEmpty then none else some name

/-- The child nodes of a listing, in order. -/
def children (listing : String) : List String :=
  ((lines listing.toList).filterMap lineChild?).map String.ofList

/-- Whether a value means true. -/
def isTrue (value : String) : Bool := equalIgnoringCase value "true" || value == "1"

end ServerSetup.Listing
