import ServerSetup.Text.Blank

/-!
# Cutting a text at a character or at a line end

The cuts by which line-oriented output is read: at the first occurrence of a character, after a
leading character, before a closing one, and into lines.
-/

namespace ServerSetup.Text

/-- What stands before and after the first `c`, if there is one. -/
def cutAtFirst (c : Char) : List Char → Option (List Char × List Char)
  | [] => none
  | d :: rest =>
    if d = c then some ([], rest)
    else (cutAtFirst c rest).map fun (before, after) => (d :: before, after)

/-- The rest after a leading `c`. -/
def afterLeading (c : Char) : List Char → Option (List Char)
  | [] => none
  | d :: rest => if d = c then some rest else none

/-- The part before a closing `c`. -/
def beforeClosing (c : Char) (cs : List Char) : Option (List Char) :=
  (afterLeading c cs.reverse).map List.reverse

/-- A line without the carriage return that ends it. -/
def withoutCarriageReturn (cs : List Char) : List Char :=
  (beforeClosing '\r' cs).getD cs

/-- The lines of a text. A line feed ends a line, together with a carriage return before it; a last
line without a line feed counts if it is not empty, and keeps its carriage return. -/
def lines (cs : List Char) : List (List Char) :=
  let pieces := splitWhere (· == '\n') cs
  pieces.dropLast.map withoutCarriageReturn ++
    (pieces.getLast?.toList.filter (! ·.isEmpty))

end ServerSetup.Text
