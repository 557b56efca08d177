import ServerSetup.Text.AsciiCase
import ServerSetup.Text.Blank

/-!
# The load order of web filters

The load order is one text: filter names separated by commas, with blanks around them that do not
count, and with empty places that do not count either. Names are compared up to ASCII letter case.
-/

namespace ServerSetup.LoadOrder

open Text

/-- The names in a load order. -/
def names (order : String) : List (List Char) :=
  ((splitWhere (· == ',') order.toList).map trim).filter (! ·.isEmpty)

/-- Names as a load order without blanks. -/
def ofNames (ns : List (List Char)) : String :=
  String.ofList ([','].intercalate ns)

/-- Whether a load order has a name. -/
def mentions (order name : String) : Bool :=
  (names order).any (sameIgnoringCase · name.toList)

/-- The load order with a name put in front, if it is not there yet. -/
def add? (order name : String) : Option String :=
  if mentions order name then none else some (ofNames (name.toList :: names order))

/-- The load order without a name, if it is there. -/
def remove? (order name : String) : Option String :=
  if mentions order name then
    some (ofNames ((names order).filter (! sameIgnoringCase · name.toList)))
  else none

end ServerSetup.LoadOrder
