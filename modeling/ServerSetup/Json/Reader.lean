import ServerSetup.Json.Quoted
import ServerSetup.Json.Scan
import ServerSetup.Text.Decimal

/-!
# Reading typed values from JSON

A value is first found as bytes and then read as what its place asks for. A record may be written as
an object, in any order and with unknown members, which are skipped, or as an array of its fields in
order. Nothing is converted: a number with a point or an exponent is no integer, and a missing value
is not the same as `null`.
-/

namespace ServerSetup.Json

/-- The bytes of one value. -/
abbrev Source := List UInt8

/-- The values between the brackets of an array; `fuel` bounds their number. -/
def itemsFrom? : Nat → List UInt8 → Option (List Source)
  | 0, _ => none
  | fuel + 1, bytes =>
    match scanValue? bytes with
    | some (item, 0x2C :: rest) => (itemsFrom? fuel rest).map (item :: ·)
    | some (item, [0x5D]) => some [item]
    | _ => none

/-- The values in an array. -/
def items? (source : Source) : Option (List Source) :=
  match source with
  | 0x5B :: rest =>
    if skipSpaces rest = [0x5D] then some [] else itemsFrom? rest.length rest
  | _ => none

/-- The members between the braces of an object; `fuel` bounds their number. -/
def membersFrom? : Nat → List UInt8 → Option (List (String × Source))
  | 0, _ => none
  | fuel + 1, bytes =>
    match scanValue? bytes with
    | some (key, 0x3A :: rest) =>
      match unquote? key, scanValue? rest with
      | some name, some (value, 0x2C :: rest) =>
        (membersFrom? fuel rest).map ((name, value) :: ·)
      | some name, some (value, [0x7D]) => some [(name, value)]
      | _, _ => none
    | _ => none

/-- The members of an object, in the order in which they are written. -/
def members? (source : Source) : Option (List (String × Source)) :=
  match source with
  | 0x7B :: rest =>
    if skipSpaces rest = [0x7D] then some [] else membersFrom? rest.length rest
  | _ => none

/-- Whether a value is `null`. -/
def isNull (source : Source) : Bool := source == [0x6E, 0x75, 0x6C, 0x6C]

/-- A string. -/
def string? (source : Source) : Option String := unquote? source

/-- A truth value. -/
def bool? (source : Source) : Option Bool :=
  if source == [0x74, 0x72, 0x75, 0x65] then some true
  else if source == [0x66, 0x61, 0x6C, 0x73, 0x65] then some false
  else none

/-- The number that ASCII digits denote, if there is nothing else. -/
def digits? (source : Source) : Option Nat :=
  Text.digits? (source.map fun b => Char.ofNat b.toNat)

/-- A whole number without a sign, at most `bound`. -/
def nat? (bound : Nat) (source : Source) : Option Nat := (digits? source).filter (· ≤ bound)

/-- A whole number between two bounds. Minus zero is not a whole number. -/
def int? (low high : Int) (source : Source) : Option Int :=
  let value : Option Int := match source with
    | 0x2D :: rest => ((digits? rest).filter (· ≠ 0)).map fun n => -(n : Int)
    | _ => (digits? source).map Int.ofNat
  value.filter fun n => low ≤ n ∧ n ≤ high

/-- A value that may be `null`. -/
def nullable? {α : Type} (read? : Source → Option α) (source : Source) : Option (Option α) :=
  if isNull source then some none else (read? source).map some

/-- A list of values of one kind. -/
def list? {α : Type} (read? : Source → Option α) (source : Source) : Option (List α) :=
  (items? source).bind (List.mapM read?)

/-- The value of the field `name` if it is among the members, which must not give it twice. -/
def field? (members : List (String × Source)) (name : String) : Option (Option Source) :=
  match members.filter (·.1 == name) with
  | [] => some none
  | [(_, value)] => some (some value)
  | _ => none

/-- What a record gives for each of its fields: from an object by name, from an array by place. -/
def record? (names : List String) (source : Source) : Option (List (Option Source)) :=
  match items? source with
  | some items =>
    if items.length ≤ names.length then
      some (items.map some ++ List.replicate (names.length - items.length) none)
    else none
  | none => (members? source).bind fun members => names.mapM (field? members)

/-- A field that is read if it is given and otherwise takes a default. -/
def given {α : Type} (read? : Source → Option α) (default : α) : Option Source → Option α
  | none => some default
  | some source => read? source

end ServerSetup.Json
