/-!
# Finding the end of a JSON value

A machine that reads the bytes of a JSON text one at a time and tells where a value ends. It keeps
the open brackets in a list, so values may nest to any depth. It checks the grammar of RFC 8259 and
nothing else: the bytes in a string need not be UTF-8, and a number may have any size.
-/

namespace ServerSetup.Json

/-- An open bracket. -/
inductive Bracket
  | array
  | object
deriving DecidableEq

/-- Where the machine stands between two bytes. -/
inductive Place
  /-- A value has to start. -/
  | value
  /-- Behind an opening square bracket: a value or the closing one. -/
  | valueOrEnd
  /-- Behind an opening brace: a key or the closing one. -/
  | keyOrEnd
  /-- Behind a comma in an object. -/
  | key
  /-- Behind a key. -/
  | colon
  /-- Behind a value. -/
  | afterValue
  /-- In a string, which may be a key. -/
  | string (isKey : Bool)
  /-- Behind a backslash in a string. -/
  | escape (isKey : Bool)
  /-- In a string, where `left` more hexadecimal digits are due. -/
  | hex (left : Nat) (isKey : Bool)
  /-- In one of the three words, with the bytes still due. -/
  | word (due : List UInt8)
  /-- Behind the minus sign of a number. -/
  | minus
  /-- Behind a leading zero. -/
  | zero
  /-- In the digits before the point. -/
  | whole
  /-- Behind the point. -/
  | point
  /-- In the digits behind the point. -/
  | fraction
  /-- Behind the letter of the exponent. -/
  | exponent
  /-- Behind the sign of the exponent. -/
  | exponentSign
  /-- In the digits of the exponent. -/
  | exponentDigits
deriving DecidableEq

/-- Space, tab, line feed and carriage return. -/
def isSpace (b : UInt8) : Bool := b == 0x20 || b == 0x09 || b == 0x0A || b == 0x0D

/-- An ASCII digit. -/
def isDigit (b : UInt8) : Bool := 0x30 ≤ b && b ≤ 0x39

/-- A hexadecimal digit in either letter case. -/
def isHexDigit (b : UInt8) : Bool :=
  isDigit b || (0x41 ≤ b && b ≤ 0x46) || (0x61 ≤ b && b ≤ 0x66)

/-- A number could end here. -/
def Place.endsNumber : Place → Bool
  | .zero | .whole | .fraction | .exponentDigits => true
  | _ => false

/-- The place behind a finished string. -/
def afterString (isKey : Bool) : Place := if isKey then .colon else .afterValue

/-- The first byte of a value. -/
def startValue (brackets : List Bracket) (b : UInt8) : Option (Place × List Bracket) :=
  if b == 0x22 then some (.string false, brackets)
  else if b == 0x5B then some (.valueOrEnd, .array :: brackets)
  else if b == 0x7B then some (.keyOrEnd, .object :: brackets)
  else if b == 0x2D then some (.minus, brackets)
  else if b == 0x30 then some (.zero, brackets)
  else if isDigit b then some (.whole, brackets)
  else if b == 0x74 then some (.word [0x72, 0x75, 0x65], brackets)
  else if b == 0x66 then some (.word [0x61, 0x6C, 0x73, 0x65], brackets)
  else if b == 0x6E then some (.word [0x75, 0x6C, 0x6C], brackets)
  else none

/-- A byte behind a value inside brackets: a space, a comma, or the closing bracket. -/
def stepAfterValue (brackets : List Bracket) (b : UInt8) : Option (Place × List Bracket) :=
  match brackets with
  | [] => none
  | bracket :: outer =>
    if isSpace b then some (.afterValue, brackets)
    else
      match bracket with
      | .array =>
        if b == 0x2C then some (.value, brackets)
        else if b == 0x5D then some (.afterValue, outer)
        else none
      | .object =>
        if b == 0x2C then some (.key, brackets)
        else if b == 0x7D then some (.afterValue, outer)
        else none

/-- One byte. There is no next place where the byte cannot stand. -/
def step (place : Place) (brackets : List Bracket) (b : UInt8) : Option (Place × List Bracket) :=
  match place with
  | .value => if isSpace b then some (.value, brackets) else startValue brackets b
  | .valueOrEnd =>
    if isSpace b then some (.valueOrEnd, brackets)
    else if b == 0x5D then some (.afterValue, brackets.tail)
    else startValue brackets b
  | .keyOrEnd =>
    if isSpace b then some (.keyOrEnd, brackets)
    else if b == 0x7D then some (.afterValue, brackets.tail)
    else if b == 0x22 then some (.string true, brackets)
    else none
  | .key =>
    if isSpace b then some (.key, brackets)
    else if b == 0x22 then some (.string true, brackets)
    else none
  | .colon =>
    if isSpace b then some (.colon, brackets)
    else if b == 0x3A then some (.value, brackets)
    else none
  | .afterValue => stepAfterValue brackets b
  | .string isKey =>
    if b == 0x22 then some (afterString isKey, brackets)
    else if b == 0x5C then some (.escape isKey, brackets)
    else if b < 0x20 then none
    else some (.string isKey, brackets)
  | .escape isKey =>
    if b == 0x75 then some (.hex 4 isKey, brackets)
    else if [0x22, 0x5C, 0x2F, 0x62, 0x66, 0x6E, 0x72, 0x74].contains b then
      some (.string isKey, brackets)
    else none
  | .hex left isKey =>
    if isHexDigit b then
      some (if left ≤ 1 then .string isKey else .hex (left - 1) isKey, brackets)
    else none
  | .word due =>
    match due with
    | [] => none
    | d :: due =>
      if b == d then some (if due.isEmpty then .afterValue else .word due, brackets) else none
  | .minus =>
    if b == 0x30 then some (.zero, brackets)
    else if isDigit b then some (.whole, brackets)
    else none
  | .zero =>
    if b == 0x2E then some (.point, brackets)
    else if b == 0x65 || b == 0x45 then some (.exponent, brackets)
    else stepAfterValue brackets b
  | .whole =>
    if isDigit b then some (.whole, brackets)
    else if b == 0x2E then some (.point, brackets)
    else if b == 0x65 || b == 0x45 then some (.exponent, brackets)
    else stepAfterValue brackets b
  | .point => if isDigit b then some (.fraction, brackets) else none
  | .fraction =>
    if isDigit b then some (.fraction, brackets)
    else if b == 0x65 || b == 0x45 then some (.exponent, brackets)
    else stepAfterValue brackets b
  | .exponent =>
    if b == 0x2B || b == 0x2D then some (.exponentSign, brackets)
    else if isDigit b then some (.exponentDigits, brackets)
    else none
  | .exponentSign => if isDigit b then some (.exponentDigits, brackets) else none
  | .exponentDigits =>
    if isDigit b then some (.exponentDigits, brackets) else stepAfterValue brackets b

/-- Runs the machine until the value that it is in is complete: the bytes of the value, of which
`read` holds those already read in reverse, and the bytes behind it. -/
def scanFrom (place : Place) (brackets : List Bracket) (read : List UInt8) :
    List UInt8 → Option (List UInt8 × List UInt8)
  | [] =>
    if brackets.isEmpty && (place == .afterValue || place.endsNumber) then some (read.reverse, [])
    else none
  | b :: rest =>
    if brackets.isEmpty && place == .afterValue then some (read.reverse, b :: rest)
    else
      match step place brackets b with
      | some (place, brackets) => scanFrom place brackets (b :: read) rest
      | none =>
        if brackets.isEmpty && place.endsNumber then some (read.reverse, b :: rest) else none

/-- Drops leading spaces. -/
def skipSpaces (bytes : List UInt8) : List UInt8 := bytes.dropWhile isSpace

/-- The bytes of the value at the front, without the spaces before it, and what follows it and the
spaces behind it. -/
def scanValue? (bytes : List UInt8) : Option (List UInt8 × List UInt8) :=
  (scanFrom .value [] [] (skipSpaces bytes)).map fun (value, rest) => (value, skipSpaces rest)

/-- The one value of a text, with nothing but spaces around it. -/
def document? (bytes : List UInt8) : Option (List UInt8) :=
  match scanValue? bytes with
  | some (value, []) => some value
  | _ => none

end ServerSetup.Json
