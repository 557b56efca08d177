import ServerSetup.Text.Utf8

/-!
# Strings in JSON

The written form of a string between its quotes: which characters are escaped when it is written,
and what the escapes mean when it is read. A character outside the basic plane may be written as two
escapes, one for each half of its surrogate pair; a half on its own means nothing.
-/

namespace ServerSetup.Json

/-- The hexadecimal digit with a value below 16, in lower case. -/
def hexDigit (n : Nat) : Char := if n < 10 then Char.ofNat (48 + n) else Char.ofNat (87 + n)

/-- The value of a hexadecimal digit in either letter case. -/
def hexValue? (c : Char) : Option Nat :=
  if '0' ≤ c && c ≤ '9' then some (c.toNat - 48)
  else if 'a' ≤ c && c ≤ 'f' then some (c.toNat - 87)
  else if 'A' ≤ c && c ≤ 'F' then some (c.toNat - 55)
  else none

/-- The number that a row of hexadecimal digits denotes. -/
def hexNumber? (cs : List Char) : Option Nat :=
  cs.foldl (fun n c => n.bind fun n => (hexValue? c).map (16 * n + ·)) (some 0)

/-- The letters of the escapes for single characters. -/
def escapes : List (Char × Char) :=
  [('"', '"'), ('\\', '\\'), ('\x08', 'b'), ('\x0c', 'f'), ('\n', 'n'), ('\r', 'r'), ('\t', 't')]

/-- The written form of a character. -/
def escapeChar (c : Char) : List Char :=
  match escapes.lookup c with
  | some letter => ['\\', letter]
  | none =>
    if c.toNat < 0x20 then
      ['\\', 'u', '0', '0', hexDigit (c.toNat / 16), hexDigit (c.toNat % 16)]
    else [c]

/-- The written form of a string, with its quotes. -/
def quote (s : String) : String :=
  String.ofList ('"' :: s.toList.flatMap escapeChar ++ ['"'])

/-- The character that an escape letter stands for. -/
def unescapeLetter? (letter : Char) : Option Char :=
  if letter = '/' then some '/' else (escapes.find? (·.2 == letter)).map Prod.fst

/-- A piece of a written string: a character, or the number in a four-digit escape. -/
inductive Piece
  | char (c : Char)
  | code (n : Nat)

/-- The pieces of what is written between the quotes. -/
def pieces? : List Char → Option (List Piece)
  | [] => some []
  | '\\' :: rest =>
    match rest with
    | 'u' :: a :: b :: c :: d :: rest => do
      return .code (← hexNumber? [a, b, c, d]) :: (← pieces? rest)
    | letter :: rest => do return .char (← unescapeLetter? letter) :: (← pieces? rest)
    | [] => none
  | c :: rest => (pieces? rest).map (.char c :: ·)
termination_by cs => cs.length

/-- The first half of a surrogate pair. -/
def isHighHalf (n : Nat) : Bool := 0xD800 ≤ n && n < 0xDC00

/-- The second half of a surrogate pair. -/
def isLowHalf (n : Nat) : Bool := 0xDC00 ≤ n && n < 0xE000

/-- Joins surrogate pairs. A half without its other half makes the string unreadable. -/
def joinPieces? : List Piece → Option (List Char)
  | [] => some []
  | .char c :: rest => (joinPieces? rest).map (c :: ·)
  | .code n :: rest =>
    if isHighHalf n then
      match rest with
      | .code m :: rest =>
        if isLowHalf m then
          (joinPieces? rest).map (Char.ofNat (0x10000 + (n - 0xD800) * 0x400 + (m - 0xDC00)) :: ·)
        else none
      | _ => none
    else if isLowHalf n then none
    else (joinPieces? rest).map (Char.ofNat n :: ·)

/-- The string between the quotes of a written form that the grammar admits. -/
def unquote? (bytes : List UInt8) : Option String :=
  match bytes with
  | 0x22 :: rest => do
    let inner ← Text.ofBytes? rest.dropLast
    let chars ← (pieces? inner.toList).bind joinPieces?
    return String.ofList chars
  | _ => none

end ServerSetup.Json
