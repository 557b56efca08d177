import ServerSetup.Json.Quoted

/-!
# Identifiers

The 128-bit identifiers of rollback states. They are written as 32 lower-case hexadecimal digits in
five groups, and read in any letter case, also without the hyphens, in braces, or as a URN.
-/

namespace ServerSetup

/-- An identifier of 128 bits. -/
structure Identifier where
  value : Fin 0x100000000000000000000000000000000
deriving DecidableEq

namespace Identifier

open Json (hexDigit hexNumber?)

/-- The identifier with a number, of which 128 bits count. -/
def ofNat (n : Nat) : Identifier := ⟨Fin.ofNat 0x100000000000000000000000000000000 n⟩

/-- The hexadecimal digits of a number, in a given number of places. -/
def hexDigits : Nat → Nat → List Char
  | 0, _ => []
  | places + 1, n => hexDigits places (n / 16) ++ [hexDigit (n % 16)]

/-- The digits in groups of 8, 4, 4, 4 and 12. -/
def grouped (digits : List Char) : List Char :=
  digits.take 8 ++ '-' :: (digits.drop 8).take 4 ++ '-' :: (digits.drop 12).take 4 ++
    '-' :: (digits.drop 16).take 4 ++ '-' :: digits.drop 20

/-- The written form. -/
def text (id : Identifier) : String := String.ofList (grouped (hexDigits 32 id.value.val))

/-- The identifier with 32 given digits. -/
def ofDigits? (digits : List Char) : Option Identifier :=
  if digits.length = 32 then (hexNumber? digits).map ofNat else none

/-- The identifier written in groups. -/
def ofGrouped? (cs : List Char) : Option Identifier :=
  let digits := cs.filter (· != '-')
  if cs = grouped digits then ofDigits? digits else none

/-- What stands in a pair of braces around 36 characters, or behind the start of a URN. -/
def unwrapped (cs : List Char) : List Char :=
  match cs with
  | '{' :: rest => if cs.length = 38 && rest.getLast? = some '}' then rest.dropLast else cs
  | 'u' :: 'r' :: 'n' :: ':' :: 'u' :: 'u' :: 'i' :: 'd' :: ':' :: rest => rest
  | _ => cs

/-- Reads an identifier. -/
def ofText? (text : String) : Option Identifier :=
  match ofDigits? text.toList with
  | some id => some id
  | none => ofGrouped? (unwrapped text.toList)

/-- A fresh identifier, the `n`th of a supply; it carries the mark of version 4. -/
def fresh (n : Nat) : Identifier :=
  ofNat (0x00000000000040008000000000000000 + n % 0x1000000000000)

/-- Whether an identifier carries the mark of version 4. -/
def isFresh (id : Identifier) : Bool := id.value.val / 0x10000000000000000000 % 16 == 4

end Identifier

end ServerSetup
