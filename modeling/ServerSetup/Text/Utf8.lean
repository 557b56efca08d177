/-!
# Texts as bytes

Files and the output of other programs are bytes. Reading them as UTF-8 is either strict, where an
ill-formed sequence makes the whole text unreadable, or lossy, where each ill-formed piece is shown
as the replacement character.
-/

namespace ServerSetup.Text

/-- The UTF-8 bytes of a text. -/
def bytesOf (s : String) : List UInt8 := s.toUTF8.data.toList

/-- The text that bytes encode, if they are well-formed UTF-8. -/
def ofBytes? (bytes : List UInt8) : Option String := String.fromUTF8? ⟨bytes.toArray⟩

/-- A text is read back from its bytes. -/
@[simp] theorem ofBytes?_bytesOf (s : String) : ofBytes? (bytesOf s) = some s := by
  have h : (⟨(bytesOf s).toArray⟩ : ByteArray) = s.toUTF8 := by simp [bytesOf]
  simp only [ofBytes?, h, String.fromUTF8?]
  exact dif_pos s.isValidUTF8

/-- The bytes of a text that is put together are those of its parts. -/
@[simp] theorem bytesOf_append (s t : String) : bytesOf (s ++ t) = bytesOf s ++ bytesOf t := by
  simp [bytesOf]

/-- What the first byte of a character promises: how many bytes follow, and the bounds of the next
one. A byte that can start no character of several bytes promises nothing. -/
def continuation? (b : UInt8) : Option (Nat × UInt8 × UInt8) :=
  if 0xC2 ≤ b && b ≤ 0xDF then some (1, 0x80, 0xBF)
  else if b == 0xE0 then some (2, 0xA0, 0xBF)
  else if b == 0xED then some (2, 0x80, 0x9F)
  else if 0xE1 ≤ b && b ≤ 0xEF then some (2, 0x80, 0xBF)
  else if b == 0xF0 then some (3, 0x90, 0xBF)
  else if 0xF1 ≤ b && b ≤ 0xF3 then some (3, 0x80, 0xBF)
  else if b == 0xF4 then some (3, 0x80, 0x8F)
  else none

/-- Reads bytes that continue a character: `left` of them are due, the next within bounds, and
`code` is what was read of the character's number. An ill-formed piece ends before the byte that
does not fit. -/
def lossyFrom (left : Nat) (low high : UInt8) (code : Nat) : List UInt8 → List Char
  | [] => if left = 0 then [] else ['\uFFFD']
  | b :: rest =>
    if left ≠ 0 && low ≤ b && b ≤ high then
      let code := code * 64 + (b.toNat - 0x80)
      if left = 1 then Char.ofNat code :: lossyFrom 0 0 0 0 rest
      else lossyFrom (left - 1) 0x80 0xBF code rest
    else
      (if left = 0 then [] else ['\uFFFD']) ++
        if b < 0x80 then Char.ofNat b.toNat :: lossyFrom 0 0 0 0 rest
        else
          match continuation? b with
          | some (n, low, high) =>
            lossyFrom n low high (b.toNat % (if n = 1 then 32 else if n = 2 then 16 else 8)) rest
          | none => '\uFFFD' :: lossyFrom 0 0 0 0 rest

/-- The text of bytes, with a replacement character for each longest piece that could start a
character but does not go on as one, and for each byte that can start none. -/
def ofBytesLossy (bytes : List UInt8) : String := String.ofList (lossyFrom 0 0 0 0 bytes)

end ServerSetup.Text
