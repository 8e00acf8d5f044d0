import DavCourier.Text.Utf8
import DavCourier.Text.Numeral

/-!
# Percent escapes

An escape is a percent sign with two hexadecimal digits and stands for a byte. `encode`
escapes every byte of a text that is not one of the bytes to keep. `decodeBytes` puts
bytes in the place of escapes and leaves a percent sign without two digits as it is, and
`decode` does so for a text, unless the bytes are no longer UTF-8.
-/

namespace DavCourier.Percent

/-- The digit of a value below sixteen, in upper case. -/
def hexDigit (n : Nat) : Char :=
  if n < 10 then Char.ofNat (0x30 + n) else Char.ofNat (0x37 + n)

/-- The escape of a byte. -/
def escape (b : UInt8) : List Char :=
  ['%', hexDigit (b.toNat / 16), hexDigit (b.toNat % 16)]

/-- Escapes the bytes that are not to be kept. -/
def encodeBytes (keep : UInt8 → Bool) (bs : Bytes) : List Char :=
  bs.flatMap fun b => if keep b then [Char.ofNat b.toNat] else escape b

/-- Letters, digits and `-`, `_`, `.`, `~`. -/
def isUnreserved (b : UInt8) : Bool :=
  (0x30 ≤ b && b ≤ 0x39) || (0x41 ≤ b && b ≤ 0x5A) || (0x61 ≤ b && b ≤ 0x7A)
    || b == 0x2D || b == 0x5F || b == 0x2E || b == 0x7E

/-- Escapes all but the unreserved characters. -/
def encode (cs : List Char) : List Char :=
  encodeBytes isUnreserved (Utf8.encode cs)

/-- The value of a hexadecimal digit. -/
def hexValue? (b : UInt8) : Option Nat :=
  Numeral.digit? 16 (Char.ofNat b.toNat)

/-- The byte that two hexadecimal digits spell. -/
def byte? (a b : UInt8) : Option UInt8 :=
  match hexValue? a, hexValue? b with
  | some x, some y => some (UInt8.ofNat (x * 16 + y))
  | _, _ => none

/-- Puts a byte in the place of each escape. -/
def decodeBytes : Bytes → Bytes
  | 0x25 :: a :: b :: rest =>
    match byte? a b with
    | some v => v :: decodeBytes rest
    | none => 0x25 :: decodeBytes (a :: b :: rest)
  | a :: rest => a :: decodeBytes rest
  | [] => []

/-- Reads the escapes of a text, which stays as it is if the bytes are not UTF-8. -/
def decode (cs : List Char) : List Char :=
  match Utf8.decode (decodeBytes (Utf8.encode cs)) with
  | .ok ds => ds
  | .error _ => cs

end DavCourier.Percent
