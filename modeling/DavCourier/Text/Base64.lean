import DavCourier.Text.Utf8

/-!
# Base64

Three bytes are written as four letters of six bits each, and equals signs fill up the last
four.
-/

namespace DavCourier.Base64

/-- The letter of a value below 64. -/
def letter (n : Nat) : Char :=
  if n < 26 then Char.ofNat (0x41 + n)
  else if n < 52 then Char.ofNat (0x61 + (n - 26))
  else if n < 62 then Char.ofNat (0x30 + (n - 52))
  else if n = 62 then '+'
  else '/'

/-- The letter of the six bits of `n` that stand `shift` bits above the lowest. -/
def letterAt (n shift : Nat) : Char :=
  letter (n >>> shift % 64)

/-- The letters of bytes. -/
def encode : Bytes → List Char
  | [] => []
  | [a] =>
    let n := a.toNat * 65536
    [letterAt n 18, letterAt n 12, '=', '=']
  | [a, b] =>
    let n := a.toNat * 65536 + b.toNat * 256
    [letterAt n 18, letterAt n 12, letterAt n 6, '=']
  | a :: b :: c :: rest =>
    let n := a.toNat * 65536 + b.toNat * 256 + c.toNat
    letterAt n 18 :: letterAt n 12 :: letterAt n 6 :: letterAt n 0 :: encode rest

end DavCourier.Base64
