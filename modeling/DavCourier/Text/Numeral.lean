/-!
# Numerals

Numbers as texts write them : digits in a base up to sixteen. `value?` reads a run of
digits of any length and `decimal?` a decimal number with a bound, which may carry a plus
sign; `decimal` and `padded` write a number.
-/

namespace DavCourier.Numeral

/-- The value of a digit, in either case. -/
def digit? (base : Nat) (c : Char) : Option Nat :=
  let n := c.toNat
  let v :=
    if 0x30 ≤ n && n ≤ 0x39 then n - 0x30
    else if 0x41 ≤ n && n ≤ 0x46 then n - 0x41 + 10
    else if 0x61 ≤ n && n ≤ 0x66 then n - 0x61 + 10
    else 16
  if v < base then some v else none

/-- The number that the digits go on to spell after `acc`. -/
def valueFrom? (base acc : Nat) : List Char → Option Nat
  | [] => some acc
  | c :: cs =>
    match digit? base c with
    | some v => valueFrom? base (acc * base + v) cs
    | none => none

/-- The number that a run of one or more digits spells. -/
def value? (base : Nat) (cs : List Char) : Option Nat :=
  if cs.isEmpty then none else valueFrom? base 0 cs

/-- The text after a plus sign, if it starts with one. -/
def dropPlus : List Char → List Char
  | '+' :: cs => cs
  | cs => cs

/-- A decimal number up to `bound`, with or without a plus sign. -/
def decimal? (bound : Nat) (cs : List Char) : Option Nat :=
  match value? 10 (dropPlus cs) with
  | some n => if n ≤ bound then some n else none
  | none => none

/-- The decimal digits of a number. -/
def decimal (n : Nat) : List Char :=
  Nat.toDigits 10 n

/-- The decimal digits of a number, with zeros in front up to `width` digits. -/
def padded (width n : Nat) : List Char :=
  List.replicate (width - (decimal n).length) '0' ++ decimal n

end DavCourier.Numeral
