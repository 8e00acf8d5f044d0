import DavCourier.Text.Split
import DavCourier.Text.Numeral

/-!
# Numeric hosts

An address of 32 bits is written as up to four numbers with dots between them, each in
decimal, octal (after `0`) or hexadecimal (after `0x`); the last number fills what the
others leave. An address of 128 bits is eight numbers of 16 bits with colons between
them; `::` stands for zeros, and the last two numbers may have the form of an address of
32 bits. `render4` and `render6` write the one form that each address has.
-/

namespace DavCourier.Url

/-- The parts of a dotted text, without an empty one at the end. -/
def dottedParts (cs : List Char) : List (List Char) :=
  let parts := Text.splitAt '.' cs
  if parts.getLast? = some [] then parts.dropLast else parts

/-- The number of a part of an address, in the base that it shows. -/
def partNumber? (part : List Char) : Option Nat :=
  match part with
  | [] => none
  | '0' :: x :: digits =>
    if x = 'x' ∨ x = 'X' then Numeral.valueFrom? 16 0 digits
    else Numeral.valueFrom? 8 0 (x :: digits)
  | digits => Numeral.valueFrom? 10 0 digits

/-- Whether a host has the form of a number at its end and must be an address. -/
def endsInNumber (host : List Char) : Bool :=
  match (dottedParts host).getLast? with
  | none => false
  | some last =>
    (!last.isEmpty && (Numeral.valueFrom? 10 0 last).isSome) || (partNumber? last).isSome

/-- The value of the parts before the last one, each below 256. -/
def leadingValue? : List Nat → Nat → Option Nat
  | [], _ => some 0
  | n :: ns, place =>
    if n ≤ 255 then (leadingValue? ns (place - 1)).map (n * 256 ^ place + ·) else none

/-- The address of 32 bits that a dotted text spells. -/
def address4? (host : List Char) : Option Nat :=
  let parts := dottedParts host
  if 4 < parts.length then none
  else
    match parts.mapM partNumber? with
    | none => none
    | some numbers =>
      match numbers.getLast? with
      | none => none
      | some last =>
        if last < Nat.pow 256 (5 - numbers.length) then
          (leadingValue? numbers.dropLast 3).map (· + last)
        else none

/-- An address of 32 bits as four decimal numbers. -/
def render4 (address : Nat) : List Char :=
  Text.join '.' ([3, 2, 1, 0].map fun place => Numeral.decimal (address >>> (8 * place) % 256))

/-- A number of 16 bits in one to four hexadecimal digits. -/
def group? (cs : List Char) : Option Nat :=
  if cs.length ≤ 4 then Numeral.value? 16 cs else none

/-- A decimal number below 256 without zeros in front. -/
def octet? (cs : List Char) : Option Nat :=
  match cs with
  | '0' :: _ :: _ => none
  | _ => (Numeral.value? 10 cs).bind fun n => if n ≤ 255 then some n else none

/-- The two numbers of 16 bits that an address of 32 bits at the end spells. -/
def tail4? (cs : List Char) : Option (List Nat) :=
  match (Text.splitAt '.' cs).mapM octet? with
  | some [a, b, c, d] => some [a * 256 + b, c * 256 + d]
  | _ => none

/-- The numbers of fields without an empty one; only the last may have dots. -/
def groups? : List (List Char) → Option (List Nat)
  | [] => some []
  | [field] => if '.' ∈ field then tail4? field else (group? field).map ([·])
  | field :: fields => do
    let n ← group? field
    let ns ← groups? fields
    return n :: ns

/-- The fields between colons, with one empty field in the place of a `::` at an end. -/
def colonFields? (cs : List Char) : Option (List (List Char)) :=
  let fields := Text.splitAt ':' cs
  let trimmed? : Option (List (List Char)) :=
    match fields with
    | [] :: [] :: rest => some ([] :: rest)
    | [] :: _ => none
    | fields => some fields
  trimmed?.bind fun fields =>
    match fields.reverse with
    | [] :: [] :: rest => some ([] :: rest).reverse
    | [[]] => some [[]]
    | [] :: _ => none
    | _ => some fields

/-- The eight numbers of an address of 128 bits. -/
def address6? (cs : List Char) : Option (List Nat) :=
  if cs.length < 2 then none
  else
    match colonFields? cs with
    | none => none
    | some fields =>
      match fields.span (!·.isEmpty) with
      | (before, []) =>
        (groups? before).bind fun ns => if ns.length = 8 then some ns else none
      | (before, _ :: after) =>
        if before.any (·.contains '.') then none
        else do
          let a ← groups? before
          let b ← groups? after
          if a.length + b.length ≤ 7 then
            some (a ++ List.replicate (8 - a.length - b.length) 0 ++ b)
          else none

/-- The number of zeros at the start. -/
def zeros (ns : List Nat) : Nat :=
  (ns.takeWhile (· = 0)).length

/-- The place and the length of the first longest run of zeros. -/
def longestZeros : Nat → List Nat → Nat × Nat
  | _, [] => (0, 0)
  | place, n :: ns =>
    let here := zeros (n :: ns)
    let (there, length) := longestZeros (place + 1) ns
    if length ≤ here then (place, here) else (there, length)

/-- A number in hexadecimal digits. -/
def hex (n : Nat) : List Char :=
  Nat.toDigits 16 n

/-- An address of 128 bits, with `::` for the first longest run of two zeros or more. -/
def render6 (ns : List Nat) : List Char :=
  let (place, length) := longestZeros 0 ns
  if length < 2 then Text.join ':' (ns.map hex)
  else
    Text.join ':' ((ns.take place).map hex) ++ "::".toList
      ++ Text.join ':' ((ns.drop (place + length)).map hex)

end DavCourier.Url
