import DavCourier.Text.Blank
import DavCourier.Text.Split
import DavCourier.Text.Numeral

/-!
# Sets of characters written as ranges

A set of characters is a table of hexadecimal numbers and ranges of them, such as
`5f 61-7a`, with blanks between them. In other tables values follow each number or range
after a colon, with points between them, such as `61-7a:41 df:73.73`.
-/

namespace DavCourier.Text

/-- The first and the last number of an item of a table. -/
def range? (item : List Char) : Option (Nat × Nat) :=
  match splitAt '-' item with
  | [a] => (Numeral.value? 16 a).map fun n => (n, n)
  | [a, b] => do
    let first ← Numeral.value? 16 a
    let last ← Numeral.value? 16 b
    return (first, last)
  | _ => none

/-- The ranges of a table. -/
def rangesOf (table : List String) : List (Nat × Nat) :=
  table.flatMap fun line => (words line.toList).filterMap range?

/-- A range of numbers and the values of the first one. -/
structure Row where
  first : Nat
  last : Nat
  values : List Nat
  deriving DecidableEq, Repr

/-- The values that an item has after its colon. -/
def values? (text : List Char) : Option (List Nat) :=
  if text.isEmpty then some [] else (splitAt '.' text).mapM (Numeral.value? 16)

/-- The row of an item with a colon. -/
def row? (item : List Char) : Option Row :=
  match splitAt ':' item with
  | [range, text] => do
    let (first, last) ← range? range
    let values ← values? text
    return ⟨first, last, values⟩
  | _ => none

/-- The rows of a table. -/
def rowsOf (table : List String) : List Row :=
  table.flatMap fun line => (words line.toList).filterMap row?

/-- The values of a number : those of the first one of its range, moved on as far as the
number is from it. -/
def valuesAt? (rows : List Row) (n : Nat) : Option (List Nat) :=
  (rows.find? fun row => row.first ≤ n && n ≤ row.last).map fun row =>
    row.values.map (· + (n - row.first))

/-- Whether a number is in one of the ranges. -/
def inRanges (ranges : List (Nat × Nat)) (n : Nat) : Bool :=
  ranges.any fun (first, last) => first ≤ n && n ≤ last

end DavCourier.Text
