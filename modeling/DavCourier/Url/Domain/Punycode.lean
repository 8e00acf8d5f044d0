import DavCourier.Text.Split
import DavCourier.Text.Case

/-!
# Labels in ASCII

A label with characters outside ASCII is written as its characters of ASCII, a hyphen, and
letters and digits that say which other characters stand where : `encode` writes it and
`decode?` reads it. Each of the other characters is told by the distance to the one before
it, in the order of the characters and then of the places. The digits of a distance have a
base that depends on the distances before (`adapt`).
-/

namespace DavCourier.Url.Punycode

/-- The number of digits. -/
def base : Nat := 36

/-- The first character outside ASCII. -/
def firstCode : Nat := 0x80

/-- The bias of the first distance. -/
def firstBias : Nat := 72

/-- Counts how often a distance can be made smaller, and the bias it ends with. -/
def settleBias (k delta : Nat) : Nat :=
  if 455 < delta then settleBias (k + base) (delta / 35)
  else k + base * delta / (delta + 38)
  termination_by delta
  decreasing_by omega

/-- The bias after a distance, with the number of characters so far. The first distance
counts less. -/
def adapt (delta count : Nat) (first : Bool) : Nat :=
  let delta := if first then delta / 700 else delta / 2
  settleBias 0 (delta + delta / count)

/-- The digits that end a distance are below this, at a place. -/
def threshold (k bias : Nat) : Nat :=
  min 26 (max 1 (k - bias))

/-- The character of a digit. -/
def digit (n : Nat) : Char :=
  if n < 26 then Char.ofNat (0x61 + n) else Char.ofNat (0x30 + (n - 26))

/-- The value of a digit. -/
def digit? (c : Char) : Option Nat :=
  let c := Text.lower c
  if c.isLower then some (c.toNat - 0x61)
  else if c.isDigit then some (c.toNat - 0x30 + 26)
  else none

theorem one_le_threshold (k bias : Nat) : 1 ≤ threshold k bias := by
  unfold threshold
  omega

/-- The digits of a distance from a place on. -/
def digitsFrom (bias k n : Nat) : List Char :=
  let t := threshold k bias
  if n < t then [digit n]
  else digit (t + (n - t) % (base - t)) :: digitsFrom bias (k + base) ((n - t) / (base - t))
  termination_by n
  decreasing_by
    have := one_le_threshold k bias
    have := Nat.div_le_self (n - threshold k bias) (base - threshold k bias)
    omega

/-- What was written so far. -/
structure Writing where
  output : List Char
  /-- The distance since the last character that was told. -/
  delta : Nat
  bias : Nat
  /-- How many characters were told. -/
  count : Nat
  /-- Whether no distance was written yet. -/
  first : Bool

/-- Goes past one character of the label, and tells it if it is the one of the round. -/
def Writing.pass (code : Nat) (w : Writing) (c : Char) : Writing :=
  if c.toNat < code then { w with delta := w.delta + 1 }
  else if c.toNat = code then
    { output := w.output ++ digitsFrom w.bias base w.delta
      delta := 0
      bias := adapt w.delta (w.count + 1) w.first
      count := w.count + 1
      first := false }
  else w

/-- Tells the characters of a label with a code, after those with smaller ones. -/
def Writing.round (label : List Char) (last : Nat) (w : Writing) (code : Nat) : Writing :=
  let w := { w with delta := w.delta + (code - last) * (w.count + 1) }
  let w := label.foldl (Writing.pass code) w
  { w with delta := w.delta + 1 }

/-- Tells the characters with the codes, which grow. -/
def Writing.rounds (label : List Char) (last : Nat) (w : Writing) : List Nat → Writing
  | [] => w
  | code :: codes => (w.round label last code).rounds label (code + 1) codes

/-- The codes outside ASCII in a label, in their order and without repetitions. -/
def codes (label : List Char) : List Nat :=
  (((label.map Char.toNat).filter (firstCode ≤ ·)).mergeSort (· ≤ ·)).eraseReps

/-- The written form of a label. -/
def encode (label : List Char) : List Char :=
  let basic := label.filter fun c => c.toNat < firstCode
  let start : Writing :=
    { output := if basic.isEmpty then [] else basic ++ ['-']
      delta := 0
      bias := firstBias
      count := basic.length
      first := true }
  (start.rounds label firstCode (codes label)).output

/-- What was read so far. -/
structure Reading where
  label : List Char
  /-- The code of the last character. -/
  code : Nat := firstCode
  /-- The place for the next character, if its code were the same. -/
  place : Nat := 0
  bias : Nat := firstBias
  /-- The part of a distance that was read. -/
  delta : Nat := 0
  weight : Nat := 1
  k : Nat := base
  /-- Whether the digits of a distance are not at their end. -/
  inside : Bool := false
  /-- Whether no distance was read yet. -/
  first : Bool := true

/-- Whether a number is a character. -/
def isCode (n : Nat) : Bool :=
  n < 0xD800 || (0xDFFF < n && n < 0x110000)

/-- Puts the character in that a whole distance tells. -/
def Reading.place? (r : Reading) (delta : Nat) : Option Reading :=
  let count := r.label.length + 1
  let code := r.code + (r.place + delta) / count
  let place := (r.place + delta) % count
  if isCode code then
    some
      { label := r.label.take place ++ Char.ofNat code :: r.label.drop place
        code := code
        place := place + 1
        bias := adapt delta count r.first
        first := false }
  else none

/-- Reads one digit. -/
def Reading.step (r : Reading) (c : Char) : Option Reading :=
  (digit? c).bind fun n =>
    let delta := r.delta + n * r.weight
    let t := threshold r.k r.bias
    if n < t then r.place? delta
    else
      some { r with
        delta := delta, weight := r.weight * (base - t), k := r.k + base, inside := true }

/-- Reads digits. -/
def Reading.steps (r : Reading) : List Char → Option Reading
  | [] => if r.inside then none else some r
  | c :: cs => (r.step c).bind fun r => r.steps cs

/-- The characters of ASCII and the digits of a written label. The last hyphen separates
them, unless it comes first. -/
def parts (text : List Char) : List Char × List Char :=
  match text.reverse.span (· ≠ '-') with
  | (digits, _ :: c :: basic) => ((c :: basic).reverse, digits.reverse)
  | _ => ([], text)

/-- The label that a written form tells. -/
def decode? (text : List Char) : Option (List Char) :=
  let (basic, digits) := parts text
  (Reading.steps { label := basic } digits).map Reading.label

end DavCourier.Url.Punycode
