import DavCourier.Calendar.Instant
import DavCourier.Text.Blank
import DavCourier.Text.Case

/-!
# Dates as mail writes them

`MailDate.read?` reads a date with the name of its day first or without it, such as
`Mon, 01 Jan 2024 00:00:00 GMT`. Seconds may be left out, blanks between the parts may be
many, zones may have names, and comments in parentheses may follow. The name of the day
has to be the right one.
-/

namespace DavCourier.Calendar.MailDate

/-- What a part of a date reads : its value and the text after it. -/
abbrev Read (α : Type) := Option (α × List Char)

/-- The text after its blanks. -/
def skipBlanks (cs : List Char) : List Char :=
  cs.dropWhile Text.isBlank

/-- The text after its blanks, of which there is one or more. -/
def blanks? : List Char → Option (List Char)
  | [] => none
  | c :: cs => if Text.isBlank c then some (skipBlanks cs) else none

/-- The text after a character. -/
def mark? (mark : Char) : List Char → Option (List Char)
  | [] => none
  | c :: cs => if c = mark then some cs else none

/-- The number that so many digits spell. -/
def digits? (least most : Nat) (cs : List Char) : Read Nat :=
  let digits := (cs.take most).takeWhile Char.isDigit
  if digits.length < least then none
  else (Numeral.value? 10 digits).map fun n => (n, cs.drop digits.length)

/-- The place of a name of three letters, in either case, in a list of names. -/
def name? (names : List String) (cs : List Char) : Read Nat :=
  let name := (cs.take 3).map Text.lower
  match names.findIdx? (fun s => s.toList.map Text.lower == name) with
  | some i => some (i, cs.drop 3)
  | none => none

/-- The year that digits stand for : two of them are of 1950 to 2049, and three count from
1900. -/
def fullYear (length year : Nat) : Nat :=
  if length = 2 then if year < 50 then year + 2000 else year + 1900
  else if length = 3 then year + 1900
  else year

/-- A year in two digits or more. -/
def year? (cs : List Char) : Read Nat :=
  (digits? 2 cs.length cs).map fun (n, rest) => (fullYear (cs.length - rest.length) n, rest)

/-- The zones with names, and their hours from the zone of Greenwich. -/
def zones : List (String × Int) :=
  [("gmt", 0), ("ut", 0), ("z", 0), ("edt", -4), ("est", -5), ("cdt", -5), ("cst", -6),
    ("mdt", -6), ("mst", -7), ("pdt", -7), ("pst", -8)]

/-- The seconds by which the clocks of a named zone are ahead. Zones of one letter say
nothing; `j` is none. -/
def namedZone? (name : List Char) : Option Int :=
  match zones.lookup (String.ofList (name.map Text.lower)) with
  | some hours => some (hours * 3600)
  | none =>
    match name.map Text.lower with
    | [c] => if c = 'j' then none else some 0
    | _ => none

/-- The seconds by which the clocks of a zone are ahead, from hours and minutes. -/
def numericZone? (cs : List Char) : Option (Int × List Char) :=
  match cs with
  | sign :: rest => do
    let direction : Int ← if sign = '+' then some 1 else if sign = '-' then some (-1) else none
    let (hours, rest) ← digits? 2 2 rest
    let (minutes, rest) ← digits? 2 2 rest
    if 59 < minutes then none
    else some (direction * (hours * 3600 + minutes * 60), rest)
  | [] => none

/-- The seconds by which the clocks of a zone are ahead. -/
def zone? (cs : List Char) : Read Int :=
  match cs.takeWhile Char.isAlpha with
  | [] => numericZone? cs
  | name => (namedZone? name).map (·, cs.drop name.length)

/-- The text after the end of a comment, `depth` comments deep; in it, a character after a
backslash has no meaning. -/
def commentEnd? (depth : Nat) (escaped : Bool) : List Char → Option (List Char)
  | [] => none
  | c :: cs =>
    if escaped then commentEnd? depth false cs
    else if c = '\\' then commentEnd? depth true cs
    else if c = '(' then commentEnd? (depth + 1) false cs
    else if c = ')' then if depth ≤ 1 then some cs else commentEnd? (depth - 1) false cs
    else commentEnd? depth false cs

/-- Whether a text is nothing but comments with blanks before them. At most `n` are read. -/
def isComments : Nat → List Char → Bool
  | _, [] => true
  | 0, _ => false
  | n + 1, cs =>
    match skipBlanks cs with
    | '(' :: rest =>
      match commentEnd? 1 false rest with
      | some after => isComments n after
      | none => false
    | _ => false

/-- The day of the week at the start of a date, if there is one. -/
def weekday? (cs : List Char) : Option (Option Nat × List Char) :=
  match name? weekdayNames cs with
  | none => some (none, cs)
  | some (day, rest) => (mark? ',' rest).map fun rest => (some day, rest)

/-- The first and the last year that a date may have. -/
def yearRange : Int × Int := (-262143, 262142)

/-- The parts of a date. -/
structure Parts where
  weekday : Option Nat
  date : Date
  hour : Nat
  minute : Nat
  second : Nat
  /-- The seconds by which the clocks are ahead. -/
  ahead : Int

/-- The parts of a written date. -/
def parts? (cs : List Char) : Option Parts := do
  let (weekday, rest) ← weekday? (skipBlanks cs)
  let (day, rest) ← digits? 1 2 (skipBlanks rest)
  let rest ← blanks? rest
  let (month, rest) ← name? monthNames rest
  let rest ← blanks? rest
  let (year, rest) ← year? rest
  let rest ← blanks? rest
  let (hour, rest) ← digits? 2 2 rest
  let rest ← mark? ':' (skipBlanks rest)
  let (minute, rest) ← digits? 2 2 (skipBlanks rest)
  let (second, rest) ←
    match mark? ':' (skipBlanks rest) with
    | some rest => digits? 2 2 rest
    | none => some (0, rest)
  let rest ← blanks? rest
  let (ahead, rest) ← zone? rest
  if isComments rest.length rest then
    some ⟨weekday, ⟨year, month + 1, day⟩, hour, minute, second, ahead⟩
  else none

/-- Whether there is such a date and such a time. -/
def Parts.isValid (p : Parts) : Bool :=
  p.date.isValid && p.date.year ≤ yearRange.2
    && p.weekday.all (· == Calendar.weekday p.date.toDays)
    && p.hour ≤ 23 && p.minute ≤ 59 && p.second ≤ 60
    && -86400 < p.ahead && p.ahead < 86400

/-- The instant of a date. The second 60 is a leap second after the second 59. -/
def Parts.instant (p : Parts) : Instant :=
  { seconds := p.date.toDays * Instant.daySeconds + p.hour * 3600 + p.minute * 60
      + min p.second 59 - p.ahead
    nanos := if p.second = 60 then 1000000000 else 0 }

/-- The instant that a written date stands for. -/
def read? (s : String) : Option Instant :=
  match parts? s.toList with
  | some p =>
    if p.isValid && (Date.ofDays p.instant.days).year ≤ yearRange.2 then some p.instant
    else none
  | none => none

end DavCourier.Calendar.MailDate
