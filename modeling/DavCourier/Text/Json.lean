/-!
# JSON on several lines

A `Block` is a JSON value that knows how to write itself at a depth. Arrays and objects put
each item on a line of its own, two blanks deeper; empty ones stay on one line.
-/

namespace DavCourier.Text.Json

/-- A value as it is written at a depth. -/
abbrev Block := Nat → String

/-- A hexadecimal digit in lower case. -/
def hexDigit (n : Nat) : Char :=
  if n < 10 then Char.ofNat (0x30 + n) else Char.ofNat (0x57 + n)

/-- The characters that have an escape of one letter, with that letter. -/
def letterEscapes : List (Char × Char) :=
  [('"', '"'), ('\\', '\\'), ('\x08', 'b'), ('\t', 't'), ('\n', 'n'), ('\x0c', 'f'), ('\r', 'r')]

/-- A character inside quotes. Control characters without a letter are numbers. -/
def escapeChar (c : Char) : List Char :=
  match letterEscapes.lookup c with
  | some letter => ['\\', letter]
  | none =>
    if c.toNat < 0x20 then
      "\\u00".toList ++ [hexDigit (c.toNat / 16), hexDigit (c.toNat % 16)]
    else [c]

/-- A text in quotes. -/
def quoted (s : String) : String :=
  String.ofList ('"' :: s.toList.flatMap escapeChar ++ ['"'])

/-- A text. -/
def text (s : String) : Block := fun _ => quoted s

/-- A number. -/
def number (n : Nat) : Block := fun _ => toString n

/-- A truth value. -/
def truth (b : Bool) : Block := fun _ => if b then "true" else "false"

/-- A text, or `null`. -/
def optional (s : Option String) : Block := fun _ =>
  match s with
  | some s => quoted s
  | none => "null"

/-- The start of a line at a depth. -/
def newLine (depth : Nat) : String :=
  "\n".pushn ' ' (2 * depth)

/-- Items between two marks. -/
def enclosed (first last : String) (items : List Block) : Block := fun depth =>
  if items.isEmpty then first ++ last
  else
    first ++ ",".intercalate (items.map fun item => newLine (depth + 1) ++ item (depth + 1))
      ++ newLine depth ++ last

/-- An array. -/
def array (items : List Block) : Block :=
  enclosed "[" "]" items

/-- An object with its fields in order. -/
def object (fields : List (String × Block)) : Block :=
  enclosed "\x7b" "\x7d" (fields.map fun (name, value) depth => quoted name ++ ": " ++ value depth)

end DavCourier.Text.Json
