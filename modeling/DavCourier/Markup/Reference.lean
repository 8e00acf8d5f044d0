import DavCourier.Text.Utf8
import DavCourier.Text.Numeral

/-!
# Character references

A reference stands for a character in the text of a document : `&`, a name or a number,
and `;`. `expand` puts characters in the place of the references and `escape` writes
references for the characters that markup uses.
-/

namespace DavCourier.Markup.Reference

/-- Why a number between `&#` and `;` is no character. -/
inductive NumberFault where
  | empty
  | sign
  | digit
  | overflow
  | zero
  | notCharacter (number : Nat)
  deriving DecidableEq, Repr

/-- Why a text has a wrong reference. Places count bytes of the text. -/
inductive Fault where
  /-- No `;` follows the `&` at `start` before the next `&` or the end. -/
  | unterminated (start length : Nat)
  | unknown (start stop : Nat) (name : String)
  | number (fault : NumberFault)
  deriving DecidableEq, Repr

/-- The wording of a wrong number. -/
def NumberFault.message : NumberFault → String
  | empty => "cannot parse integer from empty string"
  | sign => "unexpected number sign"
  | digit => "invalid digit found in string"
  | overflow => "number too large to fit in target type"
  | zero => "0x0 character is not permitted in XML"
  | notCharacter n => s!"`{n}` is not a valid codepoint"

/-- The wording of a wrong reference. -/
def Fault.message : Fault → String
  | unterminated start length =>
    s!"Error while escaping character at range {start}..{length}: Cannot find ';' after '&'"
  | unknown start stop name => s!"at {start}..{stop}: unrecognized entity `{name}`"
  | number fault => s!"invalid character reference: {fault.message}"

/-- The number that the digits go on to spell after `acc`, if it has no more than 32 bits. -/
def numberFrom (base acc : Nat) : List Char → Except NumberFault Nat
  | [] => .ok acc
  | c :: cs =>
    match Numeral.digit? base c with
    | none => .error .digit
    | some v =>
      if acc * base + v < UInt32.size then numberFrom base (acc * base + v) cs
      else .error .overflow

/-- The number that one or more digits spell, without a sign. -/
def number (base : Nat) : List Char → Except NumberFault Nat
  | [] => .error .empty
  | c :: cs => if c = '+' ∨ c = '-' then .error .sign else numberFrom base 0 (c :: cs)

/-- The character with a number; none has the number zero. -/
def ofNumber (n : Nat) : Except NumberFault Char :=
  if n = 0 then .error .zero
  else if n.isValidChar then .ok (Char.ofNat n)
  else .error (.notCharacter n)

/-- The character that `&#…;` stands for. -/
def numeric (cs : List Char) : Except NumberFault Char :=
  match cs with
  | 'x' :: ds => number 16 ds >>= ofNumber
  | ds => number 10 ds >>= ofNumber

/-- The character that a name stands for. -/
def named? (name : List Char) : Option Char :=
  if name = "lt".toList then some '<'
  else if name = "gt".toList then some '>'
  else if name = "amp".toList then some '&'
  else if name = "apos".toList then some '\''
  else if name = "quot".toList then some '"'
  else none

/-- The number of bytes of the text. -/
def size (cs : List Char) : Nat :=
  (Utf8.encode cs).length

/-- The characters up to the next `;` and those after it, if no `&` comes before. -/
def cut? : List Char → Option (List Char × List Char)
  | [] => none
  | c :: cs =>
    if c = ';' then some ([], cs)
    else if c = '&' then none
    else (cut? cs).map fun (name, rest) => (c :: name, rest)

theorem length_of_cut? {cs name rest : List Char} (h : cut? cs = some (name, rest)) :
    rest.length < cs.length := by
  induction cs generalizing name rest with
  | nil => simp [cut?] at h
  | cons c cs ih =>
    unfold cut? at h
    split at h
    · simp only [Option.some.injEq, Prod.mk.injEq] at h
      simp [h.2]
    · split at h
      · simp at h
      · obtain ⟨⟨n, r⟩, hn, he⟩ := Option.map_eq_some_iff.mp h
        simp only [Prod.mk.injEq] at he
        have := ih hn
        rw [he.2] at this
        simp only [List.length_cons]
        omega

/-- The character that the reference with this content stands for. Its `&` is at `start`. -/
def resolve (start : Nat) (content : List Char) : Except Fault Char :=
  match content with
  | '#' :: digits => (numeric digits).mapError .number
  | name =>
    match named? name with
    | some c => .ok c
    | none => .error (.unknown (start + 1) (start + 1 + size name) (String.ofList name))

/-- Expands the references of a text that `offset` bytes precede. -/
def expandFrom (offset : Nat) (cs : List Char) : Except Fault (List Char) :=
  match cs with
  | [] => .ok []
  | c :: cs =>
    if c = '&' then
      match h : cut? cs with
      | none => .error (.unterminated offset (offset + 1 + size cs))
      | some (content, rest) => do
        let c ← resolve offset content
        let ds ← expandFrom (offset + 2 + size content) rest
        return c :: ds
    else do
      let ds ← expandFrom (offset + size [c]) cs
      return c :: ds
  termination_by cs.length
  decreasing_by
    · have := length_of_cut? h
      simp only [List.length_cons]
      omega
    · simp

/-- Puts characters in the place of the references. -/
def expand (cs : List Char) : Except Fault (List Char) :=
  expandFrom 0 cs

/-- A character as the text of a document writes it. -/
def escapeChar (c : Char) : List Char :=
  if c = '<' then "&lt;".toList
  else if c = '>' then "&gt;".toList
  else if c = '\'' then "&apos;".toList
  else if c = '&' then "&amp;".toList
  else if c = '"' then "&quot;".toList
  else [c]

/-- Writes references for the characters that markup uses. -/
def escape (cs : List Char) : List Char :=
  cs.flatMap escapeChar

end DavCourier.Markup.Reference
