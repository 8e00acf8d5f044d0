/-!
# UTF-8

`encode` writes characters as bytes and `decode` reads them back. A sequence that is not
UTF-8 is a `Fault` : where it starts, and how many bytes of it cannot belong to any
character, or that the input ends within it. `decodeLossy` puts the replacement character
in the place of each fault.
-/

namespace DavCourier

/-- A sequence of bytes. -/
abbrev Bytes := List UInt8

namespace Utf8

/-- Why bytes are not UTF-8. -/
structure Fault where
  /-- The number of bytes before the fault. -/
  offset : Nat
  /-- How many bytes are wrong, or `none` if the input ends within a character. -/
  length : Option Nat
  deriving DecidableEq, Repr

/-- The wording of a fault. -/
def Fault.message (fault : Fault) : String :=
  match fault.length with
  | some n => s!"invalid utf-8 sequence of {n} bytes from index {fault.offset}"
  | none => s!"incomplete utf-8 byte sequence from index {fault.offset}"

/-- The bytes of the characters. -/
def encode (cs : List Char) : Bytes :=
  cs.flatMap String.utf8EncodeChar

/-- Bytes that continue a character. -/
def isContinuation (b : UInt8) : Bool :=
  0x80 ≤ b && b ≤ 0xBF

/-- The second bytes of a character of three bytes, which exclude longer spellings than
needed and surrogates. -/
def isSecondOfThree (a b : UInt8) : Bool :=
  (if a == 0xE0 then 0xA0 else 0x80) ≤ b && b ≤ (if a == 0xED then 0x9F else 0xBF)

/-- The second bytes of a character of four bytes, which exclude longer spellings than
needed and numbers past the last character. -/
def isSecondOfFour (a b : UInt8) : Bool :=
  (if a == 0xF0 then 0x90 else 0x80) ≤ b && b ≤ (if a == 0xF4 then 0x8F else 0xBF)

/-- The low six bits of a continuation. -/
def payload (b : UInt8) : Nat :=
  b.toNat % 64

/-- One step of reading : the first character, or the length of the fault, with the bytes
that follow it. -/
inductive Step where
  | char (c : Char) (rest : Bytes)
  | wrong (length : Nat) (rest : Bytes)
  | short

/-- Reads the character that starts with `a`. -/
def step (a : UInt8) (bs : Bytes) : Step :=
  if a < 0x80 then .char (Char.ofNat a.toNat) bs
  else if a < 0xC2 then .wrong 1 bs
  else if a < 0xE0 then
    match bs with
    | [] => .short
    | b :: bs₁ =>
      if isContinuation b then .char (Char.ofNat (a.toNat % 32 * 64 + payload b)) bs₁
      else .wrong 1 bs
  else if a < 0xF0 then
    match bs with
    | [] => .short
    | b :: bs₁ =>
      if isSecondOfThree a b then
        match bs₁ with
        | [] => .short
        | c :: bs₂ =>
          if isContinuation c then
            .char (Char.ofNat (a.toNat % 16 * 4096 + payload b * 64 + payload c)) bs₂
          else .wrong 2 bs₁
      else .wrong 1 bs
  else if a < 0xF5 then
    match bs with
    | [] => .short
    | b :: bs₁ =>
      if isSecondOfFour a b then
        match bs₁ with
        | [] => .short
        | c :: bs₂ =>
          if isContinuation c then
            match bs₂ with
            | [] => .short
            | d :: bs₃ =>
              if isContinuation d then
                .char (Char.ofNat
                  (a.toNat % 8 * 262144 + payload b * 4096 + payload c * 64 + payload d)) bs₃
              else .wrong 3 bs₂
          else .wrong 2 bs₁
      else .wrong 1 bs
  else .wrong 1 bs

/-- The bytes that a step leaves. -/
def Step.rest : Step → Bytes
  | .char _ rest => rest
  | .wrong _ rest => rest
  | .short => []

theorem length_rest_step (a : UInt8) (bs : Bytes) : (step a bs).rest.length ≤ bs.length := by
  unfold step
  repeat' split
  all_goals simp [Step.rest]
  all_goals omega

/-- Reads the characters of bytes that `offset` bytes precede. -/
def decodeFrom (offset : Nat) : Bytes → Except Fault (List Char)
  | [] => .ok []
  | a :: bs =>
    match h : step a bs with
    | .char c rest => (decodeFrom (offset + (bs.length + 1 - rest.length)) rest).map (c :: ·)
    | .wrong n _ => .error ⟨offset, some n⟩
    | .short => .error ⟨offset, none⟩
  termination_by bs => bs.length
  decreasing_by
    have := length_rest_step a bs
    rw [h] at this
    simp only [Step.rest] at this
    simp only [List.length_cons]
    omega

/-- The characters that the bytes encode, or the first fault. -/
def decode (bs : Bytes) : Except Fault (List Char) :=
  decodeFrom 0 bs

/-- The text that the bytes encode, or the first fault. -/
def decodeString (bs : Bytes) : Except Fault String :=
  (decode bs).map String.ofList

/-- The character that stands for what cannot be read. -/
def replacement : Char := '\ufffd'

/-- The characters that the bytes encode, with the replacement character for each fault. -/
def decodeLossy : Bytes → List Char
  | [] => []
  | a :: bs =>
    match _h : step a bs with
    | .char c rest => c :: decodeLossy rest
    | .wrong _ rest => replacement :: decodeLossy rest
    | .short => [replacement]
  termination_by bs => bs.length
  decreasing_by
    all_goals
      have := length_rest_step a bs
      rw [_h] at this
      simp only [Step.rest] at this
      simp only [List.length_cons]
      omega

end Utf8

/-- The bytes of a text. -/
def Utf8.encodeString (s : String) : Bytes :=
  encode s.toList

end DavCourier
