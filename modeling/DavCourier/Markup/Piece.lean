import DavCourier.Markup.Fault

/-!
# Cutting a document into pieces

`Cutter.step` reads one byte and ends a piece where the byte ends it; the pieces are the
texts, the tags, the literal sections, and what has no content for a reader (comments,
instructions and the document type). A quoted `>` ends no tag. `Cutter.finish` says what
the end of the input means.
-/

namespace DavCourier.Markup

/-- A piece of a document, without its delimiters. -/
inductive Piece where
  | text (content : Bytes)
  | tag (content : Bytes)
  | endTag (content : Bytes)
  | literal (content : Bytes)
  | skipped
  deriving DecidableEq, Repr

/-- Space, tab, line feed and carriage return. -/
def isSpace (b : UInt8) : Bool :=
  b == 0x20 || b == 0x09 || b == 0x0A || b == 0x0D

/-- An upper-case letter in lower case. -/
def lowerByte (b : UInt8) : UInt8 :=
  if 0x41 ≤ b ∧ b ≤ 0x5A then b + 0x20 else b

/-- The place between two bytes of a document. What was read of a piece is in reverse. -/
inductive Cutter where
  | text (seen : Bytes)
  /-- After `<`. -/
  | opened
  | tag (quote : Option UInt8) (seen : Bytes)
  | endTag (quote : Option UInt8) (seen : Bytes)
  /-- After `<?`. -/
  | instructionOpened
  | instruction (question : Bool)
  /-- After `<!`. -/
  | declaration
  /-- After `<!-`. -/
  | commentOpened
  /-- In a comment, after so many dashes, two at most. -/
  | comment (dashes : Nat)
  /-- Before the rest of what opens a literal section. -/
  | literalOpening (expected : Bytes)
  | literal (seen : Bytes)
  /-- Before the rest of what opens a document type, in lower case. -/
  | doctypeOpening (expected : Bytes)
  | doctype (depth : Nat) (named : Bool)
  deriving DecidableEq, Repr

namespace Cutter

/-- The start of a document. -/
def start : Cutter := .text []

/-- The quote in force after a byte of a tag. -/
def quoteAfter (quote : Option UInt8) (b : UInt8) : Option UInt8 :=
  match quote with
  | none => if b == 0x22 || b == 0x27 then some b else none
  | some q => if b == q then none else some q

/-- The piece that a text makes; an empty one makes none. -/
def textPiece (seen : Bytes) : Option Piece :=
  if seen.isEmpty then none else some (.text seen.reverse)

/-- One byte inside a tag. -/
def stepTag (quote : Option UInt8) (seen : Bytes) (b : UInt8) : Cutter × Option Piece :=
  if quote.isNone && b == 0x3E then (start, some (.tag seen.reverse))
  else (.tag (quoteAfter quote b) (b :: seen), none)

/-- The place after one more byte, and the piece that it ends. -/
def step (cutter : Cutter) (b : UInt8) : Except Fault (Cutter × Option Piece) :=
  match cutter with
  | .text seen =>
    if b == 0x3C then .ok (.opened, textPiece seen) else .ok (.text (b :: seen), none)
  | .opened =>
    if b == 0x21 then .ok (.declaration, none)
    else if b == 0x2F then .ok (.endTag none [], none)
    else if b == 0x3F then .ok (.instructionOpened, none)
    else .ok (stepTag none [] b)
  | .tag quote seen => .ok (stepTag quote seen b)
  | .endTag quote seen =>
    if quote.isNone && b == 0x3E then .ok (start, some (.endTag seen.reverse))
    else .ok (.endTag (quoteAfter quote b) (b :: seen), none)
  | .instructionOpened =>
    if b == 0x3E then .error (.unclosed .instruction)
    else .ok (.instruction (b == 0x3F), none)
  | .instruction question =>
    if question && b == 0x3E then .ok (start, some .skipped)
    else .ok (.instruction (b == 0x3F), none)
  | .declaration =>
    if b == 0x2D then .ok (.commentOpened, none)
    else if b == 0x5B then .ok (.literalOpening [0x43, 0x44, 0x41, 0x54, 0x41, 0x5B], none)
    else if lowerByte b == 0x64 then
      .ok (.doctypeOpening [0x6F, 0x63, 0x74, 0x79, 0x70, 0x65], none)
    else .error .unknownMarkup
  | .commentOpened =>
    if b == 0x2D then .ok (.comment 0, none) else .error (.unclosed .comment)
  | .comment dashes =>
    if dashes == 2 && b == 0x3E then .ok (start, some .skipped)
    else if b == 0x2D then .ok (.comment (min 2 (dashes + 1)), none)
    else .ok (.comment 0, none)
  | .literalOpening expected =>
    match expected with
    | [] => .error (.unclosed .literal)
    | e :: rest =>
      if b == e then
        .ok (if rest.isEmpty then .literal [] else .literalOpening rest, none)
      else .error (.unclosed .literal)
  | .literal seen =>
    match b == 0x3E, seen with
    | true, 0x5D :: 0x5D :: content => .ok (start, some (.literal content.reverse))
    | _, _ => .ok (.literal (b :: seen), none)
  | .doctypeOpening expected =>
    match expected with
    | [] => .error (.unclosed .doctype)
    | e :: rest =>
      if lowerByte b == e then
        .ok (if rest.isEmpty then .doctype 0 false else .doctypeOpening rest, none)
      else .error (.unclosed .doctype)
  | .doctype depth named =>
    if b == 0x3C then .ok (.doctype (depth + 1) true, none)
    else if b == 0x3E then
      if depth == 0 then
        if named then .ok (start, some .skipped) else .error .namelessDoctype
      else .ok (.doctype (depth - 1) true, none)
    else .ok (.doctype depth (named || !isSpace b), none)

/-- The last piece of an input that ends here. -/
def finish : Cutter → Except Fault (Option Piece)
  | .text seen => .ok (textPiece seen)
  | .opened | .tag _ _ | .endTag _ _ => .error (.unclosed .tag)
  | .instructionOpened | .instruction _ => .error (.unclosed .instruction)
  | .declaration => .error .unknownMarkup
  | .commentOpened | .comment _ => .error (.unclosed .comment)
  | .literalOpening _ | .literal _ => .error (.unclosed .literal)
  | .doctypeOpening _ | .doctype _ _ => .error (.unclosed .doctype)

end Cutter

end DavCourier.Markup
