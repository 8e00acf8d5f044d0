import DavCourier.Markup.Scope

/-!
# Events of a document

`Reader.step` turns a piece into the events it stands for : the start and the end of
elements, with the namespace of each, and texts. A tag that closes itself is a start and
an end. The reader keeps the elements that are open and refuses an end that does not fit.
-/

namespace DavCourier.Markup

/-- What happens in a document, in the order of the document. -/
inductive Event where
  | start (name : Bytes) (space : Resolution)
  | stop
  | text (raw : Bytes)
  | literal (raw : Bytes)
  deriving DecidableEq, Repr

/-- An open element : its name and the declarations in force inside it. -/
structure OpenElement where
  name : Bytes
  scope : Scope
  deriving DecidableEq, Repr

/-- The open elements, the innermost first. -/
abbrev Reader := List OpenElement

/-- A name as it appears in the wording of a fault : nothing if it is not UTF-8. -/
def printedName (name : Bytes) : String :=
  match Utf8.decodeString name with
  | .ok s => s
  | .error _ => ""

/-- The name that a tag starts with. -/
def tagName (content : Bytes) : Bytes :=
  content.takeWhile fun b => !isSpace b

/-- What follows the name in a tag. -/
def tagRest (content : Bytes) : Bytes :=
  content.dropWhile fun b => !isSpace b

/-- The content of a tag that closes itself, without the slash at its end. -/
def selfClosed? (content : Bytes) : Option Bytes :=
  match content.reverse with
  | 0x2F :: rest => some rest.reverse
  | _ => none

/-- The name in an end tag, without the spaces after it. Spaces alone stay. -/
def endName (content : Bytes) : Bytes :=
  if content.all isSpace then content
  else (content.reverse.dropWhile isSpace).reverse

namespace Reader

/-- The declarations in force. -/
def scope : Reader → Scope
  | [] => Scope.initial
  | e :: _ => e.scope

/-- The element that a tag opens. -/
def element (reader : Reader) (content : Bytes) : Except Fault OpenElement :=
  match reader.scope.enter (attributes (tagRest content)) with
  | .ok scope => .ok ⟨tagName content, scope⟩
  | .error fault => .error (.binding fault)

/-- The event of an element that opens. -/
def startOf (e : OpenElement) : Event :=
  .start e.name (e.scope.resolve e.name)

/-- The events of a piece. -/
def step (reader : Reader) : Piece → Except Fault (Reader × List Event)
  | .text raw => .ok (reader, [.text raw])
  | .literal raw => .ok (reader, [.literal raw])
  | .skipped => .ok (reader, [])
  | .tag content =>
    match selfClosed? content with
    | some inner => do
      let e ← reader.element inner
      return (reader, [startOf e, .stop])
    | none => do
      let e ← reader.element content
      return (e :: reader, [startOf e])
  | .endTag content =>
    match reader with
    | [] => .error (.unmatchedEnd (printedName (endName content)))
    | e :: outer =>
      if endName content = e.name then .ok (outer, [.stop])
      else .error (.mismatchedEnd (printedName e.name) (printedName (endName content)))

end Reader

end DavCourier.Markup
