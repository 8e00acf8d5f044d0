import DavCourier.Markup.Node

/-!
# Reading a document

`Node.read` runs the cutter, the reader and the builder side by side over the bytes of a
document, so that the fault it reports is the first one in the order of the document.
-/

namespace DavCourier.Markup

/-- The state of reading between two bytes of a document. -/
structure Reading where
  cutter : Cutter
  reader : Reader
  builder : Builder
  deriving DecidableEq, Repr

namespace Reading

/-- The state before the first byte. -/
def start : Reading := ⟨Cutter.start, [], Builder.start⟩

/-- The open elements and the tree after a piece, if there is one. -/
def stepPiece (reader : Reader) (builder : Builder) :
    Option Piece → Except Fault (Reader × Builder)
  | none => .ok (reader, builder)
  | some piece => do
    let (reader, events) ← reader.step piece
    let builder ← events.foldlM Builder.step builder
    return (reader, builder)

/-- The state after one more byte. -/
def step (r : Reading) (b : UInt8) : Except Fault Reading := do
  let (cutter, piece) ← r.cutter.step b
  let (reader, builder) ← stepPiece r.reader r.builder piece
  return ⟨cutter, reader, builder⟩

/-- The root of a document that ends here. -/
def finish (r : Reading) : Except Fault Node := do
  let piece ← r.cutter.finish
  let (_, builder) ← stepPiece r.reader r.builder piece
  builder.finish

end Reading

/-- The root of the document that the bytes spell, or its first fault. -/
def Node.read (bs : Bytes) : Except Fault Node :=
  bs.foldlM Reading.step Reading.start >>= Reading.finish

end DavCourier.Markup
