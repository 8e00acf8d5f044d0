import DavCourier.Markup.Reference

/-!
# Faults of documents

Why bytes are no document, with the wording of each fault. `Layout` is about the
delimiters of the markup, `Binding` about declarations of namespaces.
-/

namespace DavCourier.Markup

/-- The parts of a document that have an end of their own. -/
inductive Construct where
  | tag
  | instruction
  | comment
  | literal
  | doctype
  deriving DecidableEq, Repr

/-- What the part is called, and the characters that end it. -/
def Construct.ending : Construct → String
  | tag => "tag not closed: `>`"
  | instruction => "processing instruction or xml declaration not closed: `?>`"
  | comment => "comment not closed: `-->`"
  | literal => "CDATA not closed: `]]>`"
  | doctype => "DOCTYPE not closed: `>`"

/-- Why a declaration binds no namespace. -/
inductive BindingFault where
  /-- The prefix of the language itself stands for another namespace. -/
  | xmlTo (space : Bytes)
  /-- The prefix of declarations is declared. -/
  | xmlnsTo (space : Bytes)
  /-- Another prefix stands for the namespace of the language itself. -/
  | toXml (name : Bytes)
  /-- Another prefix stands for the namespace of declarations. -/
  | toXmlns (name : Bytes)
  deriving DecidableEq, Repr

/-- Why bytes are no document. -/
inductive Fault where
  /-- The input ends inside a part, or the part starts in a wrong way. -/
  | unclosed (part : Construct)
  | unknownMarkup
  | namelessDoctype
  | unmatchedEnd (found : String)
  | mismatchedEnd (expected found : String)
  | binding (fault : BindingFault)
  | unboundPrefix (name : String)
  | badName (fault : Utf8.Fault)
  | badSpace (fault : Utf8.Fault)
  | badText (fault : Utf8.Fault)
  | badLiteral (fault : Utf8.Fault)
  | badReference (fault : Reference.Fault)
  | secondRoot
  | noRoot
  | unopenedEnd
  | unfinished (name : String)
  deriving DecidableEq, Repr

/-- The namespace of the language itself. -/
def xmlSpace : String := "http://www.w3.org/XML/1998/namespace"

/-- The namespace of declarations of namespaces. -/
def xmlnsSpace : String := "http://www.w3.org/2000/xmlns/"

/-- A byte between quotes : printable ones stand for themselves, the quote has a backslash,
and others are hexadecimal numbers. -/
def quotedByte (b : UInt8) : List Char :=
  if b = 0x22 then ['\\', '"']
  else if 0x20 ≤ b ∧ b ≤ 0x7E then [Char.ofNat b.toNat]
  else '0' :: 'x' :: (Nat.toDigits 16 b.toNat).map Char.toUpper

/-- Bytes between quotes. -/
def quotedBytes (bs : Bytes) : String :=
  String.ofList ('"' :: bs.flatMap quotedByte ++ ['"'])

/-- The wording of a wrong declaration. -/
def BindingFault.message : BindingFault → String
  | xmlTo space => s!"the namespace prefix 'xml' cannot be bound to '{quotedBytes space}'"
  | xmlnsTo space => s!"the namespace prefix 'xmlns' cannot be bound to '{quotedBytes space}'"
  | toXml name => s!"the namespace prefix '{quotedBytes name}' cannot be bound to '{xmlSpace}'"
  | toXmlns name =>
    s!"the namespace prefix '{quotedBytes name}' cannot be bound to '{xmlnsSpace}'"

/-- The wording of a fault. -/
def Fault.message : Fault → String
  | unclosed part =>
    s!"XML parsing error: syntax error: {part.ending} not found before end of input"
  | unknownMarkup => "XML parsing error: syntax error: unknown or missed symbol in markup"
  | namelessDoctype =>
    "XML parsing error: ill-formed document: `<!DOCTYPE>` declaration does not contain a name of a document type"
  | unmatchedEnd found =>
    s!"XML parsing error: ill-formed document: close tag `</{found}>` does not match any open tag"
  | mismatchedEnd expected found =>
    s!"XML parsing error: ill-formed document: expected `</{expected}>`, but `</{found}>` was found"
  | binding fault => s!"XML parsing error: {fault.message}"
  | unboundPrefix name => s!"Unbound namespace prefix '{name}'"
  | badName fault => s!"Invalid UTF-8 in element name: {fault.message}"
  | badSpace fault => s!"Invalid UTF-8 in namespace: {fault.message}"
  | badText fault => s!"XML parsing error: cannot decode input using UTF-8: {fault.message}"
  | badLiteral fault => s!"Invalid UTF-8 in CDATA: {fault.message}"
  | badReference fault => s!"XML parsing error: {fault.message}"
  | secondRoot => "Document has more than one root element"
  | noRoot => "Document has no root element"
  | unopenedEnd => "Unexpected closing tag"
  | unfinished name => s!"Unexpected end of document inside <{name}>"

end DavCourier.Markup
