import DavCourier.Proofs.Markup.Spelling
import Mathlib.Data.List.Infix

/-!
# Documents as they are written

A `Document` is a well-formed document taken apart : what stands before its root, the root, and
what stands after it. A `Source` is the content of an element, piece by piece, with every space
and every quote where it stands, so that `bytes` puts it together again. `IsWellFormed` says
which pieces may be written : what a part ends with is not inside it, and names have no more than
one colon. `Source.pieces` are the pieces that a cutter is to find.
-/

namespace DavCourier.Markup

/-! ## Names and tags -/

/-- A name with its prefix, if it has one. -/
structure QName where
  qualifier : Option Bytes
  localName : Bytes
  deriving DecidableEq, Repr

/-- What an attribute is called : a declaration of a prefix, a declaration for names without one,
or no declaration. -/
inductive AttributeKey where
  | declares (qualifier : Option Bytes)
  | plain (name : Bytes)
  deriving DecidableEq, Repr

/-- An attribute with the spaces before it and around its equals sign. -/
structure AttributeSource where
  spaces : Bytes
  key : AttributeKey
  beforeEquals : Bytes
  afterEquals : Bytes
  quote : UInt8
  value : Bytes
  deriving DecidableEq, Repr

/-- A tag, with the spaces before its end. -/
structure TagSource where
  name : QName
  attributes : List AttributeSource
  spaces : Bytes
  deriving DecidableEq, Repr

/-- Bytes that are a name, or the prefix of one. -/
def IsNamePart (bs : Bytes) : Prop :=
  IsNameBytes bs ∧ 0x3A ∉ bs ∧ 0x3D ∉ bs

instance (bs : Bytes) : Decidable (IsNamePart bs) := by
  unfold IsNamePart; infer_instance

/-- Bytes that are nothing but spaces. -/
def IsSpaces (bs : Bytes) : Prop :=
  ∀ b ∈ bs, isSpace b = true

instance (bs : Bytes) : Decidable (IsSpaces bs) :=
  List.decidableBAll _ bs

namespace QName

def bytes : QName → Bytes
  | ⟨none, localName⟩ => localName
  | ⟨some qualifier, localName⟩ => qualifier ++ 0x3A :: localName

/-- The prefix and the rest have no colon. -/
structure IsWellFormed (name : QName) : Prop where
  qualifier : ∀ q ∈ name.qualifier, IsNamePart q
  localName : IsNamePart name.localName

instance (name : QName) : Decidable name.IsWellFormed :=
  decidable_of_iff ((∀ q ∈ name.qualifier, IsNamePart q) ∧ IsNamePart name.localName)
    ⟨fun h => ⟨h.1, h.2⟩, fun h => ⟨h.1, h.2⟩⟩

end QName

namespace AttributeKey

def bytes : AttributeKey → Bytes
  | declares none => Scope.xmlnsName
  | declares (some qualifier) => Scope.xmlnsName ++ 0x3A :: qualifier
  | plain name => name

/-- What is called like a declaration is one. -/
def IsWellFormed : AttributeKey → Prop
  | declares none => True
  | declares (some qualifier) => IsNamePart qualifier
  | plain name => IsNameBytes name ∧ 0x3D ∉ name ∧ name ≠ Scope.xmlnsName ∧
      ¬ (Scope.xmlnsName ++ [0x3A]) <+: name

instance : (key : AttributeKey) → Decidable key.IsWellFormed
  | declares none => isTrue trivial
  | declares (some qualifier) => inferInstanceAs (Decidable (IsNamePart qualifier))
  | plain name => inferInstanceAs (Decidable (IsNameBytes name ∧ 0x3D ∉ name ∧
      name ≠ Scope.xmlnsName ∧ ¬ (Scope.xmlnsName ++ [0x3A]) <+: name))

end AttributeKey

namespace AttributeSource

def bytes (a : AttributeSource) : Bytes :=
  a.spaces ++ (a.key.bytes ++ (a.beforeEquals ++ 0x3D ::
    (a.afterEquals ++ a.quote :: (a.value ++ [a.quote]))))

/-- The attribute that is written. -/
def toAttribute (a : AttributeSource) : Attribute :=
  ⟨a.key.bytes, a.value⟩

structure IsWellFormed (a : AttributeSource) : Prop where
  spaces : a.spaces ≠ [] ∧ IsSpaces a.spaces
  key : a.key.IsWellFormed
  gaps : IsSpaces a.beforeEquals ∧ IsSpaces a.afterEquals
  quote : a.quote ∈ [0x22, 0x27]
  value : a.quote ∉ a.value

instance (a : AttributeSource) : Decidable a.IsWellFormed :=
  decidable_of_iff ((a.spaces ≠ [] ∧ IsSpaces a.spaces) ∧ a.key.IsWellFormed ∧
      (IsSpaces a.beforeEquals ∧ IsSpaces a.afterEquals) ∧ a.quote ∈ [0x22, 0x27] ∧
      a.quote ∉ a.value)
    ⟨fun h => ⟨h.1, h.2.1, h.2.2.1, h.2.2.2.1, h.2.2.2.2⟩, fun h => ⟨h.1, h.2, h.3, h.4, h.5⟩⟩

end AttributeSource

namespace TagSource

/-- The tag without its delimiters. -/
def bytes (tag : TagSource) : Bytes :=
  tag.name.bytes ++ (tag.attributes.flatMap AttributeSource.bytes ++ tag.spaces)

/-- No attribute is written twice. -/
structure IsWellFormed (tag : TagSource) : Prop where
  name : tag.name.IsWellFormed
  attributes : ∀ a ∈ tag.attributes, a.IsWellFormed
  once : (tag.attributes.map AttributeSource.key).Nodup
  spaces : IsSpaces tag.spaces

instance (tag : TagSource) : Decidable tag.IsWellFormed :=
  decidable_of_iff (tag.name.IsWellFormed ∧ (∀ a ∈ tag.attributes, a.IsWellFormed) ∧
      (tag.attributes.map AttributeSource.key).Nodup ∧ IsSpaces tag.spaces)
    ⟨fun h => ⟨h.1, h.2.1, h.2.2.1, h.2.2.2⟩, fun h => ⟨h.1, h.2, h.3, h.4⟩⟩

end TagSource

/-! ## Comments and instructions -/

/-- What has no content for a reader. -/
inductive Aside where
  | comment (content : Bytes)
  | instruction (content : Bytes)
  deriving DecidableEq, Repr

namespace Aside

def bytes : Aside → Bytes
  | comment content => [0x3C, 0x21, 0x2D, 0x2D] ++ (content ++ [0x2D, 0x2D, 0x3E])
  | instruction content => [0x3C, 0x3F] ++ (content ++ [0x3F, 0x3E])

/-- Two dashes end a comment, and a question mark before a `>` an instruction. -/
def IsWellFormed : Aside → Prop
  | comment content => ¬ [0x2D, 0x2D] <:+: content ++ [0x2D]
  | instruction content => content.head? ≠ some 0x3E ∧ ¬ [0x3F, 0x3E] <:+: content

instance : (a : Aside) → Decidable a.IsWellFormed
  | comment content => inferInstanceAs (Decidable (¬ [0x2D, 0x2D] <:+: content ++ [0x2D]))
  | instruction content =>
    inferInstanceAs (Decidable (content.head? ≠ some 0x3E ∧ ¬ [0x3F, 0x3E] <:+: content))

end Aside

/-! ## Content -/

/-- The content of an element, piece by piece. -/
inductive Source where
  | nil
  | text (raw : Bytes) (rest : Source)
  | literal (raw : Bytes) (rest : Source)
  | aside (a : Aside) (rest : Source)
  /-- An element whose tag closes itself. -/
  | closed (tag : TagSource) (rest : Source)
  /-- An element with its content, and the spaces in its end tag. -/
  | element (tag : TagSource) (inner : Source) (spaces : Bytes) (rest : Source)
  deriving DecidableEq, Repr

namespace Source

/-- What opens a literal section. -/
def literalOpening : Bytes :=
  [0x3C, 0x21, 0x5B, 0x43, 0x44, 0x41, 0x54, 0x41, 0x5B]

/-- What closes a literal section. -/
def literalEnding : Bytes :=
  [0x5D, 0x5D, 0x3E]

def bytes : Source → Bytes
  | nil => []
  | text raw rest => raw ++ rest.bytes
  | literal raw rest => (literalOpening ++ (raw ++ literalEnding)) ++ rest.bytes
  | aside a rest => a.bytes ++ rest.bytes
  | closed tag rest => 0x3C :: (tag.bytes ++ [0x2F] ++ [0x3E]) ++ rest.bytes
  | element tag inner spaces rest =>
    0x3C :: (tag.bytes ++ [0x3E]) ++
      (inner.bytes ++ 0x3C :: 0x2F :: (tag.name.bytes ++ spaces ++ [0x3E]) ++ rest.bytes)

/-- The pieces that are written. -/
def pieces : Source → List Piece
  | nil => []
  | text raw rest => .text raw :: rest.pieces
  | literal raw rest => .literal raw :: rest.pieces
  | aside _ rest => .skipped :: rest.pieces
  | closed tag rest => .tag (tag.bytes ++ [0x2F]) :: rest.pieces
  | element tag inner spaces rest =>
    .tag tag.bytes :: (inner.pieces ++ .endTag (tag.name.bytes ++ spaces) :: rest.pieces)

/-- Whether the first piece is a text. -/
def startsWithText : Source → Bool
  | text _ _ => true
  | _ => false

/-- Texts are not empty and end where markup opens. -/
def IsWellFormed : Source → Prop
  | nil => True
  | text raw rest =>
    (raw ≠ [] ∧ 0x3C ∉ raw) ∧ rest.startsWithText = false ∧ rest.IsWellFormed
  | literal raw rest => ¬ literalEnding <:+: raw ∧ rest.IsWellFormed
  | aside a rest => a.IsWellFormed ∧ rest.IsWellFormed
  | closed tag rest => tag.IsWellFormed ∧ rest.IsWellFormed
  | element tag inner spaces rest =>
    (tag.IsWellFormed ∧ IsSpaces spaces) ∧ inner.IsWellFormed ∧ rest.IsWellFormed

instance decidableIsWellFormed : (s : Source) → Decidable s.IsWellFormed
  | nil => isTrue trivial
  | text _ rest =>
    let _ := rest.decidableIsWellFormed
    @instDecidableAnd _ _ _ instDecidableAnd
  | literal _ rest | aside _ rest | closed _ rest =>
    let _ := rest.decidableIsWellFormed
    instDecidableAnd
  | element _ inner _ rest =>
    let _ := inner.decidableIsWellFormed
    let _ := rest.decidableIsWellFormed
    instDecidableAnd

end Source

/-! ## Documents -/

/-- What stands outside the root. -/
inductive Misc where
  | text (raw : Bytes)
  | aside (a : Aside)
  /-- The declaration of a document type. -/
  | doctype (content : Bytes)
  deriving DecidableEq, Repr

namespace Misc

/-- Every `>` closes a `<` or the `depth` ones before, and all of them are closed. -/
def closesAll : Nat → Bytes → Bool
  | depth, [] => depth == 0
  | depth, b :: bs =>
    if b = 0x3C then closesAll (depth + 1) bs
    else if b = 0x3E then depth != 0 && closesAll (depth - 1) bs
    else closesAll depth bs

/-- What opens a declaration of a document type. -/
def doctypeOpening : Bytes :=
  [0x3C, 0x21, 0x44, 0x4F, 0x43, 0x54, 0x59, 0x50, 0x45]

def bytes : Misc → Bytes
  | text raw => raw
  | aside a => a.bytes
  | doctype content => doctypeOpening ++ (content ++ [0x3E])

/-- A document type has a name, and closes what it opens. -/
def IsWellFormed : Misc → Prop
  | text raw => 0x3C ∉ raw
  | aside a => a.IsWellFormed
  | doctype content => closesAll 0 content = true ∧ ¬ IsSpaces content

instance : (m : Misc) → Decidable m.IsWellFormed
  | text raw => inferInstanceAs (Decidable (0x3C ∉ raw))
  | aside a => inferInstanceAs (Decidable a.IsWellFormed)
  | doctype content =>
    inferInstanceAs (Decidable (closesAll 0 content = true ∧ ¬ IsSpaces content))

end Misc

/-- The root of a document. -/
inductive Root where
  | closed (tag : TagSource)
  | element (tag : TagSource) (inner : Source) (spaces : Bytes)
  deriving DecidableEq, Repr

namespace Root

def tag : Root → TagSource
  | closed tag => tag
  | element tag _ _ => tag

/-- The content of the root. -/
def inner : Root → Source
  | closed _ => .nil
  | element _ inner _ => inner

/-- The root on its own. -/
def source : Root → Source
  | closed tag => .closed tag .nil
  | element tag inner spaces => .element tag inner spaces .nil

end Root

/-- A document as it is written. -/
structure Document where
  before : List Misc
  root : Root
  after : List Misc
  deriving DecidableEq, Repr

namespace Document

def bytes (d : Document) : Bytes :=
  d.before.flatMap Misc.bytes ++ d.root.source.bytes ++ d.after.flatMap Misc.bytes

structure IsWellFormed (d : Document) : Prop where
  before : ∀ m ∈ d.before, m.IsWellFormed
  root : d.root.source.IsWellFormed
  after : ∀ m ∈ d.after, m.IsWellFormed

instance (d : Document) : Decidable d.IsWellFormed :=
  decidable_of_iff ((∀ m ∈ d.before, m.IsWellFormed) ∧ d.root.source.IsWellFormed ∧
      ∀ m ∈ d.after, m.IsWellFormed)
    ⟨fun h => ⟨h.1, h.2.1, h.2.2⟩, fun h => ⟨h.1, h.2, h.3⟩⟩

end Document

end DavCourier.Markup
