import DavCourier.Markup.Node
import DavCourier.Proofs.Markup.Reference
import DavCourier.Proofs.Markup.Source

/-!
# Trees and how they are written

A `Forest` is the content of an element : characters and elements with labels. `Node.forest` is
the tree that nodes are, where it does not matter how a text is cut into pieces. The labels of a
tree to be written have prefixes and declarations (`Label`), and `Forest.resolve` finds the
namespaces. `Forest.Writes` lists the ways to write such a tree : characters as they are or as
references, literal sections, comments and instructions anywhere, and two forms of an element
that is empty.
-/

namespace DavCourier.Markup

/-! ## Trees -/

/-- Characters and elements, one after the other. -/
inductive Forest (α : Type) where
  | nil
  | char (c : Char) (rest : Forest α)
  | element (label : α) (inner rest : Forest α)
  deriving DecidableEq, Repr

/-- Characters before a tree. -/
def Forest.chars {α : Type} (cs : List Char) (rest : Forest α) : Forest α :=
  cs.foldr char rest

mutual

/-- The tree of a node before another tree. -/
def Node.prepend : Node → Forest Tag → Forest Tag
  | .text content, rest => rest.chars content.toList
  | .element tag children, rest => .element tag (Node.forest children) rest

/-- The tree that nodes are. -/
def Node.forest : List Node → Forest Tag
  | [] => .nil
  | node :: nodes => node.prepend (Node.forest nodes)

end

/-- A text may be in pieces. -/
theorem Node.forest_text_append (a b : String) (nodes : List Node) :
    Node.forest (.text (a ++ b) :: nodes) = Node.forest (.text a :: .text b :: nodes) := by
  simp [Node.forest, Node.prepend, Forest.chars]

/-! ## Namespaces -/

/-- What the tag of an element says. -/
structure Label where
  qualifier : Option String
  localName : String
  /-- The prefixes that it declares, or none for names without one, with their namespaces. -/
  declared : List (Option String × String)
  deriving DecidableEq, Repr

/-- Prefixes, or none for names without one, with their namespaces, the nearest first. -/
abbrev Declarations := List (Option String × String)

namespace Declarations

/-- The declarations in force outside all elements. -/
def initial : Declarations :=
  [(some "xml", xmlSpace), (some "xmlns", xmlnsSpace)]

/-- The namespace of a prefix. An empty one takes the declaration back. -/
def space? (ds : Declarations) (qualifier : Option String) : Option String :=
  (ds.lookup qualifier).filter fun space => space ≠ ""

/-- Whether a prefix may stand for a namespace. -/
def IsLegal (d : Option String × String) : Prop :=
  ∀ q ∈ d.1, if q = "xml" then d.2 = xmlSpace
    else q ≠ "xmlns" ∧ d.2 ≠ xmlSpace ∧ d.2 ≠ xmlnsSpace

instance (d : Option String × String) : Decidable (IsLegal d) := by
  unfold IsLegal; infer_instance

end Declarations

namespace Label

/-- The name with its prefix. -/
def name (label : Label) : String :=
  match label.qualifier with
  | some q => q ++ ":" ++ label.localName
  | none => label.localName

/-- The declarations in force inside the element. -/
def inside (label : Label) (ds : Declarations) : Declarations :=
  label.declared.reverse ++ ds

/-- The label with its namespace instead of declarations. -/
def resolve (label : Label) (ds : Declarations) : Tag :=
  ⟨label.name, (label.inside ds).space? label.qualifier⟩

/-- The prefix is declared, and all declarations are legal. -/
structure IsBound (label : Label) (ds : Declarations) : Prop where
  legal : ∀ d ∈ label.declared, Declarations.IsLegal d
  bound : label.qualifier ≠ none → (label.inside ds).space? label.qualifier ≠ none

instance (label : Label) (ds : Declarations) : Decidable (label.IsBound ds) :=
  decidable_of_iff ((∀ d ∈ label.declared, Declarations.IsLegal d) ∧
      (label.qualifier ≠ none → (label.inside ds).space? label.qualifier ≠ none))
    ⟨fun h => ⟨h.1, h.2⟩, fun h => ⟨h.1, h.2⟩⟩

end Label

namespace Forest

/-- The tree with the namespaces of its elements. -/
def resolve : Forest Label → Declarations → Forest Tag
  | nil, _ => nil
  | char c rest, ds => char c (rest.resolve ds)
  | element label inner rest, ds =>
    element (label.resolve ds) (inner.resolve (label.inside ds)) (rest.resolve ds)

/-- Every prefix is declared. -/
def IsBound : Forest Label → Declarations → Prop
  | nil, _ => True
  | char _ rest, ds => rest.IsBound ds
  | element label inner rest, ds =>
    label.IsBound ds ∧ inner.IsBound (label.inside ds) ∧ rest.IsBound ds

instance decidableIsBound : (f : Forest Label) → (ds : Declarations) → Decidable (f.IsBound ds)
  | nil, _ => isTrue trivial
  | char _ rest, ds => rest.decidableIsBound ds
  | element label inner rest, ds =>
    let _ := inner.decidableIsBound (label.inside ds)
    let _ := rest.decidableIsBound ds
    @instDecidableAnd _ _ _ instDecidableAnd

end Forest

/-! ## Ways to write -/

/-- The prefix that a written attribute declares, or none for names without one, with the
namespace. -/
def AttributeSource.declared? (a : AttributeSource) : Option (Option Bytes × Bytes) :=
  match a.key with
  | .declares qualifier => some (qualifier, a.value)
  | .plain _ => none

/-- The declarations of a tag, as it writes them. -/
def TagSource.declarations (tag : TagSource) : List (Option Bytes × Bytes) :=
  tag.attributes.filterMap AttributeSource.declared?

/-- The tag says what the label says, and may have attributes that declare nothing. -/
structure Label.Writes (label : Label) (tag : TagSource) : Prop where
  name : tag.name =
    ⟨label.qualifier.map Utf8.encodeString, Utf8.encodeString label.localName⟩
  declared : tag.declarations =
    label.declared.map fun d => (d.1.map Utf8.encodeString, Utf8.encodeString d.2)

/-- What may be written for a tree. -/
inductive Forest.Writes : Forest Label → Source → Prop
  | nil : Writes .nil .nil
  | text {cs ws : List Char} {f : Forest Label} {s : Source} (h : SpellsText cs ws)
    (rest : Writes f s) : Writes (f.chars cs) (.text (Utf8.encode ws) s)
  | literal {cs : List Char} {f : Forest Label} {s : Source} (rest : Writes f s) :
    Writes (f.chars cs) (.literal (Utf8.encode cs) s)
  | aside {a : Aside} {f : Forest Label} {s : Source} (rest : Writes f s) :
    Writes f (.aside a s)
  | closed {label : Label} {tag : TagSource} {f : Forest Label} {s : Source}
    (h : label.Writes tag) (rest : Writes f s) :
    Writes (.element label .nil f) (.closed tag s)
  | element {label : Label} {tag : TagSource} {inner f : Forest Label} {body s : Source}
    {spaces : Bytes} (h : label.Writes tag) (hinner : Writes inner body) (rest : Writes f s) :
    Writes (.element label inner f) (.element tag body spaces s)

/-- The bytes are a document with this tree as its root. -/
def Forest.IsWritten (tree : Forest Label) (bs : Bytes) : Prop :=
  ∃ d : Document, d.IsWellFormed ∧ tree.Writes d.root.source ∧ bs = d.bytes

end DavCourier.Markup
