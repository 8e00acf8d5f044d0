import DavCourier.Markup.Event

/-!
# The tree of a document

A `Node` is a text or an element with its children. `Builder` puts the tree together from
the events of a document : there is one element outside all others, texts outside it do
not count, and `Builder.finish` gives it.
-/

namespace DavCourier.Markup

/-- The name of an element as written, and its namespace. -/
structure Tag where
  name : String
  space : Option String
  deriving DecidableEq, Repr

namespace Tag

/-- The part of the name before its first colon, if it has one. -/
def qualifier (tag : Tag) : Option String :=
  if ':' ∈ tag.name.toList then
    some (String.ofList (tag.name.toList.takeWhile (· ≠ ':')))
  else none

/-- The part of the name after its first colon, or the whole name. -/
def localName (tag : Tag) : String :=
  if ':' ∈ tag.name.toList then
    String.ofList ((tag.name.toList.dropWhile (· ≠ ':')).drop 1)
  else tag.name

end Tag

/-- A text or an element of a document. -/
inductive Node where
  | text (content : String)
  | element (tag : Tag) (children : List Node)
  deriving Repr

mutual

/-- Whether two nodes are the same. -/
def Node.decEq : (n m : Node) → Decidable (n = m)
  | .text a, .text b => decidable_of_iff (a = b) (by simp)
  | .element tag children, .element tag' children' =>
    let _ := Node.decEqList children children'
    decidable_of_iff (tag = tag' ∧ children = children') (by simp)
  | .text _, .element _ _ | .element _ _, .text _ => isFalse nofun

/-- Whether two lists of nodes are the same. -/
def Node.decEqList : (ns ms : List Node) → Decidable (ns = ms)
  | [], [] => isTrue rfl
  | n :: ns, m :: ms =>
    let _ := Node.decEq n m
    let _ := Node.decEqList ns ms
    decidable_of_iff (n = m ∧ ns = ms) (by simp)
  | [], _ :: _ | _ :: _, [] => isFalse nofun

end

instance : DecidableEq Node := Node.decEq

namespace Node

/-- The children of an element. -/
def children : Node → List Node
  | .text _ => []
  | .element _ children => children

/-- Whether the node is an element with this name. -/
def isNamed (name : String) : Node → Bool
  | .text _ => false
  | .element tag _ => tag.name = name

/-- The elements below the node that have this name. -/
def childrenNamed (node : Node) (name : String) : List Node :=
  node.children.filter (isNamed name)

/-- The first element below the node that has this name. -/
def child? (node : Node) (name : String) : Option Node :=
  node.children.find? (isNamed name)

/-- The characters of a text; an element has none of its own. -/
def characters : Node → List Char
  | .text content => content.toList
  | .element _ _ => []

/-- The texts below the node put together, if they are not empty. -/
def text? (node : Node) : Option String :=
  match node.children.flatMap characters with
  | [] => none
  | cs => some (String.ofList cs)

/-- The texts below the first element with this name. -/
def childText? (node : Node) (name : String) : Option String :=
  (node.child? name).bind text?

end Node

/-- An element whose end is still to come. Its children are in reverse. -/
structure Frame where
  tag : Tag
  children : List Node
  deriving DecidableEq, Repr

/-- The elements without an end yet, the innermost first, and the finished root. -/
structure Builder where
  stack : List Frame
  root : Option Node
  deriving DecidableEq, Repr

namespace Builder

/-- The start of a document. -/
def start : Builder := ⟨[], none⟩

/-- The namespace that a name belongs to. -/
def spaceOf : Resolution → Except Fault (Option String)
  | .bound space => ((Utf8.decodeString space).map some).mapError .badSpace
  | .unbound => .ok none
  | .unknown name => .error (.unboundPrefix (String.ofList (Utf8.decodeLossy name)))

/-- The name of an element. The prefix is read on its own first. -/
def nameOf (name : Bytes) : Except Fault String :=
  match Utf8.decode ((qualifierOf name).getD []) with
  | .ok _ => (Utf8.decodeString name).mapError .badName
  | .error fault => .error (.badName fault)

/-- The tag of an element that starts. -/
def tagOf (name : Bytes) (space : Resolution) : Except Fault Tag := do
  let space ← spaceOf space
  let name ← nameOf name
  return ⟨name, space⟩

/-- The text that raw bytes stand for. -/
def textOf (raw : Bytes) : Except Fault String :=
  match Utf8.decode raw with
  | .ok cs => ((Reference.expand cs).map String.ofList).mapError .badReference
  | .error fault => .error (.badText fault)

/-- The text of a literal section. -/
def literalOf (raw : Bytes) : Except Fault String :=
  (Utf8.decodeString raw).mapError .badLiteral

/-- Adds a child to the innermost element. -/
def addChild (frame : Frame) (node : Node) : Frame :=
  { frame with children := node :: frame.children }

/-- The element of a frame that ends. -/
def close (frame : Frame) : Node :=
  .element frame.tag frame.children.reverse

/-- The tree after one more event. -/
def step (builder : Builder) (event : Event) : Except Fault Builder :=
  match event with
  | .start name space =>
    if builder.root.isSome then .error .secondRoot
    else do
      let tag ← tagOf name space
      return { builder with stack := ⟨tag, []⟩ :: builder.stack }
  | .stop =>
    match builder.stack with
    | [] => .error .unopenedEnd
    | [frame] => .ok ⟨[], some (close frame)⟩
    | frame :: outer :: rest =>
      .ok { builder with stack := addChild outer (close frame) :: rest }
  | .text raw =>
    match builder.stack with
    | [] => .ok builder
    | frame :: rest => do
      let content ← textOf raw
      return { builder with stack := addChild frame (.text content) :: rest }
  | .literal raw =>
    match builder.stack with
    | [] => .ok builder
    | frame :: rest => do
      let content ← literalOf raw
      return { builder with stack := addChild frame (.text content) :: rest }

/-- The root of a document that ends here. -/
def finish (builder : Builder) : Except Fault Node :=
  match builder.stack, builder.root with
  | frame :: _, _ => .error (.unfinished frame.tag.name)
  | [], some root => .ok root
  | [], none => .error .noRoot

end Builder

end DavCourier.Markup
