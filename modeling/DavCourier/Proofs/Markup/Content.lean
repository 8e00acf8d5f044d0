import DavCourier.Proofs.Markup.Cutting

/-!
# What pieces say

`Content scope nodes pieces` : inside an element with these declarations in force, the pieces
are a way to write the nodes. It follows the nesting of the document and knows no stack. What
the reader and the builder do with their stacks comes to the same : pieces that are the content
of an element add its nodes to the innermost frame (`Content.readPieces_eq`), and a tag, a
content and an end tag make a whole document (`readPieces_root`).
-/

namespace DavCourier.Markup

open Fallible

/-- The element that a tag opens among these declarations. -/
def OpenElement.ofTag (scope : Scope) (content : Bytes) : Except Fault OpenElement :=
  match scope.enter (attributes (tagRest content)) with
  | .ok inner => .ok ⟨tagName content, inner⟩
  | .error fault => .error (.binding fault)

theorem Reader.element_eq (reader : Reader) (content : Bytes) :
    reader.element content = OpenElement.ofTag reader.scope content := rfl

/-- The tag of an element that opens. -/
def OpenElement.tag (e : OpenElement) : Except Fault Tag :=
  Builder.tagOf e.name (e.scope.resolve e.name)

/-- The pieces that may be written for nodes, by the declarations in force. -/
inductive Content : Scope → List Node → List Piece → Prop
  | nil (scope : Scope) : Content scope [] []
  | text {scope : Scope} {raw : Bytes} {content : String} {nodes : List Node}
      {pieces : List Piece} (h : Builder.textOf raw = .ok content)
      (rest : Content scope nodes pieces) :
      Content scope (.text content :: nodes) (.text raw :: pieces)
  | literal {scope : Scope} {raw : Bytes} {content : String} {nodes : List Node}
      {pieces : List Piece} (h : Builder.literalOf raw = .ok content)
      (rest : Content scope nodes pieces) :
      Content scope (.text content :: nodes) (.literal raw :: pieces)
  | skipped {scope : Scope} {nodes : List Node} {pieces : List Piece}
      (rest : Content scope nodes pieces) : Content scope nodes (.skipped :: pieces)
  /-- A tag that closes itself. -/
  | closed {scope : Scope} {content inner : Bytes} {e : OpenElement} {tag : Tag}
      {nodes : List Node} {pieces : List Piece} (hclosed : selfClosed? content = some inner)
      (he : OpenElement.ofTag scope inner = .ok e) (htag : e.tag = .ok tag)
      (rest : Content scope nodes pieces) :
      Content scope (.element tag [] :: nodes) (.tag content :: pieces)
  | element {scope : Scope} {content last : Bytes} {e : OpenElement} {tag : Tag}
      {children nodes : List Node} {inner pieces : List Piece}
      (hopen : selfClosed? content = none) (he : OpenElement.ofTag scope content = .ok e)
      (htag : e.tag = .ok tag) (hend : endName last = e.name)
      (body : Content e.scope children inner) (rest : Content scope nodes pieces) :
      Content scope (.element tag children :: nodes)
        (.tag content :: (inner ++ .endTag last :: pieces))

namespace Content

theorem append {scope : Scope} {ns ms : List Node} {ps qs : List Piece}
    (h : Content scope ns ps) (h' : Content scope ms qs) :
    Content scope (ns ++ ms) (ps ++ qs) := by
  induction h with
  | nil => exact h'
  | text h rest ih => exact .text h (ih h')
  | literal h rest ih => exact .literal h (ih h')
  | skipped rest ih => exact .skipped (ih h')
  | closed hclosed he htag rest ih => exact .closed hclosed he htag (ih h')
  | element hopen he htag hend body rest _ ih =>
    rw [List.cons_append, List.cons_append, List.append_assoc, List.cons_append]
    exact .element hopen he htag hend body (ih h')

end Content

/-- The frame with more children. -/
def Frame.add (frame : Frame) (nodes : List Node) : Frame :=
  { frame with children := nodes.reverse ++ frame.children }

theorem Frame.add_cons (frame : Frame) (node : Node) (nodes : List Node) :
    frame.add (node :: nodes) = (Builder.addChild frame node).add nodes := by
  simp [Frame.add, Builder.addChild]

/-! ## One piece -/

section

variable {reader : Reader} {frame : Frame} {stack : List Frame}

theorem stepPiece_text {raw : Bytes} {content : String}
    (h : Builder.textOf raw = .ok content) :
    Reading.stepPiece reader ⟨frame :: stack, none⟩ (some (.text raw)) =
      .ok (reader, ⟨Builder.addChild frame (.text content) :: stack, none⟩) := by
  simp [Reading.stepPiece, Reader.step, Builder.step, h]

theorem stepPiece_literal {raw : Bytes} {content : String}
    (h : Builder.literalOf raw = .ok content) :
    Reading.stepPiece reader ⟨frame :: stack, none⟩ (some (.literal raw)) =
      .ok (reader, ⟨Builder.addChild frame (.text content) :: stack, none⟩) := by
  simp [Reading.stepPiece, Reader.step, Builder.step, h]

theorem stepPiece_closed {content inner : Bytes} {e : OpenElement} {tag : Tag}
    (hclosed : selfClosed? content = some inner)
    (he : OpenElement.ofTag reader.scope inner = .ok e) (htag : e.tag = .ok tag) :
    Reading.stepPiece reader ⟨frame :: stack, none⟩ (some (.tag content)) =
      .ok (reader, ⟨Builder.addChild frame (.element tag []) :: stack, none⟩) := by
  have htag' : Builder.tagOf e.name (e.scope.resolve e.name) = .ok tag := htag
  simp [Reading.stepPiece, Reader.step, hclosed, Reader.element_eq, he, Reader.startOf,
    Builder.step, htag', Builder.close]

/-- A tag opens an element, below a frame or as the root. -/
theorem stepPiece_tag {content : Bytes} {e : OpenElement} {tag : Tag}
    (hopen : selfClosed? content = none)
    (he : OpenElement.ofTag reader.scope content = .ok e) (htag : e.tag = .ok tag) :
    Reading.stepPiece reader ⟨stack, none⟩ (some (.tag content)) =
      .ok (e :: reader, ⟨⟨tag, []⟩ :: stack, none⟩) := by
  have htag' : Builder.tagOf e.name (e.scope.resolve e.name) = .ok tag := htag
  simp [Reading.stepPiece, Reader.step, hopen, Reader.element_eq, he, Reader.startOf,
    Builder.step, htag']

theorem stepPiece_endTag {content : Bytes} {e : OpenElement} {inner : Frame}
    (hend : endName content = e.name) :
    Reading.stepPiece (e :: reader) ⟨inner :: frame :: stack, none⟩ (some (.endTag content)) =
      .ok (reader, ⟨Builder.addChild frame (Builder.close inner) :: stack, none⟩) := by
  simp [Reading.stepPiece, Reader.step, hend, Builder.step]

theorem stepPiece_lastEndTag {content : Bytes} {e : OpenElement} {inner : Frame}
    (hend : endName content = e.name) :
    Reading.stepPiece [e] ⟨[inner], none⟩ (some (.endTag content)) =
      .ok ([], ⟨[], some (Builder.close inner)⟩) := by
  simp [Reading.stepPiece, Reader.step, hend, Builder.step]

end

/-! ## All pieces -/

theorem Frame.close_add (tag : Tag) (nodes : List Node) :
    Builder.close ((⟨tag, []⟩ : Frame).add nodes) = .element tag nodes := by
  simp [Builder.close, Frame.add]

/-- The content of an element adds its nodes to the frame of the element. -/
theorem Content.readPieces_eq {scope : Scope} {nodes : List Node} {pieces : List Piece}
    (h : Content scope nodes pieces) {reader : Reader} (hscope : reader.scope = scope)
    (frame : Frame) (stack : List Frame) :
    readPieces reader ⟨frame :: stack, none⟩ pieces =
      .ok (reader, ⟨frame.add nodes :: stack, none⟩) := by
  induction h generalizing reader frame stack with
  | nil => rfl
  | text h rest ih => rw [readPieces_cons, stepPiece_text h, ok_bind, ih hscope, Frame.add_cons]
  | literal h rest ih =>
    rw [readPieces_cons, stepPiece_literal h, ok_bind, ih hscope, Frame.add_cons]
  | skipped rest ih => exact ih hscope frame stack
  | closed hclosed he htag rest ih =>
    rw [readPieces_cons, stepPiece_closed hclosed (hscope ▸ he) htag, ok_bind, ih hscope,
      Frame.add_cons]
  | @element scope content last e tag children nodes inner pieces hopen he htag hend body rest
      ihbody ih =>
    have hinner : readPieces (e :: reader) ⟨⟨tag, []⟩ :: frame :: stack, none⟩ inner =
        .ok (e :: reader, ⟨(⟨tag, []⟩ : Frame).add children :: frame :: stack, none⟩) :=
      ihbody rfl _ _
    rw [readPieces_cons, stepPiece_tag hopen (hscope ▸ he) htag, ok_bind, readPieces_append,
      hinner, ok_bind, readPieces_cons, stepPiece_endTag hend, ok_bind, ih hscope,
      Frame.close_add, Frame.add_cons]

/-- A tag, the content of its element and an end tag make a document. -/
theorem readPieces_root {content last : Bytes} {e : OpenElement} {tag : Tag}
    {children : List Node} {inner : List Piece} (hopen : selfClosed? content = none)
    (he : OpenElement.ofTag Scope.initial content = .ok e) (htag : e.tag = .ok tag)
    (hend : endName last = e.name) (body : Content e.scope children inner) :
    readPieces [] Builder.start (.tag content :: (inner ++ [.endTag last])) =
      .ok ([], ⟨[], some (.element tag children)⟩) := by
  have hfirst : Reading.stepPiece [] Builder.start (some (.tag content)) =
      .ok ([e], ⟨[⟨tag, []⟩], none⟩) := stepPiece_tag hopen he htag
  have hinner : readPieces [e] ⟨[⟨tag, []⟩], none⟩ inner =
      .ok ([e], ⟨[(⟨tag, []⟩ : Frame).add children], none⟩) := body.readPieces_eq rfl _ _
  rw [readPieces_cons, hfirst, ok_bind, readPieces_append, hinner, ok_bind, readPieces_cons,
    stepPiece_lastEndTag hend, ok_bind, readPieces_nil, Frame.close_add]

end DavCourier.Markup
