import DavCourier.Proofs.Markup.Attributes

/-!
# What a document says

`Source.nodes` says what a content stands for, element by element and without a stack : its
nodes, or the first fault in the order of the document. The reader and the builder do the same
with their stacks (`Source.readPieces_pieces`), so a well-formed document is read as its root :
`Node.read_bytes`.
-/

namespace DavCourier.Markup

open Fallible

/-- The nodes that a content stands for among these declarations. -/
def Source.nodes : Source → Scope → Except Fault (List Node)
  | .nil, _ => .ok []
  | .text raw rest, scope => do
    let content ← Builder.textOf raw
    let nodes ← rest.nodes scope
    return .text content :: nodes
  | .literal raw rest, scope => do
    let content ← Builder.literalOf raw
    let nodes ← rest.nodes scope
    return .text content :: nodes
  | .aside _ rest, scope => rest.nodes scope
  | .closed tag rest, scope => do
    let e ← tag.opened scope
    let label ← e.tag
    let nodes ← rest.nodes scope
    return .element label [] :: nodes
  | .element tag inner _ rest, scope => do
    let e ← tag.opened scope
    let label ← e.tag
    let children ← inner.nodes e.scope
    let nodes ← rest.nodes scope
    return .element label children :: nodes

/-- The node that the root of a document stands for. -/
def Root.node (root : Root) : Except Fault Node := do
  let e ← root.tag.opened Scope.initial
  let label ← e.tag
  let children ← root.inner.nodes e.scope
  return .element label children

/-! ## One piece -/

section

variable {reader : Reader} {frame : Frame} {stack : List Frame}

theorem stepPiece_text_eq (raw : Bytes) :
    Reading.stepPiece reader ⟨frame :: stack, none⟩ (some (.text raw)) =
      Builder.textOf raw >>= fun content =>
        .ok (reader, ⟨Builder.addChild frame (.text content) :: stack, none⟩) := by
  cases h : Builder.textOf raw with
  | ok content => exact stepPiece_text h
  | error fault => simp [Reading.stepPiece, Reader.step, Builder.step, h]

theorem stepPiece_literal_eq (raw : Bytes) :
    Reading.stepPiece reader ⟨frame :: stack, none⟩ (some (.literal raw)) =
      Builder.literalOf raw >>= fun content =>
        .ok (reader, ⟨Builder.addChild frame (.text content) :: stack, none⟩) := by
  cases h : Builder.literalOf raw with
  | ok content => exact stepPiece_literal h
  | error fault => simp [Reading.stepPiece, Reader.step, Builder.step, h]

theorem stepPiece_tag_eq {tag : TagSource} (h : tag.IsWellFormed) :
    Reading.stepPiece reader ⟨stack, none⟩ (some (.tag tag.bytes)) =
      tag.opened reader.scope >>= fun e => e.tag >>= fun label =>
        .ok (e :: reader, ⟨⟨label, []⟩ :: stack, none⟩) := by
  have hopen := TagSource.selfClosed?_bytes h
  cases he : tag.opened reader.scope with
  | error fault =>
    simp [Reading.stepPiece, Reader.step, hopen, Reader.element_eq, TagSource.ofTag_eq h, he]
  | ok e =>
    have he' := TagSource.ofTag_eq h reader.scope ▸ he
    cases hlabel : e.tag with
    | ok label =>
      rw [stepPiece_tag hopen he' hlabel, ok_bind, hlabel, ok_bind]
    | error fault =>
      have hlabel' : Builder.tagOf e.name (e.scope.resolve e.name) = .error fault := hlabel
      simp [Reading.stepPiece, Reader.step, hopen, Reader.element_eq, he', Reader.startOf,
        Builder.step, hlabel', hlabel]

/-- The tree after an element without content. -/
def Builder.closeAt (stack : List Frame) (label : Tag) : Builder :=
  match stack with
  | [] => ⟨[], some (.element label [])⟩
  | frame :: stack => ⟨addChild frame (.element label []) :: stack, none⟩

theorem stepPiece_closed_eq {tag : TagSource} (h : tag.IsWellFormed) :
    Reading.stepPiece reader ⟨stack, none⟩ (some (.tag (tag.bytes ++ [0x2F]))) =
      tag.opened reader.scope >>= fun e => e.tag >>= fun label =>
        .ok (reader, Builder.closeAt stack label) := by
  have hclosed := TagSource.selfClosed?_bytes_slash tag
  cases he : tag.opened reader.scope with
  | error fault =>
    simp [Reading.stepPiece, Reader.step, hclosed, Reader.element_eq, TagSource.ofTag_eq h, he]
  | ok e =>
    have he' := TagSource.ofTag_eq h reader.scope ▸ he
    cases hlabel : e.tag with
    | ok label =>
      have hlabel' : Builder.tagOf e.name (e.scope.resolve e.name) = .ok label := hlabel
      cases stack with
      | nil =>
        simp [Reading.stepPiece, Reader.step, hclosed, Reader.element_eq, he', Reader.startOf,
          Builder.step, hlabel', hlabel, Builder.close, Builder.closeAt]
      | cons frame stack =>
        simp [Reading.stepPiece, Reader.step, hclosed, Reader.element_eq, he', Reader.startOf,
          Builder.step, hlabel', hlabel, Builder.close, Builder.closeAt]
    | error fault =>
      have hlabel' : Builder.tagOf e.name (e.scope.resolve e.name) = .error fault := hlabel
      simp [Reading.stepPiece, Reader.step, hclosed, Reader.element_eq, he', Reader.startOf,
        Builder.step, hlabel', hlabel]

/-- Outside the root nothing is said. -/
theorem readPieces_idle {ps : List Piece} (h : ∀ p ∈ ps, p.IsIdle) (root : Option Node) :
    readPieces reader ⟨[], root⟩ ps = .ok (reader, ⟨[], root⟩) := by
  induction ps with
  | nil => rfl
  | cons p ps ih =>
    have hp : Reading.stepPiece reader ⟨[], root⟩ (some p) = .ok (reader, ⟨[], root⟩) := by
      have hidle := h p List.mem_cons_self
      cases p with
      | text raw => rfl
      | skipped => rfl
      | tag content => cases hidle
      | endTag content => cases hidle
      | literal raw => cases hidle
    rw [readPieces_cons, hp, ok_bind, ih fun q hq => h q (List.mem_cons_of_mem _ hq)]

end

/-! ## All pieces -/

theorem TagSource.name_of_opened {tag : TagSource} {scope : Scope} {e : OpenElement}
    (h : tag.opened scope = .ok e) : e.name = tag.name.bytes := by
  obtain ⟨inner, -, rfl⟩ := opened_eq_ok.mp h
  rfl

/-- The pieces of a content add its nodes to the frame of the element around it. -/
theorem Source.readPieces_pieces {s : Source} (h : s.IsWellFormed) (reader : Reader)
    (frame : Frame) (stack : List Frame) :
    readPieces reader ⟨frame :: stack, none⟩ s.pieces =
      s.nodes reader.scope >>= fun nodes => .ok (reader, ⟨frame.add nodes :: stack, none⟩) := by
  induction s generalizing reader frame stack with
  | nil => rfl
  | text raw s ih =>
    simp only [pieces, nodes, readPieces_cons, stepPiece_text_eq, bind_assoc, ok_bind, pure_bind,
      ih h.2.2, Frame.add_cons]
  | literal raw s ih =>
    simp only [pieces, nodes, readPieces_cons, stepPiece_literal_eq, bind_assoc, ok_bind,
      pure_bind, ih h.2, Frame.add_cons]
  | aside a s ih => exact ih h.2 reader frame stack
  | closed tag s ih =>
    simp only [pieces, nodes, readPieces_cons, stepPiece_closed_eq h.1, bind_assoc, ok_bind,
      pure_bind, Builder.closeAt, ih h.2, Frame.add_cons]
  | element tag inner spaces s ihinner ih =>
    obtain ⟨⟨htag, hspaces⟩, hinner, hs⟩ := h
    rw [pieces, nodes, readPieces_cons, stepPiece_tag_eq htag]
    cases he : tag.opened reader.scope with
    | error fault => rfl
    | ok e =>
      have hend : endName (tag.name.bytes ++ spaces) = e.name := by
        rw [TagSource.endName_append htag hspaces, TagSource.name_of_opened he]
      have hscope : Reader.scope (e :: reader) = e.scope := rfl
      simp only [ok_bind, bind_assoc, pure_bind, readPieces_append, readPieces_cons,
        ihinner hinner, hscope, stepPiece_endTag hend, Frame.close_add, ih hs, Frame.add_cons]

/-- The pieces of a root make it the root of the tree. -/
theorem Root.readPieces_pieces {root : Root} (h : root.source.IsWellFormed) :
    readPieces [] Builder.start root.source.pieces =
      root.node >>= fun node => .ok ([], ⟨[], some node⟩) := by
  cases root with
  | closed tag =>
    have hclosed : Reading.stepPiece [] Builder.start (some (.tag (tag.bytes ++ [0x2F]))) = _ :=
      stepPiece_closed_eq h.1
    simp only [source, Source.pieces, node, Root.tag, inner, Source.nodes, readPieces_cons,
      readPieces_nil, hclosed, Reader.scope, Builder.closeAt, bind_assoc, ok_bind, pure_bind]
  | element tag inner spaces =>
    obtain ⟨⟨htag, hspaces⟩, hinner, -⟩ := h
    have hopen : Reading.stepPiece [] Builder.start (some (.tag tag.bytes)) = _ :=
      stepPiece_tag_eq htag
    rw [source, Source.pieces, Source.pieces, node, readPieces_cons, hopen]
    cases he : tag.opened Scope.initial with
    | error fault => simp [Reader.scope, Root.tag, he]
    | ok e =>
      have hend : endName (tag.name.bytes ++ spaces) = e.name := by
        rw [TagSource.endName_append htag hspaces, TagSource.name_of_opened he]
      simp only [Reader.scope, Root.tag, Root.inner, he, ok_bind, bind_assoc, pure_bind,
        readPieces_append, readPieces_cons, readPieces_nil, Source.readPieces_pieces hinner,
        stepPiece_lastEndTag hend, Frame.close_add]

/-- A document is read as its root. -/
theorem Node.read_bytes {d : Document} (h : d.IsWellFormed) : Node.read d.bytes = d.root.node := by
  obtain ⟨front, back, seen, hfront, hback, hrun⟩ := Document.run_bytes h
  have hlast : ∀ p ∈ back ++ (Cutter.textPiece seen).toList, p.IsIdle := fun p hp =>
    (List.mem_append.mp hp).elim (hback p) isIdle_textPiece
  have hstart : readPieces [] Builder.start front = .ok ([], Builder.start) :=
    readPieces_idle hfront none
  rw [Node.read_of_run hrun rfl, List.append_assoc, List.append_assoc, readPieces_append, hstart,
    ok_bind, readPieces_append, Root.readPieces_pieces h.root]
  cases d.root.node with
  | error fault => rfl
  | ok node =>
    simp only [ok_bind, readPieces_idle hlast]
    rfl

end DavCourier.Markup
