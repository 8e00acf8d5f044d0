import DavCourier.Proofs.Dav.Document
import DavCourier.Proofs.Dav.Presentation
import DavCourier.Proofs.Dav.Truncation

/-!
# Reports with foreign content

An element that is not called like one of the vocabulary says nothing to a reader of reports,
wherever it stands below the root and whatever is inside it : `MultiStatus.parse_inserts`.
`Inserts` says where it may stand. Readings at the same place, with trees that are the same as
far as their elements are kept, go on in the same way (`Reading.Agrees.step`) and come to roots
that are the same as far as their elements are kept (`Reading.Agrees.read`). The element leads
from one reading to such another, because the declarations in it end with it
(`Content.readPieces_eq`) and a text that it cuts is whole on both sides (`kept_between`).
-/

namespace DavCourier.Markup

open Fallible

/-! ## Readings that agree -/

/-- Where each step has a counterpart, a run has one. -/
theorem foldlM_simulates {ε σ α : Type} {R : σ → σ → Prop} {f : σ → α → Except ε σ}
    (hstep : ∀ s t a s', R s t → f s a = .ok s' → ∃ t', f t a = .ok t' ∧ R s' t')
    {s t s' : σ} {as : List α} (h : R s t) (hrun : as.foldlM f s = .ok s') :
    ∃ t', as.foldlM f t = .ok t' ∧ R s' t' := by
  induction as generalizing s t with
  | nil =>
    cases hrun
    exact ⟨t, rfl, h⟩
  | cons a as ih =>
    obtain ⟨s₁, hs₁, hrun⟩ := bind_eq_ok.mp hrun
    obtain ⟨t₁, ht₁, h₁⟩ := hstep s t a s₁ h hs₁
    obtain ⟨t', ht', h'⟩ := ih h₁ hrun
    exact ⟨t', bind_eq_ok.mpr ⟨t₁, ht₁, ht'⟩, h'⟩

/-- Elements with one tag, and the same inside them as far as it is kept. -/
inductive Node.Agrees (keep : Tag → Bool) : Node → Node → Prop
  | element {tag : Tag} {cs ds : List Node} (h : kept keep cs = kept keep ds) :
    Agrees keep (.element tag cs) (.element tag ds)

/-- Frames of elements that agree so far. -/
def Frame.Agrees (keep : Tag → Bool) (f g : Frame) : Prop :=
  Node.Agrees keep (Builder.close f) (Builder.close g)

/-- Trees that agree so far. -/
structure Builder.Agrees (keep : Tag → Bool) (b c : Builder) : Prop where
  stack : List.Forall₂ (Frame.Agrees keep) b.stack c.stack
  root : Option.Rel (Node.Agrees keep) b.root c.root

/-- Readings at the same place, with trees that agree so far. -/
structure Reading.Agrees (keep : Tag → Bool) (r s : Reading) : Prop where
  cutter : r.cutter = s.cutter
  reader : r.reader = s.reader
  builder : r.builder.Agrees keep s.builder

section

variable {keep : Tag → Bool}

theorem Frame.agrees_iff {f g : Frame} : f.Agrees keep g ↔ f.tag = g.tag ∧
    Node.kept keep f.children.reverse = Node.kept keep g.children.reverse := by
  obtain ⟨tag, cs⟩ := f
  obtain ⟨tag', ds⟩ := g
  constructor
  · rintro ⟨h⟩
    exact ⟨rfl, h⟩
  · rintro ⟨rfl, h⟩
    exact .element h

/-- The same nodes, as far as they are kept, may be added to both. -/
theorem Frame.Agrees.add {f g : Frame} (h : f.Agrees keep g) {ns ms : List Node}
    (hnodes : Node.kept keep ns = Node.kept keep ms) : (f.add ns).Agrees keep (g.add ms) := by
  rw [agrees_iff] at h ⊢
  refine ⟨h.1, ?_⟩
  simp only [Frame.add, List.reverse_append, List.reverse_reverse, Node.kept_append, h.2, hnodes]

theorem Frame.Agrees.refl (f : Frame) : f.Agrees keep f :=
  .element rfl

theorem Frame.add_add (frame : Frame) (ns ms : List Node) :
    (frame.add ns).add ms = frame.add (ns ++ ms) := by
  simp [Frame.add]

theorem Node.Agrees.kept {n m : Node} (h : n.Agrees keep m) :
    Node.kept keep [n] = Node.kept keep [m] := by
  obtain ⟨h⟩ := h
  rw [Node.kept_element, Node.kept_element, h]

/-- Nodes may be added to the innermost element where they are the same as far as they are
kept. -/
theorem Builder.agrees_add (frame : Frame) (stack : List Frame) {ns ms : List Node}
    (h : Node.kept keep ns = Node.kept keep ms) :
    Agrees keep ⟨frame.add ns :: stack, none⟩ ⟨frame.add ms :: stack, none⟩ :=
  ⟨.cons ((Frame.Agrees.refl frame).add h) (List.forall₂_same.mpr fun f _ => .refl f), .none⟩

namespace Builder.Agrees

variable {b b' c : Builder}

/-- What a piece of a document does to one of two trees that agree, it does to the other. -/
theorem step {event : Event} (h : b.Agrees keep c) (hstep : b.step event = .ok b') :
    ∃ c', c.step event = .ok c' ∧ b'.Agrees keep c' := by
  obtain ⟨stack, root⟩ := b
  obtain ⟨stack', root'⟩ := c
  obtain ⟨hstack, hroot⟩ := h
  dsimp only at hstack hroot
  have hchild : ∀ {f g : Frame} {n m : Node}, f.Agrees keep g →
      Node.kept keep [n] = Node.kept keep [m] → (addChild f n).Agrees keep (addChild g m) :=
    fun {_ _ n m} hfg hnm => @Frame.Agrees.add _ _ _ hfg [n] [m] hnm
  cases event with
  | start name space =>
    cases hroot with
    | some hroot => cases hstep
    | none =>
      obtain ⟨tag, htag, hdone⟩ := bind_eq_ok.mp hstep
      cases hdone
      refine ⟨_, bind_eq_ok.mpr ⟨tag, htag, rfl⟩, .cons (.refl _) hstack, .none⟩
  | stop =>
    cases hstack with
    | nil => cases hstep
    | @cons f g fs gs hfg hrest =>
      cases hrest with
      | nil =>
        cases hstep
        exact ⟨_, rfl, .nil, .some hfg⟩
      | @cons f' g' fs gs hfg' hrest =>
        cases hstep
        exact ⟨_, rfl, .cons (hchild hfg' hfg.kept) hrest, hroot⟩
  | text raw | literal raw =>
    cases hstack with
    | nil =>
      cases hstep
      exact ⟨_, rfl, .nil, hroot⟩
    | cons hfg hrest =>
      obtain ⟨content, hraw, hdone⟩ := bind_eq_ok.mp hstep
      cases hdone
      exact ⟨_, bind_eq_ok.mpr ⟨content, hraw, rfl⟩, .cons (hchild hfg rfl) hrest, hroot⟩

theorem stepPiece {reader reader' : Reader} {piece : Option Piece} (h : b.Agrees keep c)
    (hstep : Reading.stepPiece reader b piece = .ok (reader', b')) :
    ∃ c', Reading.stepPiece reader c piece = .ok (reader', c') ∧ b'.Agrees keep c' := by
  cases piece with
  | none =>
    cases hstep
    exact ⟨c, rfl, h⟩
  | some piece =>
    obtain ⟨events, hreader, hevents⟩ := stepPiece_some hstep
    obtain ⟨c', hc', h'⟩ := foldlM_simulates (fun _ _ _ _ => step) h hevents
    exact ⟨c', bind_eq_ok.mpr ⟨_, hreader, bind_eq_ok.mpr ⟨c', hc', rfl⟩⟩, h'⟩

/-- The roots of trees that agree agree. -/
theorem finish {root : Node} (h : b.Agrees keep c) (hroot : b.finish = .ok root) :
    ∃ root', c.finish = .ok root' ∧ root.Agrees keep root' := by
  obtain ⟨stack, r⟩ := b
  obtain ⟨stack', r'⟩ := c
  obtain ⟨hstack, hr⟩ := h
  dsimp only at hstack hr
  cases hstack with
  | cons _ _ => cases hroot
  | nil =>
    cases hr with
    | none => cases hroot
    | some hr =>
      cases hroot
      exact ⟨_, rfl, hr⟩

end Builder.Agrees

namespace Reading.Agrees

variable {r r' s : Reading}

theorem step {b : UInt8} (h : r.Agrees keep s) (hstep : r.step b = .ok r') :
    ∃ s', s.step b = .ok s' ∧ r'.Agrees keep s' := by
  obtain ⟨piece, hcutter, hpiece⟩ := step_eq_ok.mp hstep
  obtain ⟨builder, hbuilder, hagrees⟩ := h.builder.stepPiece hpiece
  rw [h.cutter] at hcutter
  rw [h.reader] at hbuilder
  exact ⟨⟨r'.cutter, r'.reader, builder⟩,
    bind_eq_ok.mpr ⟨_, hcutter, bind_eq_ok.mpr ⟨_, hbuilder, rfl⟩⟩, rfl, rfl, hagrees⟩

/-- What follows is read in the same way, up to the root. -/
theorem read {root : Node} {rest : Bytes} (h : r.Agrees keep s)
    (hread : rest.foldlM Reading.step r >>= Reading.finish = .ok root) :
    ∃ root', rest.foldlM Reading.step s >>= Reading.finish = .ok root' ∧
      root.Agrees keep root' := by
  obtain ⟨r', hr', hfinish⟩ := bind_eq_ok.mp hread
  obtain ⟨s', hs', h'⟩ := foldlM_simulates (fun _ _ _ _ => step) h hr'
  obtain ⟨piece, hpiece, hfinish⟩ := bind_eq_ok.mp hfinish
  obtain ⟨⟨reader, builder⟩, hstep, hfinish⟩ := bind_eq_ok.mp hfinish
  obtain ⟨builder', hstep', hagrees⟩ := h'.builder.stepPiece hstep
  obtain ⟨root', hroot', hnode⟩ := hagrees.finish hfinish
  rw [h'.cutter] at hpiece
  rw [h'.reader] at hstep'
  exact ⟨root', bind_eq_ok.mpr ⟨s', hs', bind_eq_ok.mpr ⟨piece, hpiece,
    bind_eq_ok.mpr ⟨_, hstep', hroot'⟩⟩⟩, hnode⟩

end Reading.Agrees

end

/-! ## One element more -/

section

variable {seen : Bytes} {text : String} {reader : Reader} {frame : Frame} {stack : List Frame}

/-- Where markup opens, the text before it is a child of the element around it. -/
theorem step_opening (h : Builder.textOf seen.reverse = .ok text) :
    ∃ ns, Node.forest ns = Forest.chars text.toList .nil ∧ ∀ reader frame stack,
      Reading.step ⟨.text seen, reader, ⟨frame :: stack, none⟩⟩ 0x3C =
        .ok ⟨.opened, reader, ⟨frame.add ns :: stack, none⟩⟩ := by
  have hcutter : (Cutter.text seen).step 0x3C = .ok (.opened, Cutter.textPiece seen) := rfl
  cases hseen : seen.isEmpty with
  | true =>
    obtain rfl := List.isEmpty_iff.mp hseen
    obtain rfl := Except.ok.inj (Builder.textOf_nil.symm.trans h)
    exact ⟨[], rfl, fun _ _ _ => rfl⟩
  | false =>
    refine ⟨[.text text], rfl, fun reader frame stack => ?_⟩
    have hpiece : Cutter.textPiece seen = some (.text seen.reverse) := by
      rw [Cutter.textPiece, hseen]
      rfl
    rw [hpiece] at hcutter
    exact bind_eq_ok.mpr ⟨_, hcutter, bind_eq_ok.mpr ⟨_, stepPiece_text h, rfl⟩⟩

/-- Where markup opens, the text before it is whole. -/
theorem textOf_of_step_opening {r : Reading}
    (h : Reading.step ⟨.text seen, reader, ⟨frame :: stack, none⟩⟩ 0x3C = .ok r) :
    ∃ text, Builder.textOf seen.reverse = .ok text := by
  obtain ⟨piece, hcutter, hpiece⟩ := step_eq_ok.mp h
  obtain rfl : Cutter.textPiece seen = piece := (Prod.mk.inj (Except.ok.inj hcutter)).2
  cases hseen : seen.isEmpty with
  | true =>
    obtain rfl := List.isEmpty_iff.mp hseen
    exact ⟨"", Builder.textOf_nil⟩
  | false =>
    rw [Cutter.textPiece, hseen, if_neg Bool.false_ne_true, stepPiece_text_eq] at hpiece
    obtain ⟨text, htext, -⟩ := bind_eq_ok.mp hpiece
    exact ⟨text, htext⟩

/-- The content of an element is read as its nodes. -/
theorem foldlM_content {c c' : Cutter} {nodes : List Node} {bs : Bytes} {pieces : List Piece}
    (hrun : c.run bs = .ok (c', pieces)) (h : Content reader.scope nodes pieces) (frame : Frame)
    (stack : List Frame) : bs.foldlM Reading.step ⟨c, reader, ⟨frame :: stack, none⟩⟩ =
      .ok ⟨c', reader, ⟨frame.add nodes :: stack, none⟩⟩ := by
  have hpieces : readPieces reader ⟨frame :: stack, none⟩ pieces =
      .ok (reader, ⟨frame.add nodes :: stack, none⟩) := h.readPieces_eq rfl frame stack
  rw [foldlM_step hrun, hpieces]
  rfl

/-- What spells nodes is read as these, from its second byte on. -/
theorem foldlM_spelled {nodes : List Node} {bs : Bytes}
    (h : Spells reader.scope nodes (0x3C :: bs)) (frame : Frame) (stack : List Frame) :
    bs.foldlM Reading.step ⟨.opened, reader, ⟨frame :: stack, none⟩⟩ =
      .ok ⟨Cutter.start, reader, ⟨frame.add nodes :: stack, none⟩⟩ := by
  obtain ⟨pieces, hstart, hcontent⟩ := h
  obtain ⟨next, piece, rest, hstep, hrun, rfl⟩ := Cutter.run_cons.mp hstart
  cases hstep
  exact foldlM_content hrun hcontent frame stack

/-- Bytes of one piece are read as what the piece does. -/
theorem foldlM_piece {r r' : Reading} {cutter : Cutter} {bs : Bytes} {piece : Piece}
    (hrun : r.cutter.run bs = .ok (cutter, [piece])) : bs.foldlM Reading.step r = .ok r' ↔
      ∃ events, r.reader.step piece = .ok (r'.reader, events) ∧
        events.foldlM Builder.step r.builder = .ok r'.builder ∧ r'.cutter = cutter := by
  rw [foldlM_step hrun]
  constructor
  · intro h
    obtain ⟨s, hpieces, hdone⟩ := bind_eq_ok.mp h
    cases hdone
    obtain ⟨s', hpiece, hdone⟩ := bind_eq_ok.mp hpieces
    cases hdone
    obtain ⟨events, hreader, hevents⟩ := stepPiece_some hpiece
    exact ⟨events, hreader, hevents, rfl⟩
  · rintro ⟨events, hreader, hevents, rfl⟩
    refine bind_eq_ok.mpr ⟨(r'.reader, r'.builder), bind_eq_ok.mpr ⟨_, ?_, rfl⟩, rfl⟩
    exact bind_eq_ok.mpr ⟨_, hreader, bind_eq_ok.mpr ⟨_, hevents, rfl⟩⟩

theorem foldlM_text {t : Bytes} (ht : 0x3C ∉ t) (builder : Builder) :
    t.foldlM Reading.step ⟨.text seen, reader, builder⟩ =
      .ok ⟨.text (t.reverse ++ seen), reader, builder⟩ :=
  foldlM_step (r := ⟨.text seen, reader, builder⟩) (Cutter.run_text ht seen)

end

/-- Reading comes with the bytes to a place between the children of an element, where no text is
cut within a character or a reference. -/
structure IsPlace (bs : Bytes) (r : Reading) : Prop where
  reads : ReadsTo bs r
  inside : r.reader ≠ []
  whole : ∃ seen text, r.cutter = .text seen ∧ Builder.textOf seen.reverse = .ok text

/-- At a place there is an element around it, and no root. -/
theorem IsPlace.exists_frame {bs : Bytes} {r : Reading} (h : IsPlace bs r) :
    ∃ frame stack, r.builder = ⟨frame :: stack, none⟩ := by
  obtain ⟨pieces, -, hl⟩ := h.reads.levels
  have hdepth : 0 < nesting pieces := by
    rw [← hl.opened]
    exact List.length_pos_of_ne_nil h.inside
  have hroot : r.builder.root = none := by
    rw [← Option.not_isSome_iff_eq_none]
    exact fun hroot => (hl.rooted hroot).not_gt hdepth
  obtain ⟨frame, stack, hstack⟩ := List.exists_cons_of_length_pos (hl.stacked.symm ▸ hdepth)
  refine ⟨frame, stack, ?_⟩
  rw [← hstack, ← hroot]

/-- A tag that closes itself, without its `<`, and two tags for the same element, of which the
first is without its `<`. -/
def Unfolds (scope inner : Scope) (closed opening ending : Bytes) : Prop :=
  ∃ content body content' last e,
    (Cutter.opened.run closed = .ok (Cutter.start, [.tag content]) ∧
      selfClosed? content = some body ∧ OpenElement.ofTag scope body = .ok e) ∧
    (Cutter.opened.run opening = .ok (Cutter.start, [.tag content']) ∧
      selfClosed? content' = none ∧ OpenElement.ofTag scope content' = .ok e) ∧
    (Cutter.start.run ending = .ok (Cutter.start, [.endTag last]) ∧ endName last = e.name) ∧
    inner = e.scope

/-- The second text has one element more than the first : between children of an element, or in
an element whose tag closes itself in the first text. -/
inductive Inserts (foreign : Tag) : Bytes → Bytes → Prop
  | between {before inserted after : Bytes} {r : Reading} {inside : List Node}
    (hplace : IsPlace before r)
    (h : Spells r.reader.scope [.element foreign inside] (0x3C :: inserted)) :
    Inserts foreign (before ++ after) (before ++ 0x3C :: (inserted ++ after))
  | inside {before closed opening inserted ending after : Bytes} {r : Reading} {inner : Scope}
    {inside : List Node} (hreads : ReadsTo (before ++ [0x3C]) r) (hcutter : r.cutter = .opened)
    (hunfolds : Unfolds r.reader.scope inner closed opening ending)
    (h : Spells inner [.element foreign inside] inserted) :
    Inserts foreign (before ++ 0x3C :: (closed ++ after))
      (before ++ 0x3C :: (opening ++ inserted ++ ending ++ after))

/-- An element that is not kept may stand between two texts, and is as good as none. -/
theorem kept_between {keep : Tag → Bool} {foreign : Tag} (hkeep : keep foreign = false)
    {a b : String} {ns as bs inside : List Node}
    (hns : Node.forest ns = Forest.chars (a ++ b).toList .nil)
    (has : Node.forest as = Forest.chars a.toList .nil)
    (hbs : Node.forest bs = Forest.chars b.toList .nil) :
    Node.kept keep ns = Node.kept keep (as ++ .element foreign inside :: bs) := by
  have hforeign : Node.kept keep (.element foreign inside :: bs) = Node.kept keep bs := by
    rw [Node.kept_element, hkeep, if_neg Bool.false_ne_true]
  have hchars : ∀ {s : String} {nodes : List Node},
      Node.forest nodes = Forest.chars s.toList .nil →
        Node.kept keep nodes = Forest.chars s.toList .nil := fun h => by
    rw [Node.kept, h, Forest.filter_chars]
    rfl
  rw [Node.kept_append, hforeign, hchars hns, hchars has, hchars hbs, Forest.chars_append,
    String.toList_append, Forest.chars, List.foldr_append]
  rfl

namespace Inserts

variable {foreign : Tag} {keep : Tag → Bool} {root : Node}

theorem read_between {before inserted after : Bytes} {r : Reading} {inside : List Node}
    (hplace : IsPlace before r)
    (h : Spells r.reader.scope [.element foreign inside] (0x3C :: inserted))
    (hkeep : keep foreign = false) (hread : Node.read (before ++ after) = .ok root) :
    ∃ root', Node.read (before ++ 0x3C :: (inserted ++ after)) = .ok root' ∧
      root.Agrees keep root' := by
  obtain ⟨frame, stack, hbuilder⟩ := hplace.exists_frame
  obtain ⟨seen, a, hseen, ha⟩ := hplace.whole
  have hreads := hplace.reads
  obtain ⟨cutter, reader, builder⟩ := r
  dsimp only at hbuilder hseen h
  subst hbuilder hseen
  rw [ReadsTo] at hreads
  rw [Node.read, List.foldlM_append, hreads, ok_bind] at hread
  by_cases hmem : (0x3C : UInt8) ∈ after
  · obtain ⟨t, rest, rfl, ht⟩ := List.eq_append_cons_of_mem hmem
    -- without the element, the text goes on up to the next markup
    rw [List.foldlM_append, foldlM_text ht, ok_bind, List.foldlM_cons, bind_assoc] at hread
    obtain ⟨r₁, hr₁, hread⟩ := bind_eq_ok.mp hread
    obtain ⟨c, hc⟩ := textOf_of_step_opening hr₁
    obtain ⟨ns, hns, hstep⟩ := step_opening hc
    rw [hstep] at hr₁
    cases hr₁
    rw [List.reverse_append, List.reverse_reverse] at hc
    obtain ⟨b, hb, rfl⟩ := (Builder.textOf_append ha).mp hc
    -- with it there are two texts
    obtain ⟨as, has, hstepa⟩ := step_opening ha
    have hb' : Builder.textOf (t.reverse ++ []).reverse = .ok b := by simpa using hb
    obtain ⟨bs, hbs, hstepb⟩ := step_opening hb'
    have hagrees : Reading.Agrees keep ⟨.opened, reader, ⟨frame.add ns :: stack, none⟩⟩
        ⟨.opened, reader,
          ⟨((frame.add as).add [.element foreign inside]).add bs :: stack, none⟩⟩ := by
      rw [Frame.add_add, Frame.add_add]
      exact ⟨rfl, rfl, Builder.agrees_add frame stack (kept_between hkeep hns has hbs)⟩
    obtain ⟨root', hroot', hroots⟩ := hagrees.read hread
    refine ⟨root', ?_, hroots⟩
    rw [Node.read, List.foldlM_append, hreads, ok_bind, List.foldlM_cons, hstepa, ok_bind,
      List.foldlM_append, foldlM_spelled h, ok_bind, List.foldlM_append]
    rw [Cutter.start, foldlM_text ht, ok_bind, List.foldlM_cons, hstepb, ok_bind]
    exact hroot'
  · -- the element around the place would not end
    rw [foldlM_text hmem, ok_bind] at hread
    cases Reading.root_of_finish hread

/-- An element in another one that is empty : with two tags for this other one, reading goes on
as with one tag that closes itself. -/
theorem agrees_of_unfolds {inner : Scope} {reader : Reader} {builder : Builder}
    {closed opening inserted ending : Bytes} {inside : List Node}
    (hunfolds : Unfolds reader.scope inner closed opening ending)
    (h : Spells inner [.element foreign inside] inserted) (hkeep : keep foreign = false)
    {r : Reading} (hclosed : closed.foldlM Reading.step ⟨.opened, reader, builder⟩ = .ok r) :
    ∃ s, (opening ++ inserted ++ ending).foldlM Reading.step ⟨.opened, reader, builder⟩ = .ok s ∧
      r.Agrees keep s := by
  obtain ⟨content, body, content', last, e, ⟨hrun, hself, he⟩, ⟨hrun', hself', he'⟩,
    ⟨hrunlast, hlast⟩, rfl⟩ := hunfolds
  obtain ⟨pieces, hruninside, hcontent⟩ := h
  obtain ⟨events, hreader, hevents, hcutter⟩ := (foldlM_piece hrun).mp hclosed
  have hevent : reader.step (.tag content) = .ok (reader, [Reader.startOf e, .stop]) := by
    rw [Reader.step, hself]
    exact bind_eq_ok.mpr ⟨e, he, rfl⟩
  obtain ⟨hsame, rfl⟩ := Prod.mk.inj (Except.ok.inj (hevent.symm.trans hreader))
  -- the element starts in both texts, and ends at once in the first
  obtain ⟨⟨stack, started⟩, hstart, hstop⟩ := bind_eq_ok.mp hevents
  obtain ⟨-, tag, -, hstarted⟩ := Builder.step_start hstart
  cases hstarted
  have hopening : opening.foldlM Reading.step ⟨.opened, reader, builder⟩ =
      .ok ⟨Cutter.start, e :: reader, ⟨⟨tag, []⟩ :: builder.stack, none⟩⟩ := by
    refine (foldlM_piece hrun').mpr ⟨[Reader.startOf e], ?_, bind_eq_ok.mpr ⟨_, hstart, rfl⟩, rfl⟩
    rw [Reader.step, hself']
    exact bind_eq_ok.mpr ⟨e, he', rfl⟩
  have hinserted := @foldlM_content (e :: reader) _ _ _ _ _ hruninside hcontent ⟨tag, []⟩
    builder.stack
  have hkept : Node.kept keep [] = Node.kept keep [.element foreign inside] := by
    rw [Node.kept_element, hkeep]
    rfl
  obtain ⟨builder', hstop', hagrees⟩ :=
    (Builder.agrees_add ⟨tag, []⟩ builder.stack hkept).step (foldlM_step_singleton hstop)
  have hending : ending.foldlM Reading.step ⟨Cutter.start, e :: reader,
      ⟨(⟨tag, []⟩ : Frame).add [.element foreign inside] :: builder.stack, none⟩⟩ =
        .ok ⟨Cutter.start, reader, builder'⟩ := by
    refine (foldlM_piece hrunlast).mpr ⟨[.stop], ?_, bind_eq_ok.mpr ⟨_, hstop', rfl⟩, rfl⟩
    rw [Reader.step, if_pos hlast]
  refine ⟨⟨Cutter.start, reader, builder'⟩, ?_, hcutter, hsame.symm, hagrees⟩
  rw [List.foldlM_append, List.foldlM_append, hopening, ok_bind, hinserted, ok_bind, hending]

theorem read_inside {before closed opening inserted ending after : Bytes} {r : Reading}
    {inner : Scope} {inside : List Node} (hreads : ReadsTo (before ++ [0x3C]) r)
    (hcutter : r.cutter = .opened) (hunfolds : Unfolds r.reader.scope inner closed opening ending)
    (h : Spells inner [.element foreign inside] inserted) (hkeep : keep foreign = false)
    (hread : Node.read (before ++ 0x3C :: (closed ++ after)) = .ok root) :
    ∃ root', Node.read (before ++ 0x3C :: (opening ++ inserted ++ ending ++ after)) = .ok root' ∧
      root.Agrees keep root' := by
  obtain ⟨cutter, reader, builder⟩ := r
  obtain rfl : cutter = .opened := hcutter
  have hsplit : ∀ tail : Bytes, before ++ 0x3C :: tail = (before ++ [0x3C]) ++ tail := by simp
  rw [ReadsTo] at hreads
  rw [Node.read, hsplit, List.foldlM_append, hreads, ok_bind, List.foldlM_append, bind_assoc]
    at hread
  obtain ⟨r₁, hclosed, hread⟩ := bind_eq_ok.mp hread
  obtain ⟨s₁, hs₁, hagrees⟩ := agrees_of_unfolds hunfolds h hkeep hclosed
  obtain ⟨root', hroot', hroots⟩ := hagrees.read hread
  refine ⟨root', ?_, hroots⟩
  rw [Node.read, hsplit, List.foldlM_append, hreads, ok_bind, List.foldlM_append, hs₁, ok_bind]
  exact hroot'

/-- The second text is read as the first, but for an element that is not kept. -/
theorem read {bs bs' : Bytes} (h : Inserts foreign bs bs') (hkeep : keep foreign = false)
    (hread : Node.read bs = .ok root) :
    ∃ root', Node.read bs' = .ok root' ∧ root.Agrees keep root' := by
  cases h with
  | between hplace h => exact read_between hplace h hkeep hread
  | inside hreads hcutter hunfolds h => exact read_inside hreads hcutter hunfolds h hkeep hread

end Inserts

end DavCourier.Markup

namespace DavCourier.Dav.MultiStatus

open Markup Fallible

/-- An element more makes no difference if it is not called like one that is looked up with the
prefix of the root. -/
theorem parse_inserts {foreign : Tag} {bs bs' : Bytes} (h : Inserts foreign bs bs') {tag : Tag}
    {children : List Node} (hread : Node.read bs = .ok (.element tag children))
    (hforeign : ∀ name ∈ vocabulary, foreign.name ≠ qualified tag.qualifier name) :
    parse bs' = parse bs := by
  obtain ⟨root', hread', ⟨hkept⟩⟩ := h.read (isLookedUp_eq_false_iff.mpr hforeign) hread
  rw [parse, parse, hread, hread', Except.map, Except.map, ofNode?_eq_of_kept hkept]

/-- The open elements and the tree inside elements with these names, the innermost first. -/
def inElements (cutter : Cutter) (names : List String) : Reading :=
  ⟨cutter, names.map fun name => ⟨Utf8.encodeString name, renderedScope⟩,
    ⟨names.map fun name => ⟨⟨name, some davSpace⟩, []⟩, none⟩⟩

/-- A report up to the middle of a reference. -/
def firstHalf : Bytes :=
  Utf8.encodeString "<D:multistatus xmlns:D=\"DAV:\"><D:response><D:href>/"

/-- The rest of the report. -/
def secondHalf : Bytes :=
  Utf8.encodeString "a</D:href></D:response></D:multistatus>"

/-- The start tag of a report, up to the first markup inside it. -/
def rootStart : Bytes :=
  Utf8.encodeString "<D:multistatus xmlns:D=\"DAV:\">"

/-- The end tag of a report. -/
def rootEnd : Bytes :=
  Utf8.encodeString "</D:multistatus>"

/-- Another element with a reference in it, without its first byte. -/
def foreignText : Bytes :=
  Utf8.encodeString "D:x><D:href>/b</D:href></D:x>"

theorem parse_inserts_reference :
    parse (firstHalf ++ 0x3C :: (foreignText ++ secondHalf)) = parse (firstHalf ++ secondHalf) ∧
      parse (rootStart ++ 0x3C :: (Utf8.encodeString "D:response>" ++ (0x3C :: foreignText) ++
        Utf8.encodeString "</D:response>" ++ rootEnd)) =
          parse (rootStart ++ 0x3C :: (Utf8.encodeString "D:response/>" ++ rootEnd)) := by
  have hforeign : ∀ name ∈ vocabulary, "D:x" ≠ qualified (some "D") name := by decide
  have hspells : Spells renderedScope [node "D:x" [node "D:href" (textNodes "/b")]]
      (0x3C :: foreignText) := by
    have hx : IsNameIn renderedScope davSpace "D:x" := by decide
    have hhref : IsNameIn renderedScope davSpace "D:href" := by decide
    have hbytes : 0x3C :: foreignText = 0x3C :: (Utf8.encodeString "D:x" ++ [0x3E]) ++
        (0x3C :: (Utf8.encodeString "D:href" ++ [0x3E]) ++
          (Utf8.encode (Reference.escape "/b".toList) ++
            0x3C :: 0x2F :: (Utf8.encodeString "D:href" ++ [0x3E]))) ++
              0x3C :: 0x2F :: (Utf8.encodeString "D:x" ++ [0x3E]) := by
      decide +kernel
    rw [hbytes]
    exact .element hx (.textElement hhref "/b")
  have hfirst : Node.read (firstHalf ++ secondHalf) = .ok (node "D:multistatus"
      [node "D:response" [node "D:href" [.text "/a"]]]) := by
    decide +kernel
  have hsecond : Node.read (rootStart ++ 0x3C :: (Utf8.encodeString "D:response/>" ++ rootEnd)) =
      .ok (node "D:multistatus" [node "D:response" []]) := by
    decide +kernel
  have hplace : IsPlace firstHalf
      (inElements (.text [0x2F]) ["D:href", "D:response", "D:multistatus"]) := by
    refine ⟨?_, by decide, [0x2F], "/", rfl, by decide +kernel⟩
    unfold ReadsTo
    decide +kernel
  have hopened : ReadsTo (rootStart ++ [0x3C]) (inElements .opened ["D:multistatus"]) := by
    unfold ReadsTo
    decide +kernel
  have hunfolds : Unfolds renderedScope renderedScope (Utf8.encodeString "D:response/>")
      (Utf8.encodeString "D:response>") (Utf8.encodeString "</D:response>") := by
    have hname := isNameIn_rendered "D:response" (by decide)
    exact ⟨Utf8.encodeString "D:response/", Utf8.encodeString "D:response",
      Utf8.encodeString "D:response", Utf8.encodeString "D:response",
      ⟨Utf8.encodeString "D:response", renderedScope⟩,
      ⟨by decide +kernel, by decide +kernel, hname.bytes.ofTag_eq _⟩,
      ⟨by decide +kernel, by decide +kernel, hname.bytes.ofTag_eq _⟩,
      ⟨by decide +kernel, by decide +kernel⟩, rfl⟩
  exact ⟨parse_inserts (.between hplace hspells) hfirst hforeign,
    parse_inserts (.inside hopened rfl hunfolds hspells) hsecond hforeign⟩

end DavCourier.Dav.MultiStatus
