import DavCourier.Proofs.Markup.Hearing
import DavCourier.Proofs.Markup.Spelling

/-!
# Balanced events

`IsDocument` says which events are those of a document : one balanced element outside all others,
whose start and whose inner events are sound, and nothing around it but texts. `Recounts` relates
events to the nodes that they stand for, without a stack. Balanced and sound events are those of
some nodes (`Recounts.exists_iff`), and inside an element they add these nodes to its frame
(`Recounts.foldlM_eq`).

The other way, each event goes on with what has been built (`Builds.step`) : the frames on the
stack have the nodes of the events since the start of their element, so an element that ends is
complete when it becomes a child, and nothing is lost. Hence `Node.read_eq_ok_iff` : the bytes of
a document have a root if and only if the reader reports the events of a document with it.
-/

namespace DavCourier.Markup

open Fallible

/-! ## Sound events -/

/-- The bytes are those of characters. -/
def IsUtf8 (bs : Bytes) : Prop :=
  ∃ cs, bs = Utf8.encode cs

/-- The prefix of an element is bound and its name and its namespace are UTF-8. A text is UTF-8
and knows its references, and a literal section is UTF-8. -/
def Event.IsSound : Event → Prop
  | .start name space => (∀ qualifier, space ≠ .unknown qualifier) ∧ IsUtf8 name ∧
      ∀ value, space = .bound value → IsUtf8 value
  | .stop => True
  | .text raw => ∃ cs, raw = Utf8.encode cs ∧ Reference.AllKnown cs
  | .literal raw => IsUtf8 raw

theorem IsUtf8.exists_string {bs : Bytes} (h : IsUtf8 bs) : ∃ s, bs = Utf8.encodeString s := by
  obtain ⟨cs, rfl⟩ := h
  exact ⟨String.ofList cs, by rw [Utf8.encodeString, String.toList_ofList]⟩

theorem Builder.exists_tagOf_eq_ok {name : Bytes} {space : Resolution} :
    (∃ tag, tagOf name space = .ok tag) ↔ (Event.start name space).IsSound := by
  constructor
  · rintro ⟨tag, htag⟩
    obtain ⟨hspace, hname⟩ := tagOf_eq_ok.mp htag
    refine ⟨?_, ⟨_, bytes_of_nameOf hname⟩, ?_⟩
    · rintro qualifier rfl
      cases hspace
    · rintro value rfl
      obtain ⟨s, -, hvalue⟩ := spaceOf_bound_eq_ok.mp hspace
      exact ⟨_, hvalue⟩
  · rintro ⟨hknown, hname, hvalue⟩
    obtain ⟨n, rfl⟩ := hname.exists_string
    have hspace : ∃ s, spaceOf space = .ok s := by
      cases space with
      | bound value =>
        obtain ⟨s, rfl⟩ := (hvalue value rfl).exists_string
        exact ⟨some s, spaceOf_bound_eq_ok.mpr ⟨s, rfl, rfl⟩⟩
      | unbound => exact ⟨none, rfl⟩
      | unknown qualifier => exact absurd rfl (hknown qualifier)
    obtain ⟨s, hs⟩ := hspace
    exact ⟨⟨n, s⟩, tagOf_eq_ok.mpr ⟨hs, nameOf_encodeString n⟩⟩

theorem Event.exists_says {event : Event} (h : event.IsContent) :
    (∃ content, event.Says content) ↔ event.IsSound := by
  obtain ⟨raw, rfl | rfl⟩ := h
  · constructor
    · rintro ⟨content, hsays⟩
      cases hsays with
      | text h =>
        obtain ⟨cs, rfl, hexpand⟩ := Builder.textOf_eq_ok.mp h
        exact ⟨cs, rfl, Reference.exists_expand_eq_ok.mp ⟨_, hexpand⟩⟩
    · rintro ⟨cs, rfl, hknown⟩
      obtain ⟨ds, hds⟩ := Reference.exists_expand_eq_ok.mpr hknown
      refine ⟨String.ofList ds, .text (Builder.textOf_eq_ok.mpr ⟨cs, rfl, ?_⟩)⟩
      rw [hds, String.toList_ofList]
  · constructor
    · rintro ⟨content, hsays⟩
      cases hsays with
      | literal h => exact ⟨_, Builder.literalOf_eq_ok.mp h⟩
    · intro hutf8
      obtain ⟨s, rfl⟩ := hutf8.exists_string
      exact ⟨s, .literal (Builder.literalOf_eq_ok.mpr rfl)⟩

/-! ## Balanced events -/

/-- Every element that starts ends, after all elements inside it. -/
inductive IsBalanced : List Event → Prop
  | nil : IsBalanced []
  | content {event : Event} {es : List Event} (h : event.IsContent) (rest : IsBalanced es) :
    IsBalanced (event :: es)
  | element (name : Bytes) (space : Resolution) {inner es : List Event} (body : IsBalanced inner)
    (rest : IsBalanced es) : IsBalanced (.start name space :: (inner ++ .stop :: es))

/-- There is one element outside all others, the events inside it are balanced, and its start
and the events inside it are sound. The events around it are texts, sound or not. -/
def IsDocument (es : List Event) : Prop :=
  ∃ before name space inner after,
    es = before ++ .start name space :: (inner ++ .stop :: after) ∧
      (∀ event ∈ before ++ after, event.IsContent) ∧ IsBalanced inner ∧
      ∀ event ∈ Event.start name space :: inner, event.IsSound

/-! ## The nodes of events -/

/-- The events are those of the nodes. -/
inductive Recounts : List Event → List Node → Prop
  | nil : Recounts [] []
  | content {event : Event} {content : String} {es : List Event} {nodes : List Node}
    (h : event.Says content) (rest : Recounts es nodes) :
    Recounts (event :: es) (.text content :: nodes)
  | element {name : Bytes} {space : Resolution} {tag : Tag} {inner es : List Event}
    {children nodes : List Node} (htag : Builder.tagOf name space = .ok tag)
    (body : Recounts inner children) (rest : Recounts es nodes) :
    Recounts (.start name space :: (inner ++ .stop :: es)) (.element tag children :: nodes)

theorem Event.Says.isContent {event : Event} {content : String} (h : event.Says content) :
    event.IsContent := by
  cases h with
  | text h => exact ⟨_, Or.inl rfl⟩
  | literal h => exact ⟨_, Or.inr rfl⟩

namespace Recounts

variable {es fs : List Event} {nodes ms : List Node}

theorem append (h : Recounts es nodes) (h' : Recounts fs ms) :
    Recounts (es ++ fs) (nodes ++ ms) := by
  induction h with
  | nil => exact h'
  | content h rest ih => exact .content h ih
  | element htag body rest _ ih =>
    rw [List.cons_append, List.append_assoc, List.cons_append]
    exact .element htag body ih

/-- Balanced and sound events are those of some nodes, and no others are. -/
theorem exists_iff : (∃ nodes, Recounts es nodes) ↔
    IsBalanced es ∧ ∀ event ∈ es, event.IsSound := by
  constructor
  · rintro ⟨nodes, h⟩
    induction h with
    | nil => exact ⟨.nil, by simp⟩
    | content h rest ih =>
      obtain ⟨hbalanced, hsound⟩ := ih
      refine ⟨.content h.isContent hbalanced, List.forall_mem_cons.mpr ⟨?_, hsound⟩⟩
      exact (Event.exists_says h.isContent).mp ⟨_, h⟩
    | @element name space _ _ _ _ _ htag body rest ihbody ih =>
      obtain ⟨hinner, hinnersound⟩ := ihbody
      obtain ⟨hbalanced, hsound⟩ := ih
      refine ⟨.element name space hinner hbalanced, List.forall_mem_cons.mpr ⟨?_, ?_⟩⟩
      · exact Builder.exists_tagOf_eq_ok.mp ⟨_, htag⟩
      · exact List.forall_mem_append.mpr ⟨hinnersound, List.forall_mem_cons.mpr ⟨trivial, hsound⟩⟩
  · rintro ⟨hbalanced, hsound⟩
    induction hbalanced with
    | nil => exact ⟨[], .nil⟩
    | content h rest ih =>
      obtain ⟨hfirst, hrest⟩ := List.forall_mem_cons.mp hsound
      obtain ⟨nodes, hnodes⟩ := ih hrest
      obtain ⟨content, hsays⟩ := (Event.exists_says h).mpr hfirst
      exact ⟨.text content :: nodes, .content hsays hnodes⟩
    | element name space body rest ihbody ih =>
      obtain ⟨hfirst, hsound⟩ := List.forall_mem_cons.mp hsound
      obtain ⟨hinner, hsound⟩ := List.forall_mem_append.mp hsound
      obtain ⟨tag, htag⟩ := Builder.exists_tagOf_eq_ok.mpr hfirst
      obtain ⟨children, hchildren⟩ := ihbody hinner
      obtain ⟨nodes, hnodes⟩ := ih (List.forall_mem_cons.mp hsound).2
      exact ⟨.element tag children :: nodes, .element htag hchildren hnodes⟩

/-- Events inside an element add their nodes to its frame. -/
theorem foldlM_eq (h : Recounts es nodes) (frame : Frame) (stack : List Frame) :
    es.foldlM Builder.step ⟨frame :: stack, none⟩ = .ok ⟨frame.add nodes :: stack, none⟩ := by
  induction h generalizing frame stack with
  | nil => rfl
  | content h rest ih =>
    rw [List.foldlM_cons, Frame.add_cons, ← ih]
    cases h with
    | text h => simp [Builder.step, h]
    | literal h => simp [Builder.step, h]
  | element htag body rest ihbody ih =>
    rw [List.foldlM_cons, Builder.step_start_eq htag, ok_bind, List.foldlM_append, ihbody, ok_bind,
      List.foldlM_cons, Frame.add_cons, ← ih, ← Frame.close_add]
    rfl

/-- Events of one element make it the root. -/
theorem foldlM_root {whole : List Event} {tag : Tag} (h : Recounts whole [.element tag nodes]) :
    whole.foldlM Builder.step Builder.start = .ok ⟨[], some (.element tag nodes)⟩ := by
  cases h with
  | element htag body rest =>
    cases rest
    rw [List.foldlM_cons, Builder.start, Builder.step_start_eq htag, ok_bind, List.foldlM_append,
      body.foldlM_eq, ok_bind, ← Frame.close_add]
    rfl

end Recounts

/-- The events are those of a document with this root. -/
def RecountsRoot (es : List Event) (root : Node) : Prop :=
  ∃ before whole after tag nodes, es = before ++ (whole ++ after) ∧
    (∀ event ∈ before ++ after, event.IsContent) ∧ root = .element tag nodes ∧
    Recounts whole [root]

theorem exists_recountsRoot_iff {es : List Event} :
    (∃ root, RecountsRoot es root) ↔ IsDocument es := by
  constructor
  · rintro ⟨root, before, whole, after, tag, nodes, rfl, haround, rfl, hwhole⟩
    obtain ⟨-, hsound⟩ := Recounts.exists_iff.mp ⟨_, hwhole⟩
    cases hwhole with
    | @element name space _ inner _ _ _ htag body rest =>
      cases rest
      obtain ⟨hstart, hinner⟩ := List.forall_mem_cons.mp hsound
      refine ⟨before, name, space, inner, after, by simp, haround, ?_, ?_⟩
      · exact (Recounts.exists_iff.mp ⟨_, body⟩).1
      · exact List.forall_mem_cons.mpr ⟨hstart, (List.forall_mem_append.mp hinner).1⟩
  · rintro ⟨before, name, space, inner, after, rfl, haround, hbalanced, hsound⟩
    obtain ⟨hstart, hinner⟩ := List.forall_mem_cons.mp hsound
    obtain ⟨tag, htag⟩ := Builder.exists_tagOf_eq_ok.mpr hstart
    obtain ⟨nodes, hnodes⟩ := Recounts.exists_iff.mpr ⟨hbalanced, hinner⟩
    exact ⟨.element tag nodes, before, .start name space :: (inner ++ [.stop]), after, tag, nodes,
      by simp, haround, rfl, .element htag hnodes .nil⟩

/-! ## What has been built -/

/-- Events that leave open elements with these frames. -/
inductive Leaves : List Event → List Frame → Prop
  | outside {es : List Event} (h : ∀ event ∈ es, event.IsContent) : Leaves es []
  | inside {before inner : List Event} {name : Bytes} {space : Resolution} {tag : Tag}
    {nodes : List Node} {stack : List Frame} (h : Leaves before stack)
    (htag : Builder.tagOf name space = .ok tag) (body : Recounts inner nodes) :
    Leaves (before ++ .start name space :: inner) ((⟨tag, []⟩ : Frame).add nodes :: stack)

/-- What the events have built. -/
inductive Builds : List Event → Builder → Prop
  | opened {es : List Event} {stack : List Frame} (h : Leaves es stack) : Builds es ⟨stack, none⟩
  | closed {es : List Event} {root : Node} (h : RecountsRoot es root) : Builds es ⟨[], some root⟩

theorem Frame.add_concat (frame : Frame) (nodes : List Node) (node : Node) :
    frame.add (nodes ++ [node]) = Builder.addChild (frame.add nodes) node := by
  simp [Frame.add, Builder.addChild]

/-- More nodes of the innermost element. -/
theorem Leaves.append {es more : List Event} {frame : Frame} {stack : List Frame}
    (h : Leaves es (frame :: stack)) {node : Node} (hmore : Recounts more [node]) :
    Leaves (es ++ more) (Builder.addChild frame node :: stack) := by
  cases h with
  | inside h htag body =>
    rw [List.append_assoc, List.cons_append, ← Frame.add_concat]
    exact .inside h htag (body.append hmore)

theorem Leaves.isContent {es : List Event} (h : Leaves es []) : ∀ event ∈ es, event.IsContent := by
  cases h with
  | outside h => exact h

/-- The innermost element ends. -/
theorem Leaves.close {es : List Event} {frame : Frame} {stack : List Frame}
    (h : Leaves es (frame :: stack)) : ∃ before more, Leaves before stack ∧
      es ++ [.stop] = before ++ more ∧ Recounts more [Builder.close frame] := by
  cases h with
  | @inside before inner name space tag nodes _ h htag body =>
    refine ⟨before, .start name space :: (inner ++ [.stop]), h, by simp, ?_⟩
    rw [Frame.close_add]
    exact .element htag body .nil

theorem RecountsRoot.append {es after : List Event} {root : Node} (h : RecountsRoot es root)
    (hafter : ∀ event ∈ after, event.IsContent) : RecountsRoot (es ++ after) root := by
  obtain ⟨before, whole, rest, tag, nodes, rfl, haround, hroot, hwhole⟩ := h
  refine ⟨before, whole, rest ++ after, tag, nodes, by simp, ?_, hroot, hwhole⟩
  rw [← List.append_assoc]
  exact List.forall_mem_append.mpr ⟨haround, hafter⟩

/-- A text is one more child of the innermost element, and outside all elements nothing. -/
theorem Builds.step_content {es : List Event} {builder builder' : Builder} {event : Event}
    (h : Builds es builder) (hevent : event.IsContent) (hstep : builder.step event = .ok builder') :
    Builds (es ++ [event]) builder' := by
  have hlast : ∀ last ∈ [event], last.IsContent := List.forall_mem_singleton.mpr hevent
  rcases Builder.step_content hevent hstep with
    ⟨hstack, rfl⟩ | ⟨content, frame, rest, hsays, hstack, rfl⟩
  · cases h with
    | opened h =>
      cases hstack
      exact .opened (.outside (List.forall_mem_append.mpr ⟨h.isContent, hlast⟩))
    | closed h => exact .closed (h.append hlast)
  · cases h with
    | opened h =>
      cases hstack
      exact .opened (h.append (.content hsays .nil))
    | closed h => cases hstack

/-- One more event goes on with what has been built. -/
theorem Builds.step {es : List Event} {builder builder' : Builder} {event : Event}
    (h : Builds es builder) (hstep : builder.step event = .ok builder') :
    Builds (es ++ [event]) builder' := by
  cases event with
  | start name space =>
    obtain ⟨hnone, tag, htag, rfl⟩ := Builder.step_start hstep
    cases h with
    | opened h => exact .opened (.inside h htag .nil)
    | closed h => cases hnone
  | stop =>
    obtain ⟨frame, outer, hstack, hbuilt⟩ := Builder.step_stop hstep
    cases h with
    | closed h => cases hstack
    | opened h =>
      cases hstack
      -- the events since the start of the element are the whole of it
      obtain ⟨before, whole, hbefore, heq, hwhole⟩ := h.close
      rw [heq]
      rcases hbuilt with ⟨rfl, rfl⟩ | ⟨parent, rest, rfl, rfl⟩
      · have haround : ∀ event ∈ before ++ [], event.IsContent := by
          rw [List.append_nil]
          exact hbefore.isContent
        exact .closed ⟨before, whole, [], frame.tag, _, by simp, haround, rfl, hwhole⟩
      · exact .opened (hbefore.append hwhole)
  | text raw => exact h.step_content ⟨raw, Or.inl rfl⟩ hstep
  | literal raw => exact h.step_content ⟨raw, Or.inr rfl⟩ hstep

/-- Events that are built without a fault build what they are the events of. -/
theorem Builds.of_foldlM {es : List Event} {builder : Builder}
    (h : es.foldlM Builder.step Builder.start = .ok builder) : Builds es builder := by
  induction es using List.reverseRecOn generalizing builder with
  | nil =>
    cases h
    exact .opened (.outside (List.forall_mem_nil _))
  | append_singleton es event ih =>
    rw [List.foldlM_append] at h
    obtain ⟨builder₁, hbefore, hlast⟩ := bind_eq_ok.mp h
    exact (ih hbefore).step (foldlM_step_singleton hlast)

/-- Texts outside all elements are disregarded. -/
theorem Builder.foldlM_outside {es : List Event} (h : ∀ event ∈ es, event.IsContent)
    (root : Option Node) : es.foldlM Builder.step ⟨[], root⟩ = .ok ⟨[], root⟩ := by
  induction es with
  | nil => rfl
  | cons event es ih =>
    obtain ⟨⟨raw, rfl | rfl⟩, hrest⟩ := List.forall_mem_cons.mp h
    · exact ih hrest
    · exact ih hrest

/-- The builder makes a root of the events if and only if they are those of a document with it. -/
theorem exists_finish_iff {es : List Event} {root : Node} :
    (∃ builder, es.foldlM Builder.step Builder.start = .ok builder ∧ builder.finish = .ok root) ↔
      RecountsRoot es root := by
  constructor
  · rintro ⟨builder, hbuild, hfinish⟩
    cases Builds.of_foldlM hbuild with
    | @opened stack h => cases stack <;> cases hfinish
    | closed h =>
      cases hfinish
      exact h
  · rintro ⟨before, whole, after, tag, nodes, rfl, haround, rfl, hwhole⟩
    obtain ⟨hbefore, hafter⟩ := List.forall_mem_append.mp haround
    refine ⟨⟨[], some (.element tag nodes)⟩, ?_, rfl⟩
    have hstart : before.foldlM Builder.step Builder.start = .ok Builder.start :=
      Builder.foldlM_outside hbefore none
    rw [List.foldlM_append, hstart, ok_bind, List.foldlM_append, hwhole.foldlM_root, ok_bind,
      Builder.foldlM_outside hafter]

/-- Reading gives a root if and only if the reader reports the events of a document with it. -/
theorem Node.read_eq_ok_iff {bs : Bytes} {root : Node} :
    Node.read bs = .ok root ↔ ∃ es, events bs = .ok es ∧ RecountsRoot es root := by
  rw [Node.read_eq_ok]
  constructor
  · rintro ⟨es, builder, hevents, hbuild⟩
    exact ⟨es, hevents, exists_finish_iff.mp ⟨builder, hbuild⟩⟩
  · rintro ⟨es, hevents, hroot⟩
    obtain ⟨builder, hbuild⟩ := exists_finish_iff.mpr hroot
    exact ⟨es, builder, hevents, hbuild⟩

end DavCourier.Markup
