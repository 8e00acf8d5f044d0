import DavCourier.Proofs.Markup.Content
import DavCourier.Proofs.Markup.Nesting
import Mathlib.Data.List.Forall2
import Mathlib.Data.List.Induction

/-!
# The reader alone

`Reading` hands each event to the builder at once. `Hearing` is the cutter and the reader without
a builder : it keeps the events, and `events` is what the reader reports of all the bytes, if it
finds no fault. Reading is hearing and then building (`Node.read_eq_ok`).

The reader and the builder have a stack each. `opened?` is the stack that events alone give; it is
the one of the reader (`Hearing.opened?_events`), and each frame of the builder has the tag of the
element at its place (`Mirrors.foldlM`). A reader never ends an element that is not open, so the
builder is never asked for one (`Node.read_ne_unopenedEnd`).
-/

namespace DavCourier.Markup

open Fallible

/-! ## Hearing -/

/-- The state of the reader between two bytes of a document, with the events so far. -/
structure Hearing where
  cutter : Cutter
  reader : Reader
  events : List Event
  deriving DecidableEq, Repr

namespace Hearing

/-- The state before the first byte. -/
def start : Hearing := ⟨Cutter.start, [], []⟩

/-- The open elements after a piece, if there is one, and the events of the piece. -/
def stepPiece (reader : Reader) : Option Piece → Except Fault (Reader × List Event)
  | none => .ok (reader, [])
  | some piece => reader.step piece

/-- The state after one more byte. -/
def step (h : Hearing) (b : UInt8) : Except Fault Hearing := do
  let (cutter, piece) ← h.cutter.step b
  let (reader, events) ← stepPiece h.reader piece
  return ⟨cutter, reader, h.events ++ events⟩

/-- The events of a document that ends here. -/
def finish (h : Hearing) : Except Fault (List Event) := do
  let piece ← h.cutter.finish
  let (_, events) ← stepPiece h.reader piece
  return h.events ++ events

end Hearing

/-- What the reader has come to after the bytes, or its first fault. -/
def hear (bs : Bytes) : Except Fault Hearing :=
  bs.foldlM Hearing.step Hearing.start

/-- The events of all of the bytes to the end of the input, or the first fault of the reader. -/
def events (bs : Bytes) : Except Fault (List Event) :=
  hear bs >>= Hearing.finish

theorem hear_concat (bs : Bytes) (b : UInt8) : hear (bs ++ [b]) = hear bs >>= (·.step b) := by
  rw [hear, List.foldlM_append]
  congr 1
  funext h
  exact bind_pure _

namespace Hearing

theorem step_eq_ok {h h' : Hearing} {b : UInt8} : h.step b = .ok h' ↔ ∃ piece events,
    h.cutter.step b = .ok (h'.cutter, piece) ∧
      stepPiece h.reader piece = .ok (h'.reader, events) ∧ h'.events = h.events ++ events := by
  constructor
  · intro heq
    obtain ⟨⟨cutter, piece⟩, hcutter, heq⟩ := bind_eq_ok.mp heq
    obtain ⟨⟨reader, events⟩, hpiece, hdone⟩ := bind_eq_ok.mp heq
    cases hdone
    exact ⟨piece, events, hcutter, hpiece, rfl⟩
  · rintro ⟨piece, events, hcutter, hpiece, hevents⟩
    obtain ⟨cutter, reader, es⟩ := h'
    subst hevents
    exact bind_eq_ok.mpr ⟨_, hcutter, bind_eq_ok.mpr ⟨_, hpiece, rfl⟩⟩

end Hearing

/-- What a piece does to the builder are its events. -/
theorem Reading.stepPiece_eq_ok {reader reader' : Reader} {builder builder' : Builder}
    {piece : Option Piece} :
    Reading.stepPiece reader builder piece = .ok (reader', builder') ↔ ∃ events,
      Hearing.stepPiece reader piece = .ok (reader', events) ∧
        events.foldlM Builder.step builder = .ok builder' := by
  cases piece with
  | none =>
    constructor
    · intro h
      cases h
      exact ⟨[], rfl, rfl⟩
    · rintro ⟨events, hreader, hbuilder⟩
      cases hreader
      cases hbuilder
      rfl
  | some piece =>
    constructor
    · exact stepPiece_some
    · rintro ⟨events, hreader, hbuilder⟩
      exact bind_eq_ok.mpr ⟨_, hreader, bind_eq_ok.mpr ⟨_, hbuilder, rfl⟩⟩

/-- Reading comes as far as hearing does, with what the events build. -/
theorem readsTo_iff {bs : Bytes} {r : Reading} : ReadsTo bs r ↔ ∃ es,
    hear bs = .ok ⟨r.cutter, r.reader, es⟩ ∧
      es.foldlM Builder.step Builder.start = .ok r.builder := by
  induction bs using List.reverseRecOn generalizing r with
  | nil =>
    constructor
    · intro h
      cases h
      exact ⟨[], rfl, rfl⟩
    · rintro ⟨es, hhear, hbuild⟩
      obtain ⟨cutter, reader, builder⟩ := r
      cases hhear
      cases hbuild
      rfl
  | append_singleton bs b ih =>
    rw [hear_concat]
    constructor
    · intro h
      obtain ⟨r₁, hbs, hstep⟩ := h.of_concat
      obtain ⟨es, hhear, hbuild⟩ := ih.mp hbs
      obtain ⟨piece, hcutter, hpiece⟩ := step_eq_ok.mp hstep
      obtain ⟨more, hreader, hmore⟩ := Reading.stepPiece_eq_ok.mp hpiece
      refine ⟨es ++ more, bind_eq_ok.mpr ⟨_, hhear, ?_⟩, ?_⟩
      · exact Hearing.step_eq_ok.mpr ⟨piece, more, hcutter, hreader, rfl⟩
      · rw [List.foldlM_append, hbuild, ok_bind, hmore]
    · rintro ⟨es, hhear, hbuild⟩
      obtain ⟨⟨cutter, reader, before⟩, hbs, hstep⟩ := bind_eq_ok.mp hhear
      obtain ⟨piece, more, hcutter, hreader, rfl⟩ := Hearing.step_eq_ok.mp hstep
      rw [List.foldlM_append] at hbuild
      obtain ⟨builder, hbefore, hmore⟩ := bind_eq_ok.mp hbuild
      have hreads : ReadsTo bs ⟨cutter, reader, builder⟩ := ih.mpr ⟨before, hbs, hbefore⟩
      exact hreads.concat (step_eq_ok.mpr
        ⟨piece, hcutter, Reading.stepPiece_eq_ok.mpr ⟨more, hreader, hmore⟩⟩)

/-- A document is read by hearing all of it and then building. -/
theorem Node.read_eq_ok {bs : Bytes} {root : Node} : Node.read bs = .ok root ↔ ∃ es builder,
    events bs = .ok es ∧ es.foldlM Builder.step Builder.start = .ok builder ∧
      builder.finish = .ok root := by
  constructor
  · intro h
    obtain ⟨r, hr, hfinish⟩ := bind_eq_ok.mp h
    obtain ⟨es, hhear, hbuild⟩ := readsTo_iff.mp hr
    obtain ⟨piece, hlast, hfinish⟩ := bind_eq_ok.mp hfinish
    obtain ⟨⟨reader, builder⟩, hpiece, hroot⟩ := bind_eq_ok.mp hfinish
    obtain ⟨more, hreader, hmore⟩ := Reading.stepPiece_eq_ok.mp hpiece
    refine ⟨es ++ more, builder, bind_eq_ok.mpr ⟨_, hhear, ?_⟩, ?_, hroot⟩
    · exact bind_eq_ok.mpr ⟨piece, hlast, bind_eq_ok.mpr ⟨_, hreader, rfl⟩⟩
    · rw [List.foldlM_append, hbuild, ok_bind, hmore]
  · rintro ⟨es, builder, hevents, hbuild, hroot⟩
    obtain ⟨⟨cutter, reader, before⟩, hhear, hfinish⟩ := bind_eq_ok.mp hevents
    obtain ⟨piece, hlast, hfinish⟩ := bind_eq_ok.mp hfinish
    obtain ⟨⟨reader', more⟩, hreader, hdone⟩ := bind_eq_ok.mp hfinish
    cases hdone
    rw [List.foldlM_append] at hbuild
    obtain ⟨builder₁, hbefore, hmore⟩ := bind_eq_ok.mp hbuild
    have hreads : ReadsTo bs ⟨cutter, reader, builder₁⟩ := readsTo_iff.mpr ⟨before, hhear, hbefore⟩
    have hpiece : Reading.stepPiece reader builder₁ piece = .ok (reader', builder) :=
      Reading.stepPiece_eq_ok.mpr ⟨more, hreader, hmore⟩
    exact bind_eq_ok.mpr ⟨_, hreads, bind_eq_ok.mpr
      ⟨piece, hlast, bind_eq_ok.mpr ⟨_, hpiece, hroot⟩⟩⟩

/-! ## Open elements -/

/-- The name of an element that starts, and what it belongs to. -/
abbrev Opening := Bytes × Resolution

/-- The open elements after an event, the innermost first. None can end if none is open. -/
def Event.nest? (opened : List Opening) : Event → Option (List Opening)
  | .start name space => some ((name, space) :: opened)
  | .stop => opened.tail?
  | .text _ | .literal _ => some opened

/-- The open elements after events, if no event ends one that is not open. -/
def opened? (es : List Event) : Option (List Opening) :=
  es.foldlM Event.nest? []

/-- The name of an open element, and what it belongs to. -/
def OpenElement.opening (e : OpenElement) : Opening :=
  (e.name, e.scope.resolve e.name)

/-- The events of a piece open and close elements as the reader does. -/
theorem Hearing.nest?_stepPiece {reader reader' : Reader} {piece : Option Piece}
    {events : List Event} (h : stepPiece reader piece = .ok (reader', events)) :
    events.foldlM Event.nest? (reader.map OpenElement.opening) =
      some (reader'.map OpenElement.opening) := by
  cases piece with
  | none =>
    cases h
    rfl
  | some piece =>
    have hstep : reader.step piece = .ok (reader', events) := h
    cases piece with
    | text raw | literal raw | skipped =>
      cases hstep
      rfl
    | tag content =>
      rcases Reader.step_tag hstep with ⟨-, rfl, e, rfl⟩ | ⟨-, e, rfl, rfl⟩
      · rfl
      · rfl
    | endTag content =>
      obtain ⟨e, rfl, -, rfl⟩ := Reader.step_endTag hstep
      rfl

/-- The events that the reader has reported leave open what it has open. -/
theorem Hearing.opened?_events {bs : Bytes} {h : Hearing} (hhear : hear bs = .ok h) :
    opened? h.events = some (h.reader.map OpenElement.opening) := by
  induction bs using List.reverseRecOn generalizing h with
  | nil =>
    cases hhear
    rfl
  | append_singleton bs b ih =>
    rw [hear_concat] at hhear
    obtain ⟨h₁, hbs, hstep⟩ := bind_eq_ok.mp hhear
    obtain ⟨piece, more, -, hpiece, hevents⟩ := step_eq_ok.mp hstep
    rw [opened?, hevents, List.foldlM_append, ← opened?, ih hbs]
    exact nest?_stepPiece hpiece

/-! ## The stack of the builder -/

/-- Each frame has the tag of the open element at its place. -/
def Mirrors (opened : List Opening) (stack : List Frame) : Prop :=
  List.Forall₂ (fun x frame => Builder.tagOf x.1 x.2 = .ok frame.tag) opened stack

theorem Builder.tagOf_ne_unopenedEnd {name : Bytes} {space : Resolution} :
    Builder.tagOf name space ≠ .error .unopenedEnd := by
  intro h
  rcases bind_eq_error.mp h with hspace | ⟨s, -, h⟩
  · unfold Builder.spaceOf at hspace
    split at hspace
    · obtain ⟨fault, -, hfault⟩ := mapError_eq_error.mp hspace
      cases hfault
    · cases hspace
    · cases hspace
  · rcases bind_eq_error.mp h with hname | ⟨n, -, hdone⟩
    · unfold Builder.nameOf at hname
      split at hname
      · obtain ⟨fault, -, hfault⟩ := mapError_eq_error.mp hname
        cases hfault
      · cases hname
    · cases hdone

/-- The builder finds an end without a start only where nothing is open. -/
theorem Builder.step_eq_unopenedEnd {builder : Builder} {event : Event}
    (h : builder.step event = .error .unopenedEnd) : event = .stop ∧ builder.stack = [] := by
  unfold Builder.step at h
  split at h
  · split at h
    · cases h
    · rcases bind_eq_error.mp h with htag | ⟨tag, -, hdone⟩
      · exact absurd htag Builder.tagOf_ne_unopenedEnd
      · cases hdone
  · split at h
    · next heq => exact ⟨rfl, heq⟩
    · cases h
    · cases h
  · split at h
    · cases h
    · rcases bind_eq_error.mp h with htext | ⟨content, -, hdone⟩
      · unfold Builder.textOf at htext
        split at htext
        · obtain ⟨fault, -, hfault⟩ := mapError_eq_error.mp htext
          cases hfault
        · cases htext
      · cases hdone
  · split at h
    · cases h
    · rcases bind_eq_error.mp h with hliteral | ⟨content, -, hdone⟩
      · obtain ⟨fault, -, hfault⟩ := mapError_eq_error.mp hliteral
        cases hfault
      · cases hdone

namespace Mirrors

variable {opened opened' : List Opening} {builder builder' : Builder}

/-- Events keep the stack a mirror of the open elements. -/
theorem step (h : Mirrors opened builder.stack) {event : Event}
    (hnest : event.nest? opened = some opened') (hstep : builder.step event = .ok builder') :
    Mirrors opened' builder'.stack := by
  cases event with
  | start name space =>
    cases hnest
    obtain ⟨-, tag, htag, rfl⟩ := Builder.step_start hstep
    exact .cons htag h
  | stop =>
    obtain ⟨frame, outer, hstack, hbuilt⟩ := Builder.step_stop hstep
    rw [hstack] at h
    cases h with
    | cons _ houter =>
      cases hnest
      rcases hbuilt with ⟨rfl, rfl⟩ | ⟨parent, rest, rfl, rfl⟩
      · exact houter
      · -- the element around has one more child
        cases houter with
        | cons hparent hrest => exact .cons hparent hrest
  | text raw | literal raw =>
    cases hnest
    rcases Builder.step_content ⟨raw, by simp⟩ hstep with
      ⟨-, rfl⟩ | ⟨content, frame, rest, -, hstack, rfl⟩
    · exact h
    · rw [hstack] at h
      cases h with
      | cons hframe hrest => exact .cons hframe hrest

/-- Where an element is open one can end. -/
theorem step_ne_unopenedEnd (h : Mirrors opened builder.stack) {event : Event}
    (hnest : event.nest? opened = some opened') :
    builder.step event ≠ .error .unopenedEnd := by
  intro hstep
  obtain ⟨rfl, hstack⟩ := Builder.step_eq_unopenedEnd hstep
  rw [hstack] at h
  cases h
  cases hnest

theorem foldlM {es : List Event} (h : Mirrors opened builder.stack)
    (hnest : es.foldlM Event.nest? opened = some opened')
    (hbuild : es.foldlM Builder.step builder = .ok builder') :
    Mirrors opened' builder'.stack := by
  induction es generalizing opened builder with
  | nil =>
    cases hnest
    cases hbuild
    exact h
  | cons event es ih =>
    obtain ⟨opened₁, hfirst, hrest⟩ := Option.bind_eq_some_iff.mp hnest
    obtain ⟨builder₁, hstep, hbuild⟩ := bind_eq_ok.mp hbuild
    exact ih (h.step hfirst hstep) hrest hbuild

end Mirrors

/-- Events of which none ends an element that is not open start with such events. -/
theorem exists_opened?_of_append {es rest : List Event} {opened : List Opening}
    (h : opened? (es ++ rest) = some opened) :
    ∃ inner, opened? es = some inner ∧ rest.foldlM Event.nest? inner = some opened := by
  rw [opened?, List.foldlM_append] at h
  exact Option.bind_eq_some_iff.mp h

/-- The stack holds the tags of the elements that are open after the events. -/
theorem Builder.mirrors {es : List Event} {opened : List Opening} {builder : Builder}
    (hopened : opened? es = some opened)
    (hbuild : es.foldlM Builder.step Builder.start = .ok builder) :
    Mirrors opened builder.stack :=
  have hstart : Mirrors [] Builder.start.stack := .nil
  hstart.foldlM hopened hbuild

/-- The stacks of the reader and of the builder hold the same elements. -/
theorem ReadsTo.mirrors {bs : Bytes} {r : Reading} (h : ReadsTo bs r) :
    List.Forall₂ (fun e frame => e.tag = .ok frame.tag) r.reader r.builder.stack := by
  obtain ⟨es, hhear, hbuild⟩ := readsTo_iff.mp h
  have hmirrors := Builder.mirrors (Hearing.opened?_events hhear) hbuild
  unfold Mirrors at hmirrors
  rw [List.forall₂_map_left_iff] at hmirrors
  exact hmirrors

/-- Building what the reader reports never meets an end without a start. -/
theorem Builder.foldlM_ne_unopenedEnd {es : List Event} {opened : List Opening}
    (hopened : opened? es = some opened) :
    es.foldlM Builder.step Builder.start ≠ .error .unopenedEnd := by
  intro h
  -- the event that fails comes after events that leave its element open
  obtain ⟨before, event, after, builder, rfl, hbefore, hstep⟩ := foldlM_eq_error h
  obtain ⟨inner, hinner, hrest⟩ := exists_opened?_of_append hopened
  obtain ⟨next, hnest, -⟩ := Option.bind_eq_some_iff.mp hrest
  exact (Builder.mirrors hinner hbefore).step_ne_unopenedEnd hnest hstep

/-! ## Faults -/

theorem Cutter.step_ne_unopenedEnd (c : Cutter) (b : UInt8) :
    c.step b ≠ .error .unopenedEnd := by
  intro h
  cases c
  all_goals
    simp only [Cutter.step] at h
    repeat' split at h
    all_goals cases h

theorem Cutter.finish_ne_unopenedEnd (c : Cutter) : c.finish ≠ .error .unopenedEnd := by
  intro h
  cases c
  all_goals cases h

theorem Reader.step_ne_unopenedEnd (reader : Reader) (piece : Piece) :
    reader.step piece ≠ .error .unopenedEnd := by
  have helement : ∀ content, reader.element content ≠ .error .unopenedEnd := by
    intro content h
    unfold Reader.element at h
    split at h
    · cases h
    · cases h
  intro h
  unfold Reader.step at h
  split at h
  · cases h
  · cases h
  · cases h
  · split at h
    · rcases bind_eq_error.mp h with h | ⟨e, -, hdone⟩
      · exact helement _ h
      · cases hdone
    · rcases bind_eq_error.mp h with h | ⟨e, -, hdone⟩
      · exact helement _ h
      · cases hdone
  · split at h
    · cases h
    · split at h
      · cases h
      · cases h

theorem Builder.finish_ne_unopenedEnd (builder : Builder) :
    builder.finish ≠ .error .unopenedEnd := by
  intro h
  unfold Builder.finish at h
  split at h
  · cases h
  · cases h
  · cases h

/-- Wherever reading has come to, no piece ends an element that is not open. -/
theorem ReadsTo.stepPiece_ne_unopenedEnd {bs : Bytes} {r : Reading} (h : ReadsTo bs r)
    (piece : Option Piece) : Reading.stepPiece r.reader r.builder piece ≠ .error .unopenedEnd := by
  obtain ⟨es, hhear, hbuild⟩ := readsTo_iff.mp h
  intro hfault
  cases piece with
  | none => cases hfault
  | some piece =>
    rcases bind_eq_error.mp hfault with hreader | ⟨⟨reader, more⟩, hreader, hfault⟩
    · exact Reader.step_ne_unopenedEnd _ _ hreader
    · rcases bind_eq_error.mp hfault with hmore | ⟨builder, -, hdone⟩
      · have hopened : opened? (es ++ more) = some (reader.map OpenElement.opening) := by
          rw [opened?, List.foldlM_append, ← opened?, Hearing.opened?_events hhear]
          exact @Hearing.nest?_stepPiece _ _ (some piece) _ hreader
        refine Builder.foldlM_ne_unopenedEnd hopened ?_
        rw [List.foldlM_append, hbuild]
        exact hmore
      · cases hdone

theorem Node.read_ne_unopenedEnd (bs : Bytes) : Node.read bs ≠ .error .unopenedEnd := by
  intro h
  rcases bind_eq_error.mp h with h | ⟨r, hreads, h⟩
  · obtain ⟨before, b, after, r, -, hreads, hstep⟩ := foldlM_eq_error h
    rcases bind_eq_error.mp hstep with hcutter | ⟨⟨cutter, piece⟩, -, hstep⟩
    · exact r.cutter.step_ne_unopenedEnd b hcutter
    · rcases bind_eq_error.mp hstep with hpiece | ⟨s, -, hdone⟩
      · exact ReadsTo.stepPiece_ne_unopenedEnd hreads piece hpiece
      · cases hdone
  · rcases bind_eq_error.mp h with hcutter | ⟨piece, -, h⟩
    · exact r.cutter.finish_ne_unopenedEnd hcutter
    · rcases bind_eq_error.mp h with hpiece | ⟨s, -, hfinish⟩
      · exact ReadsTo.stepPiece_ne_unopenedEnd hreads piece hpiece
      · exact s.2.finish_ne_unopenedEnd hfinish

end DavCourier.Markup
