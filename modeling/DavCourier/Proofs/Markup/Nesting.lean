import DavCourier.Proofs.Markup.Cutting

/-!
# The nesting of a document

`nesting` counts the elements that pieces leave open, and `ClosesRoot` tells the piece that ends
an element outside all others. The stacks of the reader and of the builder have the height of the
nesting (`Levels`), and the builder has a root from the piece on that closes it. A document has
one such piece : after it no element starts (`Levels.stepPiece`).

What one event does to the builder is said once, for a start (`Builder.step_start`), an end
(`Builder.step_stop`) and a text (`Builder.step_content`); the heights of the stack follow.
-/

namespace DavCourier.Markup

open Fallible

/-! ## Pieces that open and close elements -/

/-- The number of open elements after a piece, by the number before it. -/
def Piece.nest (depth : Nat) : Piece → Nat
  | .tag content => if (selfClosed? content).isSome then depth else depth + 1
  | .endTag _ => depth - 1
  | _ => depth

/-- The number of elements that pieces leave open. -/
def nesting (pieces : List Piece) : Nat :=
  pieces.foldl Piece.nest 0

/-- The piece ends an element outside all others, among so many open elements. -/
def ClosesRoot (depth : Nat) : Piece → Prop
  | .tag content => (selfClosed? content).isSome = true ∧ depth = 0
  | .endTag _ => depth = 1
  | _ => False

theorem nesting_concat (pieces : List Piece) (piece : Piece) :
    nesting (pieces ++ [piece]) = piece.nest (nesting pieces) := by
  rw [nesting, List.foldl_append]
  rfl

/-! ## The stacks -/

/-- The reader and the builder have as many open elements, and none once there is a root. -/
structure Levels (depth : Nat) (reader : Reader) (builder : Builder) : Prop where
  opened : reader.length = depth
  stacked : builder.stack.length = depth
  rooted : builder.root.isSome = true → depth = 0

theorem levels_start : Levels 0 [] Builder.start :=
  ⟨rfl, rfl, nofun⟩

/-! ## One event -/

/-- What a text or a literal section says. -/
inductive Event.Says : Event → String → Prop
  | text {raw : Bytes} {content : String} (h : Builder.textOf raw = .ok content) :
    Says (.text raw) content
  | literal {raw : Bytes} {content : String} (h : Builder.literalOf raw = .ok content) :
    Says (.literal raw) content

/-- The event is a text or a literal section. -/
def Event.IsContent (event : Event) : Prop :=
  ∃ raw, event = .text raw ∨ event = .literal raw

namespace Builder

variable {builder builder' : Builder}

/-- An element starts only without a root, and is one more open element. -/
theorem step_start {name : Bytes} {space : Resolution}
    (h : builder.step (.start name space) = .ok builder') :
    builder.root = none ∧ ∃ tag, tagOf name space = .ok tag ∧
      builder' = ⟨⟨tag, []⟩ :: builder.stack, none⟩ := by
  unfold step at h
  dsimp only at h
  split at h
  · cases h
  · next hroot =>
    obtain ⟨tag, htag, hdone⟩ := bind_eq_ok.mp h
    cases hdone
    have hnone : builder.root = none := Option.not_isSome_iff_eq_none.mp hroot
    exact ⟨hnone, tag, htag, by rw [hnone]⟩

/-- Without a root an element starts if it has a tag. -/
theorem step_start_eq {name : Bytes} {space : Resolution} {tag : Tag}
    (htag : tagOf name space = .ok tag) (stack : List Frame) :
    step ⟨stack, none⟩ (.start name space) = .ok ⟨⟨tag, []⟩ :: stack, none⟩ := by
  simp [step, htag]

/-- An element ends. It is the root if no other is open, and else a child of the one around it. -/
theorem step_stop (h : builder.step .stop = .ok builder') :
    ∃ frame outer, builder.stack = frame :: outer ∧
      (outer = [] ∧ builder' = ⟨[], some (close frame)⟩ ∨ ∃ parent rest, outer = parent :: rest ∧
        builder' = ⟨addChild parent (close frame) :: rest, builder.root⟩) := by
  unfold step at h
  dsimp only at h
  split at h
  · cases h
  · next frame heq =>
    cases h
    exact ⟨frame, [], heq, Or.inl ⟨rfl, rfl⟩⟩
  · next frame parent rest heq =>
    cases h
    exact ⟨frame, parent :: rest, heq, Or.inr ⟨parent, rest, rfl, rfl⟩⟩

/-- A text or a literal section is a child of the innermost element, and nothing outside all. -/
theorem step_content {event : Event} (hevent : event.IsContent)
    (h : builder.step event = .ok builder') :
    (builder.stack = [] ∧ builder' = builder) ∨
      ∃ content frame rest, event.Says content ∧ builder.stack = frame :: rest ∧
        builder' = ⟨addChild frame (.text content) :: rest, builder.root⟩ := by
  obtain ⟨raw, rfl | rfl⟩ := hevent
  all_goals
    unfold step at h
    dsimp only at h
    split at h
    · next heq =>
      cases h
      exact Or.inl ⟨heq, rfl⟩
    · next frame rest heq =>
      obtain ⟨content, hcontent, hdone⟩ := bind_eq_ok.mp h
      cases hdone
      refine Or.inr ⟨content, frame, rest, ?_, heq, rfl⟩
      constructor
      exact hcontent

/-- How many elements are open after an end, and when there is a root. -/
theorem levels_step_stop {depth : Nat} (hdepth : builder.stack.length = depth)
    (h : builder.step .stop = .ok builder') :
    1 ≤ depth ∧ builder'.stack.length = depth - 1 ∧
      (depth = 1 → builder'.root.isSome = true) ∧ (depth ≠ 1 → builder'.root = builder.root) := by
  obtain ⟨frame, outer, hstack, ⟨rfl, rfl⟩ | ⟨parent, rest, rfl, rfl⟩⟩ := step_stop h
  · rw [hstack, List.length_singleton] at hdepth
    subst hdepth
    exact ⟨Nat.le_refl 1, rfl, fun _ => rfl, fun hne => absurd rfl hne⟩
  · rw [hstack, List.length_cons, List.length_cons] at hdepth
    subst hdepth
    refine ⟨by omega, by simp, fun hone => ?_, fun _ => rfl⟩
    omega

/-- A text or a literal section opens and ends nothing. -/
theorem levels_step_content {event : Event} (hevent : event.IsContent)
    (h : builder.step event = .ok builder') :
    builder'.stack.length = builder.stack.length ∧ builder'.root = builder.root := by
  rcases step_content hevent h with ⟨-, rfl⟩ | ⟨content, frame, rest, -, hstack, rfl⟩
  · exact ⟨rfl, rfl⟩
  · rw [hstack]
    exact ⟨rfl, rfl⟩

end Builder

/-- What a piece does to the reader and the builder. -/
theorem stepPiece_some {reader reader' : Reader} {builder builder' : Builder} {piece : Piece}
    (h : Reading.stepPiece reader builder (some piece) = .ok (reader', builder')) :
    ∃ events, reader.step piece = .ok (reader', events) ∧
      events.foldlM Builder.step builder = .ok builder' := by
  obtain ⟨⟨reader₁, events⟩, hreader, h⟩ := bind_eq_ok.mp h
  obtain ⟨builder₁, hbuilder, hdone⟩ := bind_eq_ok.mp h
  cases hdone
  exact ⟨events, hreader, hbuilder⟩

theorem foldlM_step_singleton {builder builder' : Builder} {event : Event}
    (h : [event].foldlM Builder.step builder = .ok builder') :
    builder.step event = .ok builder' := by
  obtain ⟨builder₁, hstep, hdone⟩ := bind_eq_ok.mp h
  cases hdone
  exact hstep

/-- What a tag does to the reader : it is one event more, or two if it closes itself. -/
theorem Reader.step_tag {reader reader' : Reader} {content : Bytes} {events : List Event}
    (h : reader.step (.tag content) = .ok (reader', events)) :
    ((selfClosed? content).isSome = true ∧ reader' = reader ∧
        ∃ e, events = [startOf e, .stop]) ∨
      ((selfClosed? content).isSome = false ∧ ∃ e, reader' = e :: reader ∧
        events = [startOf e]) := by
  unfold Reader.step at h
  dsimp only at h
  split at h
  · next inner hclosed =>
    obtain ⟨e, -, hdone⟩ := bind_eq_ok.mp h
    cases hdone
    exact Or.inl ⟨by rw [hclosed]; rfl, rfl, e, rfl⟩
  · next hopen =>
    obtain ⟨e, -, hdone⟩ := bind_eq_ok.mp h
    cases hdone
    exact Or.inr ⟨by rw [hopen]; rfl, e, rfl, rfl⟩

theorem Reader.step_endTag {reader reader' : Reader} {content : Bytes} {events : List Event}
    (h : reader.step (.endTag content) = .ok (reader', events)) :
    ∃ e, reader = e :: reader' ∧ endName content = e.name ∧ events = [.stop] := by
  unfold Reader.step at h
  dsimp only at h
  split at h
  · cases h
  · next e outer =>
    split at h
    · next hname =>
      cases h
      exact ⟨e, rfl, hname, rfl⟩
    · cases h

namespace Levels

variable {depth : Nat} {reader reader' : Reader} {builder builder' : Builder}

/-- A content opens and ends nothing. -/
theorem of_content (hl : Levels depth reader builder)
    (hstack : builder'.stack.length = builder.stack.length) (hroot : builder'.root = builder.root) :
    Levels depth reader builder' :=
  ⟨hl.opened, hstack.trans hl.stacked, by rw [hroot]; exact hl.rooted⟩

/-- A piece keeps the stacks at the height of the nesting. It makes a root if and only if it
closes one, which only a builder without a root lets it do. -/
theorem stepPiece (hl : Levels depth reader builder) {piece : Piece}
    (h : Reading.stepPiece reader builder (some piece) = .ok (reader', builder')) :
    Levels (piece.nest depth) reader' builder' ∧
      (builder'.root.isSome = true ↔ builder.root.isSome = true ∨ ClosesRoot depth piece) ∧
      (ClosesRoot depth piece → builder.root = none) := by
  obtain ⟨events, hreader, hbuilder⟩ := stepPiece_some h
  cases piece with
  | text raw =>
    cases hreader
    obtain ⟨hstack, hroot⟩ :=
      Builder.levels_step_content ⟨raw, Or.inl rfl⟩ (foldlM_step_singleton hbuilder)
    exact ⟨hl.of_content hstack hroot, hroot ▸ (or_iff_left nofun).symm, nofun⟩
  | literal raw =>
    cases hreader
    obtain ⟨hstack, hroot⟩ :=
      Builder.levels_step_content ⟨raw, Or.inr rfl⟩ (foldlM_step_singleton hbuilder)
    exact ⟨hl.of_content hstack hroot, hroot ▸ (or_iff_left nofun).symm, nofun⟩
  | skipped =>
    cases hreader
    cases hbuilder
    exact ⟨hl, (or_iff_left nofun).symm, nofun⟩
  | tag content =>
    rcases Reader.step_tag hreader with ⟨hclosed, rfl, e, rfl⟩ | ⟨hopen, e, rfl, rfl⟩
    · -- a tag that closes itself is a start and an end
      obtain ⟨builder₁, hstart, hstop⟩ := bind_eq_ok.mp hbuilder
      obtain ⟨hnone, tag, -, rfl⟩ := Builder.step_start hstart
      have hdepth : (⟨tag, []⟩ :: builder.stack).length = depth + 1 := by
        rw [List.length_cons, hl.stacked]
      obtain ⟨-, hlen, hone, hmore⟩ :=
        Builder.levels_step_stop hdepth (foldlM_step_singleton hstop)
      have hnest : (Piece.tag content).nest depth = depth := if_pos hclosed
      rw [hnest]
      by_cases hzero : depth = 0
      · refine ⟨⟨hl.opened, hlen, fun _ => hzero⟩, ?_, fun _ => hnone⟩
        exact iff_of_true (hone (by omega)) (Or.inr ⟨hclosed, hzero⟩)
      · have hroot : builder'.root = none := hmore (by omega)
        refine ⟨⟨hl.opened, hlen, by rw [hroot]; exact nofun⟩, ?_, fun _ => hnone⟩
        rw [hroot, hnone]
        exact (or_iff_left fun h => hzero h.2).symm
    · obtain ⟨hnone, tag, -, rfl⟩ := Builder.step_start (foldlM_step_singleton hbuilder)
      have hnest : (Piece.tag content).nest depth = depth + 1 :=
        if_neg (by rw [hopen]; exact Bool.false_ne_true)
      have hnot : ¬ ClosesRoot depth (.tag content) := by
        rintro ⟨hclosed, -⟩
        rw [hopen] at hclosed
        cases hclosed
      rw [hnest]
      refine ⟨⟨?_, ?_, nofun⟩, ?_, fun hcloses => absurd hcloses hnot⟩
      · rw [List.length_cons, hl.opened]
      · rw [List.length_cons, hl.stacked]
      · rw [hnone]
        exact (or_iff_left hnot).symm
  | endTag content =>
    obtain ⟨e, rfl, -, rfl⟩ := Reader.step_endTag hreader
    obtain ⟨hle, hlen, hone, hmore⟩ :=
      Builder.levels_step_stop hl.stacked (foldlM_step_singleton hbuilder)
    have hnone : builder.root = none := by
      rw [← Option.not_isSome_iff_eq_none]
      intro hroot
      have := hl.rooted hroot
      omega
    refine ⟨⟨?_, hlen, fun hroot => ?_⟩, ?_, fun _ => hnone⟩
    · have := hl.opened
      rw [List.length_cons] at this
      show reader'.length = depth - 1
      omega
    · by_cases heq : depth = 1
      · show depth - 1 = 0
        omega
      · rw [hmore heq, hnone] at hroot
        cases hroot
    · by_cases heq : depth = 1
      · exact iff_of_true (hone heq) (Or.inr heq)
      · rw [hmore heq]
        exact (or_iff_left heq).symm

end Levels

end DavCourier.Markup
