import DavCourier.Proofs.Markup.Source

/-!
# The pieces of a document

The cutter finds the pieces that a document is written with : `Source.run_bytes` for the content
of an element, which ends where markup opens, and `Document.run_bytes` for the whole. Below, each
part ends where its ending is, since that is not inside it : quoted `>` in tags, dashes in
comments, question marks in instructions, brackets in literal sections.
-/

namespace DavCourier.Markup

namespace Cutter

/-- Two places that read the next byte in the same way. -/
theorem run_congr {c c' : Cutter} {b : UInt8} (h : c.step b = c'.step b) (bs : Bytes) :
    c.run (b :: bs) = c'.run (b :: bs) := by
  rw [run, run, h]

/-! ## Tags -/

/-- Bytes of a tag with no quote open at their end, and no end of a tag outside quotes. -/
def Settles (bs : Bytes) : Prop :=
  ∀ seen, (Cutter.tag none seen).run bs = .ok (.tag none (bs.reverse ++ seen), [])

theorem settles_nil : Settles [] := fun _ => rfl

theorem Settles.append {as bs : Bytes} (ha : Settles as) (hb : Settles bs) :
    Settles (as ++ bs) := by
  intro seen
  rw [run_append (ha seen) (hb _), List.reverse_append, List.append_assoc]
  rfl

theorem Settles.of_quiet {bs : Bytes} (h : IsQuiet bs) : Settles bs := by
  induction bs with
  | nil => exact settles_nil
  | cons b bs ih =>
    intro seen
    obtain ⟨hquote, hend⟩ := quoteAfter_of_quiet (h b List.mem_cons_self)
    refine run_cons.mpr ⟨.tag none (b :: seen), none, [], ?_, ?_, rfl⟩
    · simp [step, stepTag, hquote, hend]
    · rw [ih (fun x hx => h x (List.mem_cons_of_mem _ hx)), List.reverse_cons, List.append_assoc,
        List.singleton_append]

/-- Between quotes only the same quote counts. -/
theorem run_quoted {q : UInt8} {value : Bytes} (h : q ∉ value) (seen : Bytes) :
    (Cutter.tag (some q) seen).run (value ++ [q]) =
      .ok (.tag none (q :: (value.reverse ++ seen)), []) := by
  induction value generalizing seen with
  | nil =>
    refine run_cons.mpr ⟨.tag none (q :: seen), none, [], ?_, rfl, rfl⟩
    simp [step, stepTag, quoteAfter]
  | cons b value ih =>
    simp only [List.mem_cons, not_or] at h
    refine run_cons.mpr ⟨.tag (some q) (b :: seen), none, [], ?_, ?_, rfl⟩
    · simp [step, stepTag, quoteAfter, Ne.symm h.1]
    · rw [List.reverse_cons, List.append_assoc, List.singleton_append]
      exact ih h.2 _

theorem settles_quoted {q : UInt8} {value : Bytes} (hq : q ∈ ([0x22, 0x27] : Bytes))
    (h : q ∉ value) : Settles (q :: (value ++ [q])) := by
  intro seen
  refine run_cons.mpr ⟨.tag (some q) (q :: seen), none, [], ?_, ?_, rfl⟩
  · simp only [List.mem_cons, List.not_mem_nil, or_false] at hq
    rcases hq with rfl | rfl <;> rfl
  · rw [run_quoted h, List.reverse_cons, List.reverse_append, List.reverse_singleton]
    simp

/-- A tag ends at the first `>` outside quotes. -/
theorem run_settled {b : UInt8} {bs : Bytes} (hb : b ∉ ([0x21, 0x2F, 0x3F] : Bytes))
    (h : Settles (b :: bs)) :
    start.run (0x3C :: (b :: bs ++ [0x3E])) = .ok (start, [.tag (b :: bs)]) := by
  simp only [List.mem_cons, List.not_mem_nil, or_false, not_or] at hb
  have hopened : Cutter.opened.step b = (Cutter.tag none []).step b := by
    simp [step, hb]
  have hend : (Cutter.tag none ((b :: bs).reverse ++ [])).run [0x3E] =
      .ok (start, [.tag (b :: bs)]) :=
    run_cons.mpr ⟨start, some (.tag (b :: bs)), [], by simp [step, stepTag], rfl, rfl⟩
  refine run_cons.mpr ⟨.opened, none, _, rfl, ?_, rfl⟩
  rw [List.cons_append, run_congr hopened, ← List.cons_append]
  exact run_append (h []) hend

/-! ## Comments, instructions and literal sections -/

/-- A comment ends at the first two dashes. -/
theorem run_comment {content : Bytes} {dashes : Nat} (hd : dashes ≤ 1)
    (h : ¬ [0x2D, 0x2D] <:+: List.replicate dashes 0x2D ++ content ++ [0x2D]) :
    (Cutter.comment dashes).run (content ++ [0x2D, 0x2D, 0x3E]) = .ok (start, [.skipped]) := by
  induction content generalizing dashes with
  | nil =>
    have hzero : dashes = 0 := by
      by_contra hne
      obtain rfl : dashes = 1 := by omega
      exact h (List.infix_refl _)
    rw [hzero]
    rfl
  | cons b content ih =>
    have hstep : ((dashes == 2) && (b == 0x3E)) = false := by
      have hne : (dashes == 2) = false := beq_eq_false_iff_ne.mpr (by omega)
      rw [hne, Bool.false_and]
    by_cases hb : b = 0x2D
    · have hzero : dashes = 0 := by
        by_contra hne
        obtain rfl : dashes = 1 := by omega
        subst hb
        exact h ⟨[], content ++ [0x2D], rfl⟩
      subst hzero hb
      exact run_cons.mpr ⟨.comment 1, none, _, rfl, ih (Nat.le_refl 1) h, rfl⟩
    · refine run_cons.mpr ⟨.comment 0, none, _, ?_, ih (Nat.zero_le 1) fun hmem => h ?_, rfl⟩
      · simp [step, hstep, hb]
      · refine hmem.trans ⟨List.replicate dashes 0x2D ++ [b], [], ?_⟩
        simp

/-- An instruction ends at the first `>` after a question mark. -/
theorem run_instruction {content : Bytes} {question : Bool}
    (h : ¬ [0x3F, 0x3E] <:+: (if question then [0x3F] else []) ++ content) :
    (Cutter.instruction question).run (content ++ [0x3F, 0x3E]) = .ok (start, [.skipped]) := by
  induction content generalizing question with
  | nil => cases question <;> rfl
  | cons b content ih =>
    have hgoes : ¬ (question && b == 0x3E) = true := by
      intro hends
      simp only [Bool.and_eq_true, beq_iff_eq] at hends
      obtain ⟨rfl, rfl⟩ := hends
      exact h ⟨[], content, rfl⟩
    refine run_cons.mpr ⟨.instruction (b == 0x3F), none, _, ?_, ih fun hmem => h ?_, rfl⟩
    · rw [step, if_neg hgoes]
    · by_cases hb : b = 0x3F
      · subst hb
        exact hmem.trans (List.suffix_append _ _).isInfix
      · rw [if_neg (by simpa using hb), List.nil_append] at hmem
        exact hmem.trans ⟨(if question then [0x3F] else []) ++ [b], [], by simp⟩

/-- A literal section ends at the first ending. -/
theorem run_literal {content seen : Bytes}
    (h : ¬ Source.literalEnding <:+: seen.reverse ++ content) :
    (Cutter.literal seen).run (content ++ Source.literalEnding) =
      .ok (start, [.literal (seen.reverse ++ content)]) := by
  induction content generalizing seen with
  | nil =>
    rw [List.append_nil]
    exact run_cons.mpr ⟨_, none, _, rfl, run_cons.mpr ⟨_, none, _, rfl,
      run_cons.mpr ⟨start, some (.literal seen.reverse), [], rfl, rfl, rfl⟩, rfl⟩, rfl⟩
  | cons b content ih =>
    have hsplit : seen.reverse ++ b :: content = (b :: seen).reverse ++ content := by simp
    refine run_cons.mpr ⟨.literal (b :: seen), none, _, ?_, hsplit ▸ ih (hsplit ▸ h), rfl⟩
    unfold step
    dsimp only
    split
    · next before hb =>
      refine absurd ?_ h
      rw [beq_iff_eq.mp hb]
      exact ⟨before.reverse, content, by simp [Source.literalEnding]⟩
    · rfl

/-- The declaration of a document type ends where all that it opens is closed. -/
theorem run_doctype {content : Bytes} {depth : Nat} {named : Bool}
    (h : Misc.closesAll depth content = true)
    (hnamed : named = true ∨ ¬ IsSpaces content) :
    (Cutter.doctype depth named).run (content ++ [0x3E]) = .ok (start, [.skipped]) := by
  induction content generalizing depth named with
  | nil =>
    have hdepth : depth = 0 := by simpa [Misc.closesAll] using h
    have hname : named = true := hnamed.resolve_right fun hnot => hnot nofun
    subst hdepth hname
    rfl
  | cons b content ih =>
    unfold Misc.closesAll at h
    by_cases hopen : b = 0x3C
    · subst hopen
      rw [if_pos rfl] at h
      exact run_cons.mpr ⟨.doctype (depth + 1) true, none, _, rfl, ih h (Or.inl rfl), rfl⟩
    rw [if_neg hopen] at h
    by_cases hclose : b = 0x3E
    · subst hclose
      rw [if_pos rfl, Bool.and_eq_true, bne_iff_ne] at h
      refine run_cons.mpr ⟨.doctype (depth - 1) true, none, _, ?_, ih h.2 (Or.inl rfl), rfl⟩
      simp [step, h.1]
    rw [if_neg hclose] at h
    refine run_cons.mpr ⟨.doctype depth (named || !isSpace b), none, _, ?_, ih h ?_, rfl⟩
    · simp [step, hopen, hclose]
    · cases hb : isSpace b with
      | false => exact Or.inl (by simp)
      | true =>
        refine hnamed.imp (fun hname => by simp [hname]) fun hnot hspaces => hnot ?_
        exact List.forall_mem_cons.mpr ⟨hb, hspaces⟩

end Cutter

open Cutter

/-! ## Names and tags as they are written -/

theorem isQuiet_append {as bs : Bytes} (ha : IsQuiet as) (hb : IsQuiet bs) :
    IsQuiet (as ++ bs) := fun b h => (List.mem_append.mp h).elim (ha b) (hb b)

theorem IsSpaces.quiet {bs : Bytes} (h : IsSpaces bs) : IsQuiet bs := by
  intro b hb hmem
  have hspace := h b hb
  simp only [List.mem_cons, List.not_mem_nil, or_false] at hmem
  rcases hmem with rfl | rfl | rfl <;> exact absurd hspace (by decide)

/-- A name with its prefix is one name. -/
theorem QName.IsWellFormed.bytes {name : QName} (h : name.IsWellFormed) :
    IsNameBytes name.bytes := by
  obtain ⟨qualifier, localName⟩ := name
  cases qualifier with
  | none => exact h.localName.1
  | some q =>
    have hq := (h.qualifier q rfl).1
    refine ⟨List.append_ne_nil_of_left_ne_nil hq.1 _, fun b hb => ?_⟩
    rcases List.mem_append.mp hb with hb | hb
    · exact hq.2 b hb
    · rcases List.mem_cons.mp hb with rfl | hb
      · decide
      · exact h.localName.1.2 b hb

theorem AttributeKey.IsWellFormed.bytes {key : AttributeKey} (h : key.IsWellFormed) :
    IsNameBytes key.bytes ∧ 0x3D ∉ key.bytes := by
  have hxmlns : IsNamePart Scope.xmlnsName := by decide
  cases key with
  | plain name => exact ⟨h.1, h.2.1⟩
  | declares qualifier =>
    cases qualifier with
    | none => exact ⟨hxmlns.1, hxmlns.2.2⟩
    | some q =>
      have hname : QName.IsWellFormed ⟨some Scope.xmlnsName, q⟩ :=
        ⟨fun x hx => Option.some.inj hx ▸ hxmlns, h⟩
      refine ⟨hname.bytes, fun hmem => ?_⟩
      rcases List.mem_append.mp hmem with hmem | hmem
      · exact hxmlns.2.2 hmem
      · rcases List.mem_cons.mp hmem with heq | hmem
        · cases heq
        · exact h.2.2 hmem

theorem AttributeSource.IsWellFormed.settles {a : AttributeSource} (h : a.IsWellFormed) :
    Settles a.bytes := by
  have hequals : Settles [0x3D] := .of_quiet (by decide)
  have hvalue : Settles (a.quote :: (a.value ++ [a.quote])) := settles_quoted h.quote h.value
  exact (Settles.of_quiet h.spaces.2.quiet).append ((Settles.of_quiet h.key.bytes.1.quiet).append
    ((Settles.of_quiet h.gaps.1.quiet).append (hequals.append
      ((Settles.of_quiet h.gaps.2.quiet).append hvalue))))

namespace TagSource

variable {tag : TagSource}

theorem IsWellFormed.settles (h : tag.IsWellFormed) : Settles tag.bytes := by
  have hattributes : ∀ as : List AttributeSource, (∀ a ∈ as, a.IsWellFormed) →
      Settles (as.flatMap AttributeSource.bytes) := by
    intro as has
    induction as with
    | nil => exact settles_nil
    | cons a as ih =>
      exact (has a List.mem_cons_self).settles.append
        (ih fun x hx => has x (List.mem_cons_of_mem _ hx))
  exact (Settles.of_quiet h.name.bytes.quiet).append
    ((hattributes _ h.attributes).append (.of_quiet h.spaces.quiet))

/-- A tag starts with the first byte of a name. -/
theorem IsWellFormed.exists_cons (h : tag.IsWellFormed) : ∃ b bs,
    tag.bytes = b :: bs ∧ b ∉ ([0x21, 0x2F, 0x3F] : Bytes) := by
  obtain ⟨hne, hbytes⟩ := h.name.bytes
  obtain ⟨b, bs, hname⟩ := List.exists_cons_of_ne_nil hne
  have hb := (hbytes b (hname ▸ List.mem_cons_self)).1
  simp only [List.mem_cons, List.not_mem_nil, or_false, not_or] at hb
  refine ⟨b, bs ++ (tag.attributes.flatMap AttributeSource.bytes ++ tag.spaces), ?_, by simp [hb]⟩
  rw [bytes, hname, List.cons_append]

theorem run_bytes (h : tag.IsWellFormed) :
    start.run (0x3C :: (tag.bytes ++ [0x3E])) = .ok (start, [.tag tag.bytes]) := by
  obtain ⟨b, bs, heq, hb⟩ := h.exists_cons
  have hsettles := h.settles
  rw [heq] at hsettles ⊢
  exact run_settled hb hsettles

theorem run_bytes_closed (h : tag.IsWellFormed) :
    start.run (0x3C :: (tag.bytes ++ [0x2F] ++ [0x3E])) =
      .ok (start, [.tag (tag.bytes ++ [0x2F])]) := by
  obtain ⟨b, bs, heq, hb⟩ := h.exists_cons
  have hsettles := h.settles.append (.of_quiet (show IsQuiet [0x2F] by decide))
  rw [heq] at hsettles ⊢
  exact run_settled hb hsettles

theorem run_endTag (h : tag.IsWellFormed) {spaces : Bytes} (hspaces : IsSpaces spaces) :
    start.run (0x3C :: 0x2F :: (tag.name.bytes ++ spaces ++ [0x3E])) =
      .ok (start, [.endTag (tag.name.bytes ++ spaces)]) :=
  Cutter.run_endTag (isQuiet_append h.name.bytes.quiet hspaces.quiet)

end TagSource

/-! ## Documents -/

theorem Aside.run_bytes {a : Aside} (h : a.IsWellFormed) :
    start.run a.bytes = .ok (start, [.skipped]) := by
  cases a with
  | comment content =>
    have hopen : start.run [0x3C, 0x21, 0x2D, 0x2D] = .ok (.comment 0, []) := rfl
    exact run_append hopen (run_comment (Nat.zero_le 1) h)
  | instruction content =>
    have hopen : start.run [0x3C, 0x3F] = .ok (.instructionOpened, []) := rfl
    refine run_append hopen ?_
    -- the first byte of an instruction does not end it
    obtain ⟨b, bs, heq⟩ := List.exists_cons_of_ne_nil
      (List.append_ne_nil_of_right_ne_nil content (List.cons_ne_nil (0x3F : UInt8) [0x3E]))
    have hb : b ≠ 0x3E := by
      rintro rfl
      cases content with
      | nil => cases heq
      | cons c content => exact h.1 (congrArg some (List.cons.inj heq).1)
    have hrest : (Cutter.instruction false).run (content ++ [0x3F, 0x3E]) =
        .ok (start, [.skipped]) := run_instruction h.2
    have hsame : Cutter.instructionOpened.step b = (Cutter.instruction false).step b := by
      simp [step, hb]
    rw [heq] at hrest ⊢
    rw [run_congr hsame, hrest]

namespace Source

theorem run_literalSection {raw : Bytes} (h : ¬ literalEnding <:+: raw) :
    start.run (literalOpening ++ (raw ++ literalEnding)) = .ok (start, [.literal raw]) := by
  have hopen : start.run literalOpening = .ok (.literal [], []) := rfl
  exact run_append hopen (run_literal h)

/-- What is not a text starts where markup opens. -/
theorem exists_bytes_eq {s : Source} (h : s.startsWithText = false) (rest : Bytes) :
    ∃ bs, s.bytes ++ 0x3C :: rest = 0x3C :: bs := by
  cases s with
  | nil => exact ⟨rest, rfl⟩
  | text raw s => cases h
  | literal raw s => exact ⟨_, rfl⟩
  | aside a s => cases a <;> exact ⟨_, rfl⟩
  | closed tag s => exact ⟨_, rfl⟩
  | element tag inner spaces s => exact ⟨_, rfl⟩

/-- The pieces of a content come before those that follow it. -/
theorem run_bytes {s : Source} (h : s.IsWellFormed) {rest : Bytes} {c : Cutter}
    {ps : List Piece} (hrest : start.run (0x3C :: rest) = .ok (c, ps)) :
    start.run (s.bytes ++ 0x3C :: rest) = .ok (c, s.pieces ++ ps) := by
  induction s generalizing rest c ps with
  | nil => exact hrest
  | text raw s ih =>
    obtain ⟨⟨hne, hlt⟩, hstart, hs⟩ := h
    have hafter := ih hs hrest
    obtain ⟨bs, hbs⟩ := exists_bytes_eq hstart rest
    have htext := run_text hlt []
    rw [List.append_nil] at htext
    rw [hbs] at hafter
    have hpiece : textPiece raw.reverse = some (.text raw) := by
      simp [textPiece, hne]
    rw [bytes, List.append_assoc, hbs]
    have hwhole := run_append htext (run_text_lt hafter raw.reverse)
    rw [hpiece] at hwhole
    exact hwhole
  | literal raw s ih =>
    have hwhole := run_append (run_literalSection h.1) (ih h.2 hrest)
    rw [bytes, List.append_assoc]
    exact hwhole
  | aside a s ih =>
    have hwhole := run_append (Aside.run_bytes h.1) (ih h.2 hrest)
    rw [bytes, List.append_assoc]
    exact hwhole
  | closed tag s ih =>
    have hwhole := run_append (TagSource.run_bytes_closed h.1) (ih h.2 hrest)
    rw [bytes, List.append_assoc]
    exact hwhole
  | element tag inner spaces s ihinner ih =>
    obtain ⟨⟨htag, hspaces⟩, hinner, hs⟩ := h
    have hend := run_append (TagSource.run_endTag htag hspaces) (ih hs hrest)
    have hbody := run_append (TagSource.run_bytes htag) (ihinner hinner hend)
    rw [bytes, pieces]
    simpa using hbody

end Source

theorem Root.run_bytes {root : Root} (h : root.source.IsWellFormed) :
    start.run root.source.bytes = .ok (start, root.source.pieces) := by
  cases root with
  | closed tag =>
    have hwhole := TagSource.run_bytes_closed h.1
    rw [Root.source, Source.bytes, Source.bytes, List.append_nil]
    exact hwhole
  | element tag inner spaces =>
    obtain ⟨⟨htag, hspaces⟩, hinner, -⟩ := h
    have hbody := run_append (TagSource.run_bytes htag)
      (Source.run_bytes hinner (TagSource.run_endTag htag hspaces))
    rw [Root.source, Source.bytes, Source.bytes, List.append_nil]
    exact hbody

/-- A piece that says nothing outside the root. -/
def Piece.IsIdle : Piece → Prop
  | text _ | skipped => True
  | _ => False

theorem isIdle_textPiece {seen : Bytes} {p : Piece} (h : p ∈ (textPiece seen).toList) :
    p.IsIdle := by
  unfold textPiece at h
  split at h
  · cases h
  · cases List.mem_singleton.mp h
    trivial

namespace Misc

theorem run_doctype {content : Bytes} (h : (doctype content).IsWellFormed) :
    start.run (doctype content).bytes = .ok (start, [.skipped]) := by
  have hopen : start.run doctypeOpening = .ok (.doctype 0 false, []) := rfl
  exact run_append hopen (Cutter.run_doctype h.1 (Or.inr h.2))

/-- What is no text makes one piece, after that of the text before it. -/
theorem run_bytes_append {m : Misc} (h : m.IsWellFormed) (hm : ∀ raw, m ≠ text raw)
    {bs : Bytes} {c : Cutter} {ps : List Piece} (hrest : start.run bs = .ok (c, ps))
    (seen : Bytes) :
    (Cutter.text seen).run (m.bytes ++ bs) =
      .ok (c, (textPiece seen).toList ++ [.skipped] ++ ps) := by
  have hrun : start.run m.bytes = .ok (start, [.skipped]) := by
    cases m with
    | text raw => exact absurd rfl (hm raw)
    | aside a => exact Aside.run_bytes h
    | doctype content => exact run_doctype h
  obtain ⟨tail, htail⟩ : ∃ tail, m.bytes = 0x3C :: tail := by
    cases m with
    | text raw => exact absurd rfl (hm raw)
    | aside a => cases a <;> exact ⟨_, rfl⟩
    | doctype content => exact ⟨_, rfl⟩
  rw [htail] at hrun ⊢
  exact run_append (run_text_lt hrun seen) hrest

/-- What is written outside the root says nothing. -/
theorem run_bytes {ms : List Misc} (h : ∀ m ∈ ms, m.IsWellFormed) (seen : Bytes) :
    ∃ seen' ps, (∀ p ∈ ps, p.IsIdle) ∧
      (Cutter.text seen).run (ms.flatMap bytes) = .ok (.text seen', ps) := by
  induction ms generalizing seen with
  | nil => exact ⟨seen, [], nofun, rfl⟩
  | cons m ms ih =>
    have hms := fun n hn => h n (List.mem_cons_of_mem _ hn)
    by_cases htext : ∃ raw, m = text raw
    · obtain ⟨raw, rfl⟩ := htext
      obtain ⟨seen', ps, hps, hrest⟩ := ih hms (raw.reverse ++ seen)
      exact ⟨seen', ps, hps, run_append (run_text (h _ List.mem_cons_self) seen) hrest⟩
    · obtain ⟨seen', ps, hps, hrest⟩ := ih hms []
      refine ⟨seen', _, fun p hp => ?_, run_bytes_append (h m List.mem_cons_self)
        (fun raw heq => htext ⟨raw, heq⟩) hrest seen⟩
      rcases List.mem_append.mp hp with hp | hp
      · rcases List.mem_append.mp hp with hp | hp
        · exact isIdle_textPiece hp
        · rw [List.mem_singleton.mp hp]
          trivial
      · exact hps p hp

end Misc

/-- A document makes the pieces of its root, and others that say nothing. -/
theorem Document.run_bytes {d : Document} (h : d.IsWellFormed) : ∃ front back seen,
    (∀ p ∈ front, p.IsIdle) ∧ (∀ p ∈ back, p.IsIdle) ∧
      start.run d.bytes = .ok (.text seen, front ++ d.root.source.pieces ++ back) := by
  obtain ⟨seen, front, hfront, hbefore⟩ := Misc.run_bytes h.before []
  obtain ⟨seen', back, hback, hafter⟩ := Misc.run_bytes h.after []
  obtain ⟨tail, htail⟩ : ∃ tail, d.root.source.bytes = 0x3C :: tail := by
    cases d.root <;> exact ⟨_, rfl⟩
  have hroot := Root.run_bytes h.root
  rw [htail] at hroot
  have hwhole := run_append (run_append hbefore (run_text_lt hroot seen)) hafter
  rw [← htail, ← List.append_assoc] at hwhole
  refine ⟨front ++ (textPiece seen).toList, back, seen', fun p hp => ?_, hback, hwhole⟩
  exact (List.mem_append.mp hp).elim (hfront p) isIdle_textPiece

end DavCourier.Markup
