import DavCourier.Dav.MultiStatus.Reader
import DavCourier.Proofs.Markup.Nesting
import Mathlib.Data.List.Induction

/-!
# Truncated reports

A document that is cut off before the end of its root is no document. `EndsRoot` says that the
last byte of a text ends the tag that closes its root; that is the end of `</…>` or of `<…/>`
(`EndsRoot.exists_tag`). From this byte on, and not before it, there is a root
(`ReadsTo.root_iff`). So the bytes of a document start in exactly one way with a text that ends
the root, and no shorter start is read : `parse_truncated`.
-/

namespace DavCourier.Markup

open Fallible

/-! ## The bytes of a tag -/

namespace Cutter

variable {c c' : Cutter} {b : UInt8} {content : Bytes}

theorem step_eq_endTag (h : c.step b = .ok (c', some (.endTag content))) :
    c = .endTag none content.reverse ∧ b = 0x3E := by
  cases c
  case endTag quote seen =>
    simp only [step] at h
    split at h
    · next hend =>
      rw [Bool.and_eq_true, Option.isNone_iff_eq_none, beq_iff_eq] at hend
      cases h
      rw [hend.1, List.reverse_reverse]
      exact ⟨rfl, hend.2⟩
    · cases h
  all_goals
    simp only [step, stepTag, textPiece] at h
    repeat' split at h
    all_goals cases h

theorem step_eq_tag (h : c.step b = .ok (c', some (.tag content))) :
    (c = .tag none content.reverse ∨ c = .opened ∧ content = []) ∧ b = 0x3E := by
  cases c
  case opened =>
    simp only [step, stepTag] at h
    repeat' split at h
    all_goals cases h
    next hend =>
      rw [Bool.and_eq_true, beq_iff_eq] at hend
      exact ⟨Or.inr ⟨rfl, rfl⟩, hend.2⟩
  case tag quote seen =>
    simp only [step, stepTag] at h
    split at h
    · next hend =>
      rw [Bool.and_eq_true, Option.isNone_iff_eq_none, beq_iff_eq] at hend
      cases h
      rw [hend.1, List.reverse_reverse]
      exact ⟨Or.inl rfl, hend.2⟩
    · cases h
  all_goals
    simp only [step, textPiece] at h
    repeat' split at h
    all_goals cases h

/-- What was read of a tag. -/
def written : Cutter → Bytes
  | .opened => [0x3C]
  | .tag _ seen => 0x3C :: seen.reverse
  | .endTag _ seen => 0x3C :: 0x2F :: seen.reverse
  | _ => []

theorem written_step {piece : Option Piece} (h : c.step b = .ok (c', piece)) :
    c'.written <:+ c.written ++ [b] := by
  cases c
  all_goals
    simp only [step, stepTag, textPiece] at h
    repeat' split at h
    all_goals cases h
    all_goals simp_all [written, start]

theorem run_concat {bs : Bytes} {pieces : List Piece} :
    c.run (bs ++ [b]) = .ok (c', pieces) ↔ ∃ next before piece,
      c.run bs = .ok (next, before) ∧ next.step b = .ok (c', piece) ∧
        pieces = before ++ piece.toList := by
  induction bs generalizing c pieces with
  | nil =>
    rw [List.nil_append, run_cons]
    constructor
    · rintro ⟨next, piece, rest, hstep, hrun, rfl⟩
      cases hrun
      exact ⟨c, [], piece, rfl, hstep, List.append_nil _⟩
    · rintro ⟨next, before, piece, hrun, hstep, rfl⟩
      cases hrun
      exact ⟨c', piece, [], hstep, rfl, (List.append_nil _).symm⟩
  | cons a bs ih =>
    rw [List.cons_append, run_cons]
    constructor
    · rintro ⟨next, piece, rest, hstep, hrun, rfl⟩
      obtain ⟨next', before, piece', hrun', hstep', rfl⟩ := ih.mp hrun
      exact ⟨next', _, piece', run_cons.mpr ⟨next, piece, before, hstep, hrun', rfl⟩, hstep',
        (List.append_assoc _ _ _).symm⟩
    · rintro ⟨next', before, piece', hrun, hstep', rfl⟩
      obtain ⟨next, piece, rest, hstep, hrun', rfl⟩ := run_cons.mp hrun
      exact ⟨next, piece, _, hstep, ih.mpr ⟨next', rest, piece', hrun', hstep', rfl⟩,
        List.append_assoc _ _ _⟩

/-- What was read of a tag is at the end of the bytes. -/
theorem written_run {bs : Bytes} {pieces : List Piece} (h : start.run bs = .ok (c, pieces)) :
    c.written <:+ bs := by
  induction bs using List.reverseRecOn generalizing c pieces with
  | nil =>
    cases h
    exact List.nil_suffix
  | append_singleton bs b ih =>
    obtain ⟨next, before, piece, hrun, hstep, -⟩ := run_concat.mp h
    obtain ⟨front, hfront⟩ := ih hrun
    refine (written_step hstep).trans ⟨front, ?_⟩
    rw [← List.append_assoc, hfront]

end Cutter

/-! ## The end of the root -/

/-- The last byte ends the tag that closes the root. -/
def EndsRoot (bs : Bytes) : Prop :=
  ∃ before b cutter next pieces last, bs = before ++ [b] ∧
    Cutter.start.run before = .ok (cutter, pieces) ∧
    cutter.step b = .ok (next, some last) ∧ ClosesRoot (nesting pieces) last

/-- The bytes end with an end tag or with a tag that closes itself. -/
theorem EndsRoot.exists_tag {bs : Bytes} (h : EndsRoot bs) : ∃ front content,
    bs = front ++ [0x3C, 0x2F] ++ content ++ [0x3E] ∨
      bs = front ++ [0x3C] ++ content ++ [0x2F, 0x3E] := by
  obtain ⟨before, b, cutter, next, pieces, last, rfl, hrun, hstep, hcloses⟩ := h
  obtain ⟨front, hfront⟩ := Cutter.written_run hrun
  cases last with
  | endTag content =>
    obtain ⟨rfl, rfl⟩ := Cutter.step_eq_endTag hstep
    refine ⟨front, content, Or.inl ?_⟩
    rw [← hfront, Cutter.written, List.reverse_reverse]
    simp
  | tag content =>
    obtain ⟨hcutter, rfl⟩ := Cutter.step_eq_tag hstep
    have hlast : ∃ inner, content = inner ++ [0x2F] := by
      have hclosed := hcloses.1
      unfold selfClosed? at hclosed
      split at hclosed
      · next rest heq =>
        refine ⟨rest.reverse, ?_⟩
        rw [← List.reverse_cons, ← heq, List.reverse_reverse]
      · cases hclosed
    obtain ⟨inner, rfl⟩ := hlast
    rcases hcutter with rfl | ⟨-, hnil⟩
    · refine ⟨front, inner, Or.inr ?_⟩
      rw [← hfront, Cutter.written, List.reverse_reverse]
      simp
    · exact absurd hnil (List.append_ne_nil_of_right_ne_nil _ (List.cons_ne_nil _ _))
  | text _ | literal _ | skipped => exact hcloses.elim

/-! ## Where there is a root -/

/-- The stacks have the height of the nesting. -/
theorem ReadsTo.levels {bs : Bytes} {r : Reading} (h : ReadsTo bs r) : ∃ pieces,
    Cutter.start.run bs = .ok (r.cutter, pieces) ∧
      Levels (nesting pieces) r.reader r.builder := by
  induction bs using List.reverseRecOn generalizing r with
  | nil =>
    cases h
    exact ⟨[], rfl, levels_start⟩
  | append_singleton bs b ih =>
    obtain ⟨r₁, hbs, hstep⟩ := h.of_concat
    obtain ⟨pieces, hrun, hl⟩ := ih hbs
    obtain ⟨piece, hcutter, hpiece⟩ := step_eq_ok.mp hstep
    refine ⟨pieces ++ piece.toList, Cutter.run_concat.mpr ⟨_, _, _, hrun, hcutter, rfl⟩, ?_⟩
    cases piece with
    | none =>
      obtain ⟨hreader, hbuilder⟩ := Prod.mk.inj (Except.ok.inj hpiece)
      rw [Option.toList_none, List.append_nil, ← hreader, ← hbuilder]
      exact hl
    | some piece =>
      rw [Option.toList_some, nesting_concat]
      exact (hl.stepPiece hpiece).1

/-- The byte that ends the root makes it, and there is none before. -/
theorem ReadsTo.root_iff {bs : Bytes} {b : UInt8} {r r' : Reading} (h : ReadsTo bs r)
    (hstep : r.step b = .ok r') :
    (r'.builder.root.isSome = true ↔ r.builder.root.isSome = true ∨ EndsRoot (bs ++ [b])) ∧
      (EndsRoot (bs ++ [b]) → r.builder.root = none) := by
  obtain ⟨pieces, hrun, hl⟩ := h.levels
  obtain ⟨piece, hcutter, hpiece⟩ := step_eq_ok.mp hstep
  have hends : EndsRoot (bs ++ [b]) ↔
      ∃ last, piece = some last ∧ ClosesRoot (nesting pieces) last := by
    constructor
    · rintro ⟨before, b', cutter, next, pieces', last, heq, hrun', hstep', hcloses⟩
      obtain ⟨rfl, hb⟩ := List.append_inj' heq rfl
      cases hb
      rw [hrun] at hrun'
      cases hrun'
      rw [hcutter] at hstep'
      exact ⟨last, (Prod.mk.inj (Except.ok.inj hstep')).2, hcloses⟩
    · rintro ⟨last, rfl, hcloses⟩
      exact ⟨bs, b, _, _, pieces, last, rfl, hrun, hcutter, hcloses⟩
  rw [hends]
  cases piece with
  | none =>
    rw [← (Prod.mk.inj (Except.ok.inj hpiece)).2]
    exact ⟨(or_iff_left nofun).symm, nofun⟩
  | some piece =>
    obtain ⟨-, hroot, hnone⟩ := hl.stepPiece hpiece
    refine ⟨hroot.trans (or_congr_right ?_), ?_⟩
    · exact ⟨fun hcloses => ⟨piece, rfl, hcloses⟩, fun ⟨_, heq, hcloses⟩ =>
        Option.some.inj heq ▸ hcloses⟩
    · rintro ⟨_, heq, hcloses⟩
      exact hnone (Option.some.inj heq ▸ hcloses)

/-- A root stays. -/
theorem ReadsTo.root_mono {p rest : Bytes} {r r' : Reading} (hp : ReadsTo p r)
    (h : ReadsTo (p ++ rest) r') (hroot : r.builder.root.isSome = true) :
    r'.builder.root.isSome = true := by
  induction rest using List.reverseRecOn generalizing r' with
  | nil =>
    rw [List.append_nil] at h
    cases hp.symm.trans h
    exact hroot
  | append_singleton rest b ih =>
    rw [← List.append_assoc] at h
    obtain ⟨r₁, hrest, hstep⟩ := h.of_concat
    exact (hrest.root_iff hstep).1.mpr (Or.inl (ih hrest))

/-- Once there is a root, the bytes start with a text that ends it. There is none with any
shorter start. -/
theorem ReadsTo.exists_endsRoot {bs : Bytes} {r : Reading} (h : ReadsTo bs r)
    (hroot : r.builder.root.isSome = true) : ∃ e, e <+: bs ∧ EndsRoot e ∧
      ∀ p r', p <+: e → p ≠ e → ReadsTo p r' → r'.builder.root = none := by
  induction bs using List.reverseRecOn generalizing r with
  | nil =>
    cases h
    cases hroot
  | append_singleton bs b ih =>
    obtain ⟨r₁, hbs, hstep⟩ := h.of_concat
    by_cases hroot₁ : r₁.builder.root.isSome = true
    · obtain ⟨e, he, hends, hbefore⟩ := ih hbs hroot₁
      exact ⟨e, he.trans (List.prefix_append _ _), hends, hbefore⟩
    · have hends := ((hbs.root_iff hstep).1.mp hroot).resolve_left hroot₁
      refine ⟨bs ++ [b], List.prefix_refl _, hends, fun p r' hp hne hr' => ?_⟩
      obtain ⟨rest, rfl⟩ := (List.prefix_concat_iff.mp hp).resolve_left hne
      rw [← Option.not_isSome_iff_eq_none]
      exact fun hr => hroot₁ (hr'.root_mono hbs hr)

/-- Two texts that end the root are the same if one starts with the other. -/
theorem EndsRoot.eq_of_prefix {e e' : Bytes} {r : Reading} (he : EndsRoot e) (he' : EndsRoot e')
    (hle : e <+: e') (h : ReadsTo e' r) : e = e' := by
  by_contra hne
  obtain ⟨before, b, _, _, _, _, rfl, -⟩ := id he'
  obtain ⟨r₁, hbefore, hstep⟩ := h.of_concat
  have hnone := (hbefore.root_iff hstep).2 he'
  obtain ⟨rest, rfl⟩ := (List.prefix_concat_iff.mp hle).resolve_left hne
  obtain ⟨r₂, hr₂, -⟩ := hbefore.of_append
  have hroot : r₂.builder.root.isSome = true := by
    obtain ⟨front, b', _, _, _, _, rfl, -⟩ := id he
    obtain ⟨r₃, hfront, hstep'⟩ := hr₂.of_concat
    exact (hfront.root_iff hstep').1.mpr (Or.inr he)
  have hroot' := hr₂.root_mono hbefore hroot
  rw [hnone] at hroot'
  cases hroot'

/-! ## The end of the input -/

/-- The end of the input makes no piece but a text. -/
theorem Cutter.finish_eq_ok {c : Cutter} {piece : Option Piece} (h : c.finish = .ok piece) :
    piece = none ∨ ∃ raw, piece = some (.text raw) := by
  cases c
  case text seen =>
    cases h
    unfold textPiece
    split
    · exact Or.inl rfl
    · exact Or.inr ⟨_, rfl⟩
  all_goals cases h

/-- At the end of a document there is a root. -/
theorem Reading.root_of_finish {r : Reading} {root : Node} (h : r.finish = .ok root) :
    r.builder.root.isSome = true := by
  obtain ⟨piece, hpiece, h⟩ := bind_eq_ok.mp h
  obtain ⟨⟨reader, builder⟩, hstep, hfinish⟩ := bind_eq_ok.mp h
  have hroot : builder.root = r.builder.root := by
    rcases Cutter.finish_eq_ok hpiece with rfl | ⟨raw, rfl⟩
    · cases hstep
      rfl
    · obtain ⟨events, hreader, hbuilder⟩ := stepPiece_some hstep
      cases hreader
      exact (Builder.levels_step_content ⟨raw, Or.inl rfl⟩ (foldlM_step_singleton hbuilder)).2
  unfold Builder.finish at hfinish
  dsimp only at hfinish
  split at hfinish
  · cases hfinish
  · next heq =>
    rw [← hroot, heq]
    rfl
  · cases hfinish

end DavCourier.Markup

namespace DavCourier.Dav.MultiStatus

open Markup Fallible

/-- Any bytes that are read start in exactly one way with a text that ends the root, which is
the end of an end tag or of a tag that closes itself. No shorter start of them is read. -/
theorem parse_truncated {bs : Bytes} {report : Option MultiStatus} (h : parse bs = .ok report) :
    ∃ e, (∀ e', e' <+: bs ∧ EndsRoot e' ↔ e' = e) ∧
      (∃ front content, e = front ++ [0x3C, 0x2F] ++ content ++ [0x3E] ∨
        e = front ++ [0x3C] ++ content ++ [0x2F, 0x3E]) ∧
      ∀ p, p <+: e → p ≠ e → ∃ fault, parse p = .error fault := by
  obtain ⟨root, hread, -⟩ := map_eq_ok.mp h
  obtain ⟨r, hr, hfinish⟩ := bind_eq_ok.mp hread
  have hreads : ReadsTo bs r := hr
  obtain ⟨e, he, hends, hbefore⟩ := hreads.exists_endsRoot (Reading.root_of_finish hfinish)
  refine ⟨e, fun e' => ⟨fun ⟨he', hends'⟩ => ?_, fun heq => heq ▸ ⟨he, hends⟩⟩,
    hends.exists_tag, fun p hp hne => ?_⟩
  · obtain ⟨r₁, hr₁⟩ := hreads.of_prefix he
    obtain ⟨r₂, hr₂⟩ := hreads.of_prefix he'
    rcases List.prefix_or_prefix_of_prefix he he' with hle | hle
    · exact (hends.eq_of_prefix hends' hle hr₂).symm
    · exact hends'.eq_of_prefix hends hle hr₁
  · cases hparse : parse p with
    | error fault => exact ⟨fault, rfl⟩
    | ok report' =>
      obtain ⟨root', hread', -⟩ := map_eq_ok.mp hparse
      obtain ⟨r', hr', hfinish'⟩ := bind_eq_ok.mp hread'
      have hroot := Reading.root_of_finish hfinish'
      rw [hbefore p r' hp hne hr'] at hroot
      cases hroot

theorem parse_truncated_quoted :
    parse (Utf8.encodeString "<a b='>'/> <!-- -->") = .ok none ∧
      ∃ fault, parse (Utf8.encodeString "<a b='>") = .error fault := by
  have hparse : parse (Utf8.encodeString "<a b='>'/> <!-- -->") = .ok none := by
    decide +kernel
  have hends : EndsRoot (Utf8.encodeString "<a b='>'/>") :=
    ⟨Utf8.encodeString "<a b='>'/", 0x3E, .tag none (Utf8.encodeString "a b='>'/").reverse,
      .text [], [], .tag (Utf8.encodeString "a b='>'/"), by decide, by decide, by decide, by decide,
      rfl⟩
  obtain ⟨e, hunique, -, htruncated⟩ := parse_truncated hparse
  obtain rfl := (hunique _).mp ⟨by decide, hends⟩
  exact ⟨hparse, htruncated _ (by decide) (by decide)⟩

end DavCourier.Dav.MultiStatus
