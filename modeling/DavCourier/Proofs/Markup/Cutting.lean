import DavCourier.Markup.Reading
import DavCourier.Proofs.Fallible

/-!
# Cutting on its own

`Reading` works with the cutter, the reader and the builder at once. Where the cutter finds no
fault the three come apart : `Cutter.run` gives the pieces of the bytes, `readPieces` what the
reader and the builder make of them, and `Node.read_of_run` says that reading is one after the
other. `run_text`, `run_tag` and `run_endTag` say which pieces the bytes of a text and of a tag
make. `ReadsTo` is the state that reading has come to with bytes.
-/

namespace DavCourier.Markup

open Fallible

namespace Cutter

/-- The place after bytes, and the pieces that they end. -/
def run : Cutter → Bytes → Except Fault (Cutter × List Piece)
  | cutter, [] => .ok (cutter, [])
  | cutter, b :: bs => do
    let (next, piece) ← cutter.step b
    let (last, pieces) ← run next bs
    return (last, piece.toList ++ pieces)

theorem run_cons {c c' : Cutter} {b : UInt8} {bs : Bytes} {pieces : List Piece} :
    c.run (b :: bs) = .ok (c', pieces) ↔
      ∃ next piece rest, c.step b = .ok (next, piece) ∧ next.run bs = .ok (c', rest) ∧
        pieces = piece.toList ++ rest := by
  rw [run, bind_eq_ok]
  constructor
  · rintro ⟨⟨next, piece⟩, hstep, h⟩
    obtain ⟨⟨last, rest⟩, hrun, h⟩ := bind_eq_ok.mp h
    cases h
    exact ⟨next, piece, rest, hstep, hrun, rfl⟩
  · rintro ⟨next, piece, rest, hstep, hrun, rfl⟩
    exact ⟨(next, piece), hstep, bind_eq_ok.mpr ⟨(c', rest), hrun, rfl⟩⟩

theorem run_append {c c₁ c₂ : Cutter} {as bs : Bytes} {ps qs : List Piece}
    (ha : c.run as = .ok (c₁, ps)) (hb : c₁.run bs = .ok (c₂, qs)) :
    c.run (as ++ bs) = .ok (c₂, ps ++ qs) := by
  induction as generalizing c ps with
  | nil =>
    cases ha
    exact hb
  | cons b as ih =>
    obtain ⟨next, piece, rest, hstep, hrun, rfl⟩ := run_cons.mp ha
    exact run_cons.mpr ⟨next, piece, rest ++ qs, hstep, ih hrun, List.append_assoc _ _ _⟩

/-! ## Texts and tags -/

theorem run_text {bs : Bytes} (h : 0x3C ∉ bs) (seen : Bytes) :
    (Cutter.text seen).run bs = .ok (.text (bs.reverse ++ seen), []) := by
  induction bs generalizing seen with
  | nil => rfl
  | cons b bs ih =>
    simp only [List.mem_cons, not_or] at h
    refine run_cons.mpr ⟨.text (b :: seen), none, [], ?_, ?_, rfl⟩
    · simp [step, Ne.symm h.1]
    · rw [ih h.2, List.reverse_cons, List.append_assoc, List.singleton_append]

/-- A text ends where markup opens. -/
theorem run_text_lt {c : Cutter} {rest : Bytes} {pieces : List Piece}
    (h : start.run (0x3C :: rest) = .ok (c, pieces)) (seen : Bytes) :
    (Cutter.text seen).run (0x3C :: rest) = .ok (c, (textPiece seen).toList ++ pieces) := by
  obtain ⟨next, piece, tail, hstep, hrun, rfl⟩ := run_cons.mp h
  cases hstep
  exact run_cons.mpr ⟨.opened, textPiece seen, tail, rfl, hrun, rfl⟩

/-- Bytes that neither end a tag nor quote. -/
def IsQuiet (bs : Bytes) : Prop :=
  ∀ b ∈ bs, b ∉ [0x22, 0x27, 0x3E]

instance (bs : Bytes) : Decidable (IsQuiet bs) :=
  List.decidableBAll _ bs

theorem quoteAfter_of_quiet {b : UInt8} (h : b ∉ [0x22, 0x27, 0x3E]) :
    quoteAfter none b = none ∧ (b == 0x3E) = false := by
  simp only [List.mem_cons, List.not_mem_nil, or_false, not_or] at h
  simp [quoteAfter, h]

theorem run_tag_quiet {bs : Bytes} (h : IsQuiet bs) (seen : Bytes) :
    (Cutter.tag none seen).run (bs ++ [0x3E]) =
      .ok (start, [.tag (seen.reverse ++ bs)]) := by
  induction bs generalizing seen with
  | nil => exact run_cons.mpr ⟨start, some (.tag seen.reverse), [], rfl, rfl, by simp⟩
  | cons b bs ih =>
    obtain ⟨hquote, hend⟩ := quoteAfter_of_quiet (h b List.mem_cons_self)
    refine run_cons.mpr ⟨.tag none (b :: seen), none, _, ?_, ih (fun x hx => h x
      (List.mem_cons_of_mem _ hx)) _, by simp⟩
    simp [step, stepTag, hquote, hend]

theorem run_endTag_quiet {bs : Bytes} (h : IsQuiet bs) (seen : Bytes) :
    (Cutter.endTag none seen).run (bs ++ [0x3E]) =
      .ok (start, [.endTag (seen.reverse ++ bs)]) := by
  induction bs generalizing seen with
  | nil => exact run_cons.mpr ⟨start, some (.endTag seen.reverse), [], rfl, rfl, by simp⟩
  | cons b bs ih =>
    obtain ⟨hquote, hend⟩ := quoteAfter_of_quiet (h b List.mem_cons_self)
    refine run_cons.mpr ⟨.endTag none (b :: seen), none, _, ?_, ih (fun x hx => h x
      (List.mem_cons_of_mem _ hx)) _, by simp⟩
    simp [step, hquote, hend]

/-- A tag opens with a byte that opens nothing else. -/
theorem run_tag {b : UInt8} {bs : Bytes} (hb : b ∉ [0x21, 0x2F, 0x3F])
    (h : IsQuiet (b :: bs)) :
    start.run (0x3C :: (b :: bs ++ [0x3E])) = .ok (start, [.tag (b :: bs)]) := by
  obtain ⟨hquote, hend⟩ := quoteAfter_of_quiet (h b List.mem_cons_self)
  simp only [List.mem_cons, List.not_mem_nil, or_false, not_or] at hb
  refine run_cons.mpr ⟨.opened, none, _, rfl, ?_, rfl⟩
  refine run_cons.mpr ⟨.tag none [b], none, _, ?_,
    run_tag_quiet (fun x hx => h x (List.mem_cons_of_mem _ hx)) _, rfl⟩
  simp [step, stepTag, hb, hquote, hend]

theorem run_endTag {bs : Bytes} (h : IsQuiet bs) :
    start.run (0x3C :: 0x2F :: (bs ++ [0x3E])) = .ok (start, [.endTag bs]) :=
  run_cons.mpr ⟨.opened, none, _, rfl,
    run_cons.mpr ⟨.endTag none [], none, _, rfl, run_endTag_quiet h [], rfl⟩, rfl⟩

end Cutter

/-! ## Reading after cutting -/

/-- The open elements and the tree after pieces. -/
def readPieces (reader : Reader) (builder : Builder) (pieces : List Piece) :
    Except Fault (Reader × Builder) :=
  pieces.foldlM (fun s piece => Reading.stepPiece s.1 s.2 (some piece)) (reader, builder)

@[simp] theorem readPieces_nil (reader : Reader) (builder : Builder) :
    readPieces reader builder [] = .ok (reader, builder) := rfl

@[simp] theorem readPieces_cons (reader : Reader) (builder : Builder) (piece : Piece)
    (pieces : List Piece) : readPieces reader builder (piece :: pieces) =
      Reading.stepPiece reader builder (some piece) >>= fun s => readPieces s.1 s.2 pieces := rfl

theorem readPieces_append (reader : Reader) (builder : Builder) (ps qs : List Piece) :
    readPieces reader builder (ps ++ qs) =
      readPieces reader builder ps >>= fun s => readPieces s.1 s.2 qs := by
  unfold readPieces
  rw [List.foldlM_append]

theorem readPieces_toList (reader : Reader) (builder : Builder) (piece : Option Piece) :
    readPieces reader builder piece.toList = Reading.stepPiece reader builder piece := by
  cases piece with
  | none => rfl
  | some piece =>
    show (Reading.stepPiece reader builder (some piece) >>= fun s => pure (s.1, s.2)) = _
    exact bind_pure _

/-- Without a fault of the cutter, reading is cutting and then reading the pieces. -/
theorem foldlM_step {bs : Bytes} {r : Reading} {c : Cutter} {pieces : List Piece}
    (h : r.cutter.run bs = .ok (c, pieces)) : bs.foldlM Reading.step r =
      readPieces r.reader r.builder pieces >>= fun s => .ok ⟨c, s.1, s.2⟩ := by
  induction bs generalizing r pieces with
  | nil => cases h; rfl
  | cons b bs ih =>
    obtain ⟨next, piece, rest, hstep, hrun, rfl⟩ := Cutter.run_cons.mp h
    rw [List.foldlM_cons, Reading.step, hstep, readPieces_append, readPieces_toList]
    cases hpiece : Reading.stepPiece r.reader r.builder piece with
    | error fault => simp [hpiece]
    | ok s =>
      simp only [ok_bind, hpiece]
      exact ih hrun

theorem Node.read_of_run {bs : Bytes} {c : Cutter} {pieces : List Piece} {last : Option Piece}
    (h : Cutter.start.run bs = .ok (c, pieces)) (hlast : c.finish = .ok last) :
    Node.read bs = readPieces [] Builder.start (pieces ++ last.toList) >>= fun s =>
      s.2.finish := by
  have hfold := foldlM_step (r := Reading.start) h
  rw [Node.read, hfold, readPieces_append]
  cases hread : readPieces [] Builder.start pieces with
  | error fault => simp [Reading.start, hread]
  | ok s => simp [Reading.start, hread, Reading.finish, hlast, readPieces_toList]

/-! ## Where reading has come -/

/-- Reading comes to this state with the bytes. -/
def ReadsTo (bs : Bytes) (r : Reading) : Prop :=
  bs.foldlM Reading.step Reading.start = .ok r

theorem ReadsTo.of_append {p rest : Bytes} {r : Reading} (h : ReadsTo (p ++ rest) r) :
    ∃ r₁, ReadsTo p r₁ ∧ rest.foldlM Reading.step r₁ = .ok r := by
  unfold ReadsTo at h
  rw [List.foldlM_append] at h
  exact bind_eq_ok.mp h

theorem ReadsTo.of_concat {p : Bytes} {b : UInt8} {r : Reading} (h : ReadsTo (p ++ [b]) r) :
    ∃ r₁, ReadsTo p r₁ ∧ r₁.step b = .ok r := by
  obtain ⟨r₁, hp, hrest⟩ := h.of_append
  obtain ⟨r₂, hstep, hdone⟩ := bind_eq_ok.mp hrest
  cases hdone
  exact ⟨r₁, hp, hstep⟩

theorem step_eq_ok {r r' : Reading} {b : UInt8} : r.step b = .ok r' ↔ ∃ piece,
    r.cutter.step b = .ok (r'.cutter, piece) ∧
      Reading.stepPiece r.reader r.builder piece = .ok (r'.reader, r'.builder) := by
  constructor
  · intro h
    obtain ⟨⟨cutter, piece⟩, hcutter, h⟩ := bind_eq_ok.mp h
    obtain ⟨⟨reader, builder⟩, hpiece, hdone⟩ := bind_eq_ok.mp h
    cases hdone
    exact ⟨piece, hcutter, hpiece⟩
  · rintro ⟨piece, hcutter, hpiece⟩
    exact bind_eq_ok.mpr ⟨_, hcutter, bind_eq_ok.mpr ⟨_, hpiece, rfl⟩⟩

theorem ReadsTo.concat {p : Bytes} {b : UInt8} {r r' : Reading} (h : ReadsTo p r)
    (hstep : r.step b = .ok r') : ReadsTo (p ++ [b]) r' := by
  unfold ReadsTo at h ⊢
  rw [List.foldlM_append, h, ok_bind]
  exact bind_eq_ok.mpr ⟨r', hstep, rfl⟩

theorem ReadsTo.of_prefix {p bs : Bytes} {r : Reading} (h : ReadsTo bs r) (hp : p <+: bs) :
    ∃ r₁, ReadsTo p r₁ := by
  obtain ⟨rest, rfl⟩ := hp
  obtain ⟨r₁, hr₁, -⟩ := h.of_append
  exact ⟨r₁, hr₁⟩

end DavCourier.Markup
