import DavCourier.Proofs.Text.Utf8
import DavCourier.Text.Percent
import Mathlib.Data.List.Forall2

/-!
# Reading escapes back

`decode` reads back what `encode` wrote (`decode_encode`). The escaped text has only
unreserved characters and percent signs (`mem_encode`), so it holds no slash, and every percent
sign in it starts an escape (`isEscaped_encode`). What ends a text without being part of an escape
is read as it is (`getLast?_decodeBytes`). A slash parts no escape, so what is on both sides of it
is read by itself (`Reads.append`), and so it is with any character that no escape can hold
(`Reads.exists_of_cut`). What reading changes gets shorter (`length_decode`).
-/

namespace DavCourier.Percent

/-- What a byte is written as in an escaped text. -/
def written (b : UInt8) : List Char :=
  if isUnreserved b then [Char.ofNat b.toNat] else escape b

theorem encodeBytes_cons (b : UInt8) (bs : Bytes) :
    encodeBytes isUnreserved (b :: bs) = written b ++ encodeBytes isUnreserved bs := rfl

/-! ## The characters of an escaped text -/

theorem all_written_ofNat : ∀ n < 256, ((written (UInt8.ofNat n)).all fun c =>
    c.toNat < 0x80 ∧ (c = '%' ∨ isUnreserved (UInt8.ofNat c.toNat) = true)) = true := by
  decide +kernel

theorem mem_written {b : UInt8} {c : Char} (h : c ∈ written b) :
    c.toNat < 0x80 ∧ (c = '%' ∨ isUnreserved (UInt8.ofNat c.toNat) = true) := by
  have hall := all_written_ofNat b.toNat b.toNat_lt
  rw [UInt8.ofNat_toNat] at hall
  exact of_decide_eq_true (List.all_eq_true.mp hall c h)

/-- An escaped text is written in unreserved characters and percent signs. -/
theorem mem_encode {cs : List Char} {c : Char} (h : c ∈ encode cs) :
    c.toNat < 0x80 ∧ (c = '%' ∨ isUnreserved (UInt8.ofNat c.toNat) = true) := by
  obtain ⟨b, -, hc⟩ := List.mem_flatMap.mp h
  exact mem_written hc

theorem slash_not_mem_encode (cs : List Char) : '/' ∉ encode cs := by
  intro h
  obtain ⟨-, h | h⟩ := mem_encode h
  · exact absurd h (by decide)
  · exact absurd h (by decide)

theorem encode_ne_nil {cs : List Char} (h : cs ≠ []) : encode cs ≠ [] := by
  obtain ⟨c, cs, rfl⟩ := List.exists_cons_of_ne_nil h
  obtain ⟨a, tail, hbytes, -⟩ := Utf8.step_encodeChar c
  have hne : written a ≠ [] := by
    unfold written
    split <;> exact List.cons_ne_nil _ _
  have hcons : encode (c :: cs) =
      written a ++ encodeBytes isUnreserved (tail ++ Utf8.encode cs) := by
    rw [encode, Utf8.encode_cons, hbytes, List.cons_append, encodeBytes_cons]
  rw [hcons]
  exact List.append_ne_nil_of_left_ne_nil hne _

/-! ## The grammar of escaped texts -/

/-- Letters, digits and `-`, `_`, `.`, `~`. -/
def IsPlain (c : Char) : Prop :=
  c.isAlphanum = true ∨ c ∈ ['-', '_', '.', '~']

instance (c : Char) : Decidable (IsPlain c) :=
  inferInstanceAs (Decidable (_ ∨ _))

/-- Digits to the base sixteen in upper case. -/
def IsUpperHex (c : Char) : Prop :=
  c ∈ "0123456789ABCDEF".toList

instance (c : Char) : Decidable (IsUpperHex c) :=
  inferInstanceAs (Decidable (_ ∈ _))

/-- Texts of plain characters and escapes. -/
inductive IsEscaped : List Char → Prop
  | nil : IsEscaped []
  | plain {c : Char} {cs : List Char} : IsPlain c → IsEscaped cs → IsEscaped (c :: cs)
  | escape {x y : Char} {cs : List Char} : IsUpperHex x → IsUpperHex y → IsEscaped cs →
    IsEscaped ('%' :: x :: y :: cs)

theorem isPlain_of_isUnreserved : ∀ n < 0x80, isUnreserved (UInt8.ofNat n) = true →
    IsPlain (Char.ofNat n) := by
  decide

theorem isUpperHex_hexDigit : ∀ n < 16, IsUpperHex (hexDigit n) := by
  decide

theorem isUnreserved_ofNat : ∀ n < 256, isUnreserved (UInt8.ofNat n) = true →
    n < 0x80 ∧ UInt8.ofNat n ≠ 0x25 := by
  decide +kernel

/-- An unreserved byte is below 128 and no percent sign. -/
theorem lt_of_isUnreserved {b : UInt8} (h : isUnreserved b = true) :
    b.toNat < 0x80 ∧ b ≠ 0x25 := by
  have hb := isUnreserved_ofNat b.toNat b.toNat_lt
  rw [UInt8.ofNat_toNat] at hb
  exact hb h

theorem isEscaped_encodeBytes (bs : Bytes) : IsEscaped (encodeBytes isUnreserved bs) := by
  induction bs with
  | nil => exact .nil
  | cons b bs ih =>
    rw [encodeBytes_cons, written]
    split
    · next h =>
      have hplain := isPlain_of_isUnreserved b.toNat (lt_of_isUnreserved h).1
      rw [UInt8.ofNat_toNat] at hplain
      exact .plain (hplain h) ih
    · have hb : b.toNat < 256 := b.toNat_lt
      exact .escape (isUpperHex_hexDigit _ (by omega)) (isUpperHex_hexDigit _ (by omega)) ih

theorem isEscaped_encode (cs : List Char) : IsEscaped (encode cs) :=
  isEscaped_encodeBytes _

/-! ## The way back -/

theorem decodeBytes_cons {b : UInt8} (h : b ≠ 0x25) (rest : Bytes) :
    decodeBytes (b :: rest) = b :: decodeBytes rest := by
  rw [decodeBytes]
  rintro _ _ _ rfl
  exact absurd rfl h

theorem decodeBytes_escape {x y b : UInt8} (h : byte? x y = some b) (rest : Bytes) :
    decodeBytes (0x25 :: x :: y :: rest) = b :: decodeBytes rest := by
  rw [decodeBytes, h]

/-- A digit to the base sixteen in either case. -/
def SpellsDigit (n : Nat) (x : Char) : Prop :=
  n < 16 ∧ (x = hexDigit n ∨ x = (hexDigit n).toLower)

instance (n : Nat) (x : Char) : Decidable (SpellsDigit n x) :=
  inferInstanceAs (Decidable (_ ∧ _))

/-- An escape of a byte, with digits in either case. -/
inductive SpellsByte (b : UInt8) : List Char → Prop
  | escape {x y : Char} (hx : SpellsDigit (b.toNat / 16) x) (hy : SpellsDigit (b.toNat % 16) y) :
    SpellsByte b ['%', x, y]

theorem SpellsDigit.facts {n : Nat} {x : Char} (h : SpellsDigit n x) :
    x.toNat < 0x80 ∧ hexValue? (UInt8.ofNat x.toNat) = some n := by
  obtain ⟨hn, rfl | rfl⟩ := h
  · have hupper : ∀ n < 16, (hexDigit n).toNat < 0x80 ∧
        hexValue? (UInt8.ofNat (hexDigit n).toNat) = some n := by
      decide
    exact hupper n hn
  · have hlower : ∀ n < 16, (hexDigit n).toLower.toNat < 0x80 ∧
        hexValue? (UInt8.ofNat (hexDigit n).toLower.toNat) = some n := by
      decide
    exact hlower n hn

theorem encode_ofNat : ∀ n < 0x80, Utf8.encode [Char.ofNat n] = [UInt8.ofNat n] := by
  decide

/-- An escape is read as its byte. -/
theorem SpellsByte.decodeBytes_eq {b : UInt8} {w : List Char} (h : SpellsByte b w)
    (rest : Bytes) : decodeBytes (Utf8.encode w ++ rest) = b :: decodeBytes rest := by
  obtain @⟨x, y, hx, hy⟩ := h
  obtain ⟨hltx, hvx⟩ := hx.facts
  obtain ⟨hlty, hvy⟩ := hy.facts
  have hpercent : String.utf8EncodeChar '%' = [0x25] := rfl
  have hbytes : Utf8.encode ['%', x, y] =
      [0x25, UInt8.ofNat x.toNat, UInt8.ofNat y.toNat] := by
    rw [Utf8.encode_cons, Utf8.encode_cons, Utf8.encode_cons, hpercent,
      Utf8.encodeChar_ascii hltx, Utf8.encodeChar_ascii hlty]
    rfl
  have hbyte : byte? (UInt8.ofNat x.toNat) (UInt8.ofNat y.toNat) = some b := by
    have hsum : b.toNat / 16 * 16 + b.toNat % 16 = b.toNat := by omega
    rw [byte?, hvx, hvy]
    simp only [hsum, UInt8.ofNat_toNat]
  rw [hbytes]
  exact decodeBytes_escape hbyte rest

theorem spellsByte_escape (b : UInt8) : SpellsByte b (escape b) := by
  have hb : b.toNat < 256 := b.toNat_lt
  exact .escape ⟨by omega, Or.inl rfl⟩ ⟨by omega, Or.inl rfl⟩

theorem decodeBytes_written (b : UInt8) (rest : Bytes) :
    decodeBytes (Utf8.encode (written b) ++ rest) = b :: decodeBytes rest := by
  unfold written
  split
  · next h =>
    obtain ⟨hlt, hne⟩ := lt_of_isUnreserved h
    rw [encode_ofNat b.toNat hlt, UInt8.ofNat_toNat]
    exact decodeBytes_cons hne rest
  · exact (spellsByte_escape b).decodeBytes_eq rest

theorem decodeBytes_encodeBytes (bs : Bytes) :
    decodeBytes (Utf8.encode (encodeBytes isUnreserved bs)) = bs := by
  induction bs with
  | nil => rfl
  | cons b bs ih => rw [encodeBytes_cons, Utf8.encode_append, decodeBytes_written, ih]

/-- An escaped text is read back. -/
theorem decode_encode (cs : List Char) : decode (encode cs) = cs := by
  have hbytes : decodeBytes (Utf8.encode (encode cs)) = Utf8.encode cs :=
    decodeBytes_encodeBytes _
  rw [decode, hbytes, Utf8.decode_encode]

theorem encode_injective {cs ds : List Char} (h : encode cs = encode ds) : cs = ds := by
  rw [← decode_encode cs, h, decode_encode]

/-- A byte at the end that belongs to no escape stays. -/
theorem getLast?_decodeBytes {b : UInt8} (hdigit : hexValue? b = none) {bs : Bytes}
    (hlast : bs.getLast? = some b) : (decodeBytes bs).getLast? = some b := by
  fun_induction decodeBytes bs with
  | case1 x y rest v hbyte ih =>
    cases rest with
    | nil =>
      have hy : y = b := Option.some.inj hlast
      rw [byte?, hy, hdigit] at hbyte
      cases hx : hexValue? x <;> rw [hx] at hbyte <;> cases hbyte
    | cons z rest =>
      rw [List.getLast?_cons_cons, List.getLast?_cons_cons, List.getLast?_cons_cons] at hlast
      rw [List.getLast?_cons, ih hlast]
      rfl
  | case2 x y rest hbyte ih =>
    rw [List.getLast?_cons_cons] at hlast
    rw [List.getLast?_cons, ih hlast]
    rfl
  | case3 a rest hrest ih =>
    cases rest with
    | nil => exact hlast
    | cons z rest =>
      rw [List.getLast?_cons_cons] at hlast
      rw [List.getLast?_cons, ih hlast]
      rfl
  | case4 => cases hlast

/-! ## Texts on both sides of a slash -/

/-- The escapes of a text spell another text, and nothing in it is left unread. -/
def Reads (cs ds : List Char) : Prop :=
  decodeBytes (Utf8.encode cs) = Utf8.encode ds

instance (cs ds : List Char) : Decidable (Reads cs ds) :=
  inferInstanceAs (Decidable (_ = _))

theorem reads_iff {cs ds : List Char} :
    Reads cs ds ↔ Utf8.decode (decodeBytes (Utf8.encode cs)) = .ok ds :=
  Utf8.decode_eq_ok.symm

instance (cs : List Char) : Decidable (∃ ds, Reads cs ds) :=
  match h : Utf8.decode (decodeBytes (Utf8.encode cs)) with
  | .ok ds => .isTrue ⟨ds, reads_iff.mpr h⟩
  | .error _ => .isFalse fun ⟨_, hds⟩ => nomatch h.symm.trans (reads_iff.mp hds)

theorem reads_encode (cs : List Char) : Reads (encode cs) cs :=
  decodeBytes_encodeBytes _

/-- A percent sign that two digits do not follow stays. -/
theorem decodeBytes_percent {bs : Bytes}
    (h : ∀ x y rest, bs = x :: y :: rest → byte? x y = none) :
    decodeBytes (0x25 :: bs) = 0x25 :: decodeBytes bs := by
  rcases bs with _ | ⟨x, _ | ⟨y, rest⟩⟩
  · rfl
  · rfl
  · rw [decodeBytes, h x y rest rfl]

/-- No escape reaches over a byte that is neither a digit nor a percent sign. -/
theorem decodeBytes_append {b : UInt8} (hdigit : hexValue? b = none) (hb : b ≠ 0x25)
    (x y : Bytes) : decodeBytes (x ++ b :: y) = decodeBytes x ++ b :: decodeBytes y := by
  have hleft : ∀ z, byte? b z = none := fun z => by rw [byte?, hdigit]
  have hright : ∀ z, byte? z b = none := fun z => by
    rw [byte?, hdigit]
    cases hexValue? z <;> rfl
  fun_induction decodeBytes x with
  | case1 u v rest w hbyte ih =>
    exact (decodeBytes_escape hbyte _).trans (congrArg _ ih)
  | case2 u v rest hbyte ih =>
    refine (decodeBytes_percent ?_).trans (congrArg _ ih)
    rintro _ _ _ ⟨⟩
    exact hbyte
  | case3 u rest hrest ih =>
    by_cases hu : u = 0x25
    · subst hu
      refine (decodeBytes_percent fun c d tail heq => ?_).trans (congrArg _ ih)
      rcases rest with _ | ⟨z, _ | ⟨w, rest⟩⟩
      · cases heq
        exact hleft d
      · cases heq
        exact hright c
      · exact (hrest z w rest rfl rfl).elim
    · exact (decodeBytes_cons hu _).trans (congrArg _ ih)
  | case4 => exact decodeBytes_cons hb y

/-- A text whose escapes spell no text stays as it is. -/
theorem decode_eq_self {cs : List Char} (h : ¬ ∃ ds, Reads cs ds) : decode cs = cs := by
  unfold decode
  split
  · next ds hds => exact absurd ⟨ds, reads_iff.mpr hds⟩ h
  · rfl

/-- A character of one byte that is neither a digit nor a percent sign, so that no escape reaches
over it. -/
structure IsBarrier (c : Char) : Prop where
  ascii : c.toNat < 0x80
  digit : hexValue? (UInt8.ofNat c.toNat) = none
  percent : UInt8.ofNat c.toNat ≠ 0x25

theorem isBarrier_slash : IsBarrier '/' := ⟨by decide, by decide, by decide⟩

theorem isBarrier_backslash : IsBarrier '\\' := ⟨by decide, by decide, by decide⟩

namespace Reads

variable {cs ds x y a b : List Char}

theorem decode_eq (h : Reads cs ds) : decode cs = ds := by
  rw [decode, reads_iff.mp h]

theorem nil : Reads [] [] := rfl

theorem append (hx : Reads x a) (hy : Reads y b) : Reads (x ++ '/' :: y) (a ++ '/' :: b) := by
  have hslash : ∀ cs, Utf8.encode ('/' :: cs) = 0x2F :: Utf8.encode cs := fun _ => rfl
  rw [Reads, Utf8.encode_append, Utf8.encode_append, hslash, hslash,
    decodeBytes_append (by decide) (by decide), hx, hy]

theorem exists_of_cut {c : Char} (hc : IsBarrier c) (h : Reads (x ++ c :: y) ds) :
    ∃ a b, Reads x a ∧ Reads y b ∧ ds = a ++ c :: b := by
  rw [Reads, Utf8.encode_append, Utf8.encode_cons, Utf8.encodeChar_ascii hc.ascii,
    List.singleton_append, decodeBytes_append hc.digit hc.percent] at h
  obtain ⟨a, b, ha, hb, rfl⟩ := Utf8.exists_encode_of_cut hc.ascii h.symm
  exact ⟨a, b, ha, hb, rfl⟩

end Reads

/-! ## What reading leaves in a text -/

theorem decode_cases (cs : List Char) : Reads cs (decode cs) ∨ decode cs = cs := by
  by_cases h : ∃ ds, Reads cs ds
  · obtain ⟨ds, hds⟩ := h
    rw [hds.decode_eq]
    exact Or.inl hds
  · exact Or.inr (decode_eq_self h)

theorem mem_decode {c : Char} (hc : IsBarrier c) {cs : List Char} (h : c ∈ cs) :
    c ∈ decode cs := by
  rcases decode_cases cs with hreads | hself
  · obtain ⟨x, y, hcs⟩ := List.append_of_mem h
    rw [hcs] at hreads
    obtain ⟨a, b, -, -, heq⟩ := hreads.exists_of_cut hc
    rw [hcs, heq]
    exact List.mem_append_right _ List.mem_cons_self
  · rwa [hself]

/-- Reading escapes makes no text longer, and one that stays as long stays as it is. -/
theorem length_decodeBytes (bs : Bytes) : (decodeBytes bs).length ≤ bs.length ∧
    ((decodeBytes bs).length = bs.length → decodeBytes bs = bs) := by
  fun_induction decodeBytes bs with
  | case1 x y rest v hbyte ih =>
    simp only [List.length_cons]
    omega
  | case2 x y rest hbyte ih => simpa using ih
  | case3 a rest hrest ih => simpa using ih
  | case4 => simp

theorem length_decode (cs : List Char) :
    (Utf8.encode (decode cs)).length ≤ (Utf8.encode cs).length ∧
      ((Utf8.encode (decode cs)).length = (Utf8.encode cs).length → decode cs = cs) := by
  rcases decode_cases cs with hreads | hself
  · obtain ⟨hle, heq⟩ := length_decodeBytes (Utf8.encode cs)
    rw [Reads] at hreads
    rw [← hreads]
    exact ⟨hle, fun h => Utf8.encode_injective (hreads.symm.trans (heq h))⟩
  · simp [hself]

/-! ## Other spellings -/

/-- What may be written for a text : each character as it is, but for the percent sign, or as
escapes of its bytes. -/
inductive Spells : List Char → List Char → Prop
  | nil : Spells [] []
  | plain {c : Char} {cs ws : List Char} (hc : c ≠ '%') (rest : Spells cs ws) :
    Spells (c :: cs) (c :: ws)
  | escaped {c : Char} {cs ws : List Char} {es : List (List Char)}
    (h : List.Forall₂ SpellsByte (String.utf8EncodeChar c) es) (rest : Spells cs ws) :
    Spells (c :: cs) (es.flatten ++ ws)

theorem decodeBytes_escapes {bs : Bytes} {es : List (List Char)}
    (h : List.Forall₂ SpellsByte bs es) (rest : Bytes) :
    decodeBytes (Utf8.encode es.flatten ++ rest) = bs ++ decodeBytes rest := by
  induction h with
  | nil => rfl
  | cons hb _ ih =>
    rw [List.flatten_cons, Utf8.encode_append, List.append_assoc, hb.decodeBytes_eq, ih]
    rfl

/-- Bytes without a percent sign stay. -/
theorem decodeBytes_plain {bs : Bytes} (h : 0x25 ∉ bs) (rest : Bytes) :
    decodeBytes (bs ++ rest) = bs ++ decodeBytes rest := by
  induction bs with
  | nil => rfl
  | cons b bs ih =>
    obtain ⟨hb, hbs⟩ := List.ne_and_not_mem_of_not_mem_cons h
    rw [List.cons_append, decodeBytes_cons hb.symm, ih hbs]
    rfl

/-- However a text is spelled, it is read. -/
theorem Spells.reads {cs ws : List Char} (h : Spells cs ws) : Reads ws cs := by
  rw [Reads]
  induction h with
  | nil => rfl
  | @plain c cs ws hc rest ih =>
    have hpercent : (0x25 : UInt8) ∉ String.utf8EncodeChar c := by
      intro hmem
      have hbyte : (0x25 : UInt8) ∈ Utf8.encode [c] := by simpa using hmem
      exact hc (List.mem_singleton.mp (Utf8.ascii_mem_encode (by decide) hbyte)).symm
    rw [Utf8.encode_cons, decodeBytes_plain hpercent, ih, Utf8.encode_cons]
  | escaped h rest ih =>
    rw [Utf8.encode_append, decodeBytes_escapes h, ih, Utf8.encode_cons]

end DavCourier.Percent
