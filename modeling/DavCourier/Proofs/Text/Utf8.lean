import DavCourier.Proofs.Fallible
import DavCourier.Text.Utf8
import Mathlib.Tactic.SplitIfs

/-!
# Reading UTF-8 back

`decode` reads back what `encode` wrote (`decode_encode`), so different texts have
different bytes, and it reads nothing else (`decode_eq_ok`). A byte below 128 stands for its own
character and for nothing else (`ascii_mem_encode`, `getLast?_of_decodeFrom`), and texts come in
the order of their bytes (`encode_lt_encode`).

Every statement follows the four sizes of `String.utf8EncodeChar` : one lemma for each size
says what `step` makes of bytes of that shape, and one that a character read from bytes of that
shape is spelled by them.
-/

namespace DavCourier.Utf8

/-! ## Bytes that spell a number -/

theorem isContinuation_ofNat (n : Nat) :
    isContinuation (UInt8.ofNat (n % 64 + 0x80)) = true := by
  simp [isContinuation, UInt8.le_iff_toNat_le]
  omega

theorem payload_ofNat (n : Nat) : payload (UInt8.ofNat (n % 64 + 0x80)) = n % 64 := by
  simp [payload]
  omega

theorem step_one {n : Nat} (h : n < 0x80) (rest : Bytes) :
    step (UInt8.ofNat n) rest = .char (Char.ofNat n) rest := by
  have ha : UInt8.ofNat n < 0x80 := by
    simp [UInt8.lt_iff_toNat_lt]
    omega
  unfold step
  rw [if_pos ha, UInt8.toNat_ofNat_of_lt' (by unfold UInt8.size; omega)]

theorem step_two {n : Nat} (h : 0x80 ≤ n) (h' : n < 0x800) (rest : Bytes) :
    step (UInt8.ofNat (n / 64 % 32 + 0xC0)) (UInt8.ofNat (n % 64 + 0x80) :: rest) =
      .char (Char.ofNat n) rest := by
  have ha : (UInt8.ofNat (n / 64 % 32 + 0xC0)).toNat = n / 64 + 0xC0 := by simp; omega
  unfold step
  simp only [UInt8.lt_iff_toNat_lt, ha, isContinuation_ofNat, payload_ofNat, if_true,
    UInt8.reduceToNat]
  rw [if_neg (by omega), if_neg (by omega), if_pos (by omega)]
  congr 2
  omega

theorem step_three {n : Nat} (h : 0x800 ≤ n) (h' : n < 0x10000)
    (hs : n < 0xD800 ∨ 0xDFFF < n) (rest : Bytes) :
    step (UInt8.ofNat (n / 4096 % 16 + 0xE0))
        (UInt8.ofNat (n / 64 % 64 + 0x80) :: UInt8.ofNat (n % 64 + 0x80) :: rest) =
      .char (Char.ofNat n) rest := by
  have ha : (UInt8.ofNat (n / 4096 % 16 + 0xE0)).toNat = n / 4096 + 0xE0 := by simp; omega
  have hb : (UInt8.ofNat (n / 64 % 64 + 0x80)).toNat = n / 64 % 64 + 0x80 := by simp; omega
  have hsecond : isSecondOfThree (UInt8.ofNat (n / 4096 % 16 + 0xE0))
      (UInt8.ofNat (n / 64 % 64 + 0x80)) = true := by
    unfold isSecondOfThree
    simp only [beq_iff_eq, ← UInt8.toNat_inj, UInt8.le_iff_toNat_le, ha, hb, Bool.and_eq_true,
      decide_eq_true_eq, UInt8.reduceToNat]
    constructor
    · split <;> simp only [UInt8.reduceToNat] <;> omega
    · split <;> simp only [UInt8.reduceToNat] <;> omega
  unfold step
  simp only [UInt8.lt_iff_toNat_lt, ha, hsecond, isContinuation_ofNat, payload_ofNat, if_true,
    UInt8.reduceToNat]
  rw [if_neg (by omega), if_neg (by omega), if_neg (by omega), if_pos (by omega)]
  congr 2
  omega

theorem step_four {n : Nat} (h : 0x10000 ≤ n) (h' : n < 0x110000) (rest : Bytes) :
    step (UInt8.ofNat (n / 262144 % 8 + 0xF0))
        (UInt8.ofNat (n / 4096 % 64 + 0x80) :: UInt8.ofNat (n / 64 % 64 + 0x80) ::
          UInt8.ofNat (n % 64 + 0x80) :: rest) =
      .char (Char.ofNat n) rest := by
  have ha : (UInt8.ofNat (n / 262144 % 8 + 0xF0)).toNat = n / 262144 + 0xF0 := by simp; omega
  have hb : (UInt8.ofNat (n / 4096 % 64 + 0x80)).toNat = n / 4096 % 64 + 0x80 := by simp; omega
  have hsecond : isSecondOfFour (UInt8.ofNat (n / 262144 % 8 + 0xF0))
      (UInt8.ofNat (n / 4096 % 64 + 0x80)) = true := by
    unfold isSecondOfFour
    simp only [beq_iff_eq, ← UInt8.toNat_inj, UInt8.le_iff_toNat_le, ha, hb, Bool.and_eq_true,
      decide_eq_true_eq, UInt8.reduceToNat]
    constructor
    · split <;> simp only [UInt8.reduceToNat] <;> omega
    · split <;> simp only [UInt8.reduceToNat] <;> omega
  unfold step
  simp only [UInt8.lt_iff_toNat_lt, ha, hsecond, isContinuation_ofNat, payload_ofNat, if_true,
    UInt8.reduceToNat]
  rw [if_neg (by omega), if_neg (by omega), if_neg (by omega), if_neg (by omega),
    if_pos (by omega)]
  congr 2
  omega

/-! ## The way back -/

@[simp] theorem encode_nil : encode [] = [] := rfl

@[simp] theorem encode_cons (c : Char) (cs : List Char) :
    encode (c :: cs) = String.utf8EncodeChar c ++ encode cs := rfl

@[simp] theorem encode_append (cs ds : List Char) :
    encode (cs ++ ds) = encode cs ++ encode ds := by
  simp [encode]

/-- The bytes of a character start with one from which `step` reads the character back. -/
theorem step_encodeChar (c : Char) : ∃ a tail, String.utf8EncodeChar c = a :: tail ∧
    ∀ rest, step a (tail ++ rest) = .char c rest := by
  have hc : Char.ofNat c.val.toNat = c := Char.ofNat_toNat c
  have hvalid : c.val.toNat < 0xD800 ∨ 0xDFFF < c.val.toNat ∧ c.val.toNat < 0x110000 := c.valid
  unfold String.utf8EncodeChar
  generalize c.val.toNat = n at hc hvalid
  dsimp only
  split
  · exact ⟨_, _, rfl, fun rest => hc ▸ step_one (by omega) rest⟩
  · split
    · exact ⟨_, _, rfl, fun rest => hc ▸ step_two (by omega) (by omega) rest⟩
    · split
      · exact ⟨_, _, rfl, fun rest => hc ▸ step_three (by omega) (by omega) (by omega) rest⟩
      · exact ⟨_, _, rfl, fun rest => hc ▸ step_four (by omega) (by omega) rest⟩

theorem decodeFrom_encode (cs : List Char) (offset : Nat) :
    decodeFrom offset (encode cs) = .ok cs := by
  induction cs generalizing offset with
  | nil => simp [decodeFrom]
  | cons c cs ih =>
    obtain ⟨a, tail, hbytes, hstep⟩ := step_encodeChar c
    rw [encode_cons, hbytes, List.cons_append, decodeFrom]
    split
    · next d rest heq =>
      rw [hstep] at heq
      cases heq
      rw [ih]
      rfl
    · next heq => rw [hstep] at heq; cases heq
    · next heq => rw [hstep] at heq; cases heq

theorem decode_encode (cs : List Char) : decode (encode cs) = .ok cs :=
  decodeFrom_encode cs 0

theorem decodeString_encodeString (s : String) : decodeString (encodeString s) = .ok s := by
  unfold decodeString encodeString
  rw [decode_encode]
  exact congrArg Except.ok String.ofList_toList

theorem encode_injective {cs ds : List Char} (h : encode cs = encode ds) : cs = ds := by
  have hd := decode_encode cs
  rw [h, decode_encode] at hd
  exact (Except.ok.inj hd).symm

/-- What follows the bytes of characters in those of a text are bytes of characters. -/
theorem exists_of_encode_append {cs ds : List Char} {z : Bytes} (h : encode cs = encode ds ++ z) :
    ∃ es, z = encode es ∧ cs = ds ++ es := by
  induction ds generalizing cs with
  | nil => exact ⟨cs, h.symm, rfl⟩
  | cons d ds ih =>
    obtain ⟨a, tail, hd, hstep⟩ := step_encodeChar d
    rw [encode_cons, hd, List.append_assoc] at h
    cases cs with
    | nil => cases h
    | cons c cs =>
      obtain ⟨b, tail', hc, hstep'⟩ := step_encodeChar c
      rw [encode_cons, hc, List.cons_append, List.cons_append, List.cons.injEq] at h
      obtain ⟨rfl, h⟩ := h
      have hsame := hstep' (encode cs)
      rw [h, hstep, Step.char.injEq] at hsame
      obtain ⟨rfl, hrest⟩ := hsame
      obtain ⟨es, hz, rfl⟩ := ih hrest.symm
      exact ⟨es, hz, rfl⟩

theorem encodeString_injective : Function.Injective encodeString := fun _ _ h =>
  String.toList_injective (encode_injective h)

theorem encodeString_append (s t : String) :
    encodeString (s ++ t) = encodeString s ++ encodeString t := by
  rw [encodeString, String.toList_append, encode_append]
  rfl

/-! ## Bytes below 128 -/

theorem encodeChar_ascii {c : Char} (h : c.toNat < 0x80) :
    String.utf8EncodeChar c = [UInt8.ofNat c.toNat] := by
  unfold String.utf8EncodeChar
  exact if_pos (Nat.le_of_lt_succ h)

theorem le_of_mem_encodeChar {c : Char} (h : 0x80 ≤ c.toNat) {b : UInt8}
    (hb : b ∈ String.utf8EncodeChar c) : 0x80 ≤ b.toNat := by
  have hc : 0x80 ≤ c.val.toNat := h
  unfold String.utf8EncodeChar at hb
  generalize c.val.toNat = n at hc hb
  dsimp only at hb
  rw [if_neg (by omega)] at hb
  split at hb
  · simp only [List.mem_cons, List.not_mem_nil, or_false] at hb
    rcases hb with rfl | rfl <;> simp <;> omega
  · split at hb
    · simp only [List.mem_cons, List.not_mem_nil, or_false] at hb
      rcases hb with rfl | rfl | rfl <;> simp <;> omega
    · simp only [List.mem_cons, List.not_mem_nil, or_false] at hb
      rcases hb with rfl | rfl | rfl | rfl <;> simp <;> omega

/-- A byte below 128 comes from the character with its number. -/
theorem ascii_mem_encode {cs : List Char} {b : UInt8} (hb : b.toNat < 0x80)
    (h : b ∈ encode cs) : Char.ofNat b.toNat ∈ cs := by
  obtain ⟨c, hc, hbc⟩ := List.mem_flatMap.mp h
  rcases Nat.lt_or_ge c.toNat 0x80 with hlt | hge
  · rw [encodeChar_ascii hlt, List.mem_singleton] at hbc
    rw [hbc, UInt8.toNat_ofNat_of_lt' (by unfold UInt8.size; omega), Char.ofNat_toNat]
    exact hc
  · have := le_of_mem_encodeChar hge hbc
    omega

/-- Bytes of a text that a byte below 128 follows are those of a text. -/
theorem exists_encode_of_append {cs : List Char} {b : UInt8} (hb : b.toNat < 0x80) {x y : Bytes}
    (h : encode cs = x ++ b :: y) : ∃ ds, x = encode ds := by
  induction cs generalizing x with
  | nil => exact absurd h.symm (List.append_ne_nil_of_right_ne_nil _ (List.cons_ne_nil _ _))
  | cons c cs ih =>
    rw [encode_cons] at h
    rcases List.append_eq_append_iff.mp h with ⟨z, rfl, hrest⟩ | ⟨z, hchar, hrest⟩
    · obtain ⟨ds, rfl⟩ := ih hrest
      exact ⟨c :: ds, rfl⟩
    · cases z with
      | nil =>
        rw [List.append_nil] at hchar
        exact ⟨[c], by rw [← hchar, encode_cons, encode_nil, List.append_nil]⟩
      | cons a z =>
        -- the byte is part of the character, which is then this byte
        obtain ⟨rfl, -⟩ := List.cons.inj hrest
        have hmem : b ∈ String.utf8EncodeChar c := by
          rw [hchar]
          exact List.mem_append_right _ List.mem_cons_self
        have hlt : c.toNat < 0x80 := Nat.lt_of_not_le fun hge =>
          Nat.not_lt.mpr (le_of_mem_encodeChar hge hmem) hb
        rw [encodeChar_ascii hlt] at hchar
        obtain ⟨rfl, -⟩ := List.append_eq_singleton_iff.mp hchar.symm |>.resolve_right
          fun ⟨_, hnil⟩ => List.cons_ne_nil _ _ hnil
        exact ⟨[], rfl⟩

/-- A byte below 128 cuts a text into two. -/
theorem exists_encode_of_cut {cs : List Char} {c : Char} (hc : c.toNat < 0x80) {x y : Bytes}
    (h : encode cs = x ++ UInt8.ofNat c.toNat :: y) :
    ∃ ds es, x = encode ds ∧ y = encode es ∧ cs = ds ++ c :: es := by
  have hbyte : (UInt8.ofNat c.toNat).toNat = c.toNat :=
    UInt8.toNat_ofNat_of_lt' (by unfold UInt8.size; omega)
  obtain ⟨ds, rfl⟩ := exists_encode_of_append (by rw [hbyte]; exact hc) h
  have hcons : UInt8.ofNat c.toNat :: y = encode [c] ++ y := by
    rw [encode_cons, encodeChar_ascii hc]
    rfl
  rw [hcons, ← List.append_assoc, ← encode_append] at h
  obtain ⟨es, rfl, rfl⟩ := exists_of_encode_append h
  exact ⟨ds, es, rfl, rfl, by rw [List.append_assoc]; rfl⟩

/-! ## Bytes that are read -/

theorem val_ofNat {n : Nat} (h : n < 0xD800 ∨ 0xDFFF < n ∧ n < 0x110000) :
    (Char.ofNat n).val.toNat = n := by
  have hvalid : n.isValidChar := h
  rw [Char.ofNat, dif_pos hvalid]
  rfl

theorem isContinuation_iff {b : UInt8} :
    isContinuation b = true ↔ 0x80 ≤ b.toNat ∧ b.toNat ≤ 0xBF := by
  rw [isContinuation, Bool.and_eq_true, decide_eq_true_eq, decide_eq_true_eq,
    UInt8.le_iff_toNat_le, UInt8.le_iff_toNat_le]
  rfl

theorem ofNat_eq {b : UInt8} {n : Nat} (h : n = b.toNat) : UInt8.ofNat n = b := by
  rw [h, UInt8.ofNat_toNat]

theorem encodeChar_one {a : UInt8} (ha : a.toNat < 0x80) :
    String.utf8EncodeChar (Char.ofNat a.toNat) = [a] := by
  unfold String.utf8EncodeChar
  rw [val_ofNat (by omega)]
  dsimp only
  rw [if_pos (by omega), UInt8.ofNat_toNat]

theorem encodeChar_two {a b : UInt8} (ha : 0xC2 ≤ a.toNat) (ha' : a.toNat < 0xE0)
    (hb : isContinuation b = true) :
    String.utf8EncodeChar (Char.ofNat (a.toNat % 32 * 64 + payload b)) = [a, b] := by
  obtain ⟨hb, hb'⟩ := isContinuation_iff.mp hb
  unfold payload String.utf8EncodeChar
  rw [val_ofNat (by omega)]
  dsimp only
  rw [if_neg (by omega), if_pos (by omega), ofNat_eq (by omega : _ = a.toNat),
    ofNat_eq (by omega : _ = b.toNat)]

theorem encodeChar_three {a b c : UInt8} (ha : 0xE0 ≤ a.toNat) (ha' : a.toNat < 0xF0)
    (hb : isSecondOfThree a b = true) (hc : isContinuation c = true) :
    String.utf8EncodeChar
      (Char.ofNat (a.toNat % 16 * 4096 + payload b * 64 + payload c)) = [a, b, c] := by
  obtain ⟨hc, hc'⟩ := isContinuation_iff.mp hc
  have hb : 0x80 ≤ b.toNat ∧ b.toNat ≤ 0xBF ∧ (a.toNat = 0xE0 → 0xA0 ≤ b.toNat) ∧
      (a.toNat = 0xED → b.toNat ≤ 0x9F) := by
    unfold isSecondOfThree at hb
    simp only [beq_iff_eq, ← UInt8.toNat_inj, UInt8.le_iff_toNat_le, Bool.and_eq_true,
      decide_eq_true_eq, UInt8.reduceToNat] at hb
    split_ifs at hb <;> simp only [UInt8.reduceToNat] at hb <;> omega
  unfold payload String.utf8EncodeChar
  rw [val_ofNat (by omega)]
  dsimp only
  rw [if_neg (by omega), if_neg (by omega), if_pos (by omega), ofNat_eq (by omega : _ = a.toNat),
    ofNat_eq (by omega : _ = b.toNat), ofNat_eq (by omega : _ = c.toNat)]

theorem encodeChar_four {a b c d : UInt8} (ha : 0xF0 ≤ a.toNat) (ha' : a.toNat < 0xF5)
    (hb : isSecondOfFour a b = true) (hc : isContinuation c = true)
    (hd : isContinuation d = true) :
    String.utf8EncodeChar (Char.ofNat
      (a.toNat % 8 * 262144 + payload b * 4096 + payload c * 64 + payload d)) =
      [a, b, c, d] := by
  obtain ⟨hc, hc'⟩ := isContinuation_iff.mp hc
  obtain ⟨hd, hd'⟩ := isContinuation_iff.mp hd
  have hb : 0x80 ≤ b.toNat ∧ b.toNat ≤ 0xBF ∧ (a.toNat = 0xF0 → 0x90 ≤ b.toNat) ∧
      (a.toNat = 0xF4 → b.toNat ≤ 0x8F) := by
    unfold isSecondOfFour at hb
    simp only [beq_iff_eq, ← UInt8.toNat_inj, UInt8.le_iff_toNat_le, Bool.and_eq_true,
      decide_eq_true_eq, UInt8.reduceToNat] at hb
    split_ifs at hb <;> simp only [UInt8.reduceToNat] at hb <;> omega
  unfold payload String.utf8EncodeChar
  rw [val_ofNat (by omega)]
  dsimp only
  rw [if_neg (by omega), if_neg (by omega), if_neg (by omega), ofNat_eq (by omega : _ = a.toNat),
    ofNat_eq (by omega : _ = b.toNat), ofNat_eq (by omega : _ = c.toNat),
    ofNat_eq (by omega : _ = d.toNat)]

/-- A character that is read is the one that the bytes before the rest spell. -/
theorem encodeChar_of_step {a : UInt8} {bs rest : Bytes} {c : Char}
    (h : step a bs = .char c rest) : String.utf8EncodeChar c ++ rest = a :: bs := by
  unfold step at h
  simp only [UInt8.lt_iff_toNat_lt, UInt8.reduceToNat] at h
  split_ifs at h with h1 h2 h3 h4 h5
  · cases h
    rw [encodeChar_one h1]
    rfl
  · split at h
    · cases h
    · split at h <;> cases h
      rw [encodeChar_two (by omega) h3 ‹_›]
      rfl
  · split at h
    · cases h
    · split at h
      · split at h
        · cases h
        · split at h <;> cases h
          rw [encodeChar_three (by omega) h4 ‹_› ‹_›]
          rfl
      · cases h
  · split at h
    · cases h
    · split at h
      · split at h
        · cases h
        · split at h
          · split at h
            · cases h
            · split at h <;> cases h
              rw [encodeChar_four (by omega) h5 ‹_› ‹_› ‹_›]
              rfl
          · cases h
      · cases h

theorem encode_of_decodeFrom {offset : Nat} {bs : Bytes} {cs : List Char}
    (h : decodeFrom offset bs = .ok cs) : encode cs = bs := by
  fun_induction decodeFrom offset bs generalizing cs with
  | case1 =>
    cases h
    rfl
  | case2 offset a bs c rest hstep ih =>
    obtain ⟨ds, hds, rfl⟩ := Fallible.map_eq_ok.mp h
    rw [encode_cons, ih hds, encodeChar_of_step hstep]
  | case3 => cases h
  | case4 => cases h

theorem decode_eq_ok {bs : Bytes} {cs : List Char} : decode bs = .ok cs ↔ bs = encode cs := by
  constructor
  · exact fun h => (encode_of_decodeFrom h).symm
  · rintro rfl
    exact decode_encode cs

theorem decodeString_eq_ok {bs : Bytes} {s : String} :
    decodeString bs = .ok s ↔ bs = encodeString s := by
  constructor
  · intro h
    obtain ⟨cs, hcs, rfl⟩ := Fallible.map_eq_ok.mp h
    rw [decode_eq_ok.mp hcs, encodeString, String.toList_ofList]
  · rintro rfl
    exact decodeString_encodeString s

/-! ## The last character -/

/-- A text whose bytes end with one below 128 ends with the character that it is. -/
theorem getLast?_of_decodeFrom {offset : Nat} {bs : Bytes} {cs : List Char}
    (h : decodeFrom offset bs = .ok cs) {b : UInt8} (hb : b.toNat < 0x80)
    (hlast : bs.getLast? = some b) : cs.getLast? = some (Char.ofNat b.toNat) := by
  rw [← encode_of_decodeFrom h] at hlast
  rcases List.eq_nil_or_concat cs with rfl | ⟨init, c, rfl⟩
  · cases hlast
  · rw [List.concat_eq_append] at hlast ⊢
    obtain ⟨a, tail, hbytes, -⟩ := step_encodeChar c
    have hc : (String.utf8EncodeChar c).getLast? = some b := by
      rwa [encode_append, encode_cons, encode_nil, List.append_nil, List.getLast?_append, hbytes,
        List.getLast?_cons, Option.some_or, ← List.getLast?_cons, ← hbytes] at hlast
    have hlt : c.toNat < 0x80 := Nat.lt_of_not_le fun hge =>
      Nat.not_lt.mpr (le_of_mem_encodeChar hge (List.mem_of_getLast? hc)) hb
    rw [encodeChar_ascii hlt] at hc
    obtain rfl : UInt8.ofNat c.toNat = b := Option.some.inj hc
    rw [List.getLast?_concat, UInt8.toNat_ofNat_of_lt' (by unfold UInt8.size; omega),
      Char.ofNat_toNat]

/-! ## The order of texts -/

/-- The digits of a number to the base 64, of which the first one has no bound. -/
theorem exists_digits (n : Nat) : ∃ p q r s : Nat, q < 64 ∧ r < 64 ∧ s < 64 ∧
    n = ((p * 64 + q) * 64 + r) * 64 + s ∧ n / 262144 = p ∧ n / 4096 % 64 = q ∧
      n / 64 % 64 = r ∧ n % 64 = s := by
  refine ⟨n / 262144, n / 4096 % 64, n / 64 % 64, n % 64, ?_, ?_, ?_, ?_, rfl, rfl, rfl, rfl⟩
  all_goals omega

theorem four_bytes_lt {n m : Nat} (h : n < m) (hm : m < 0x110000) (x y : Bytes) :
    UInt8.ofNat (n / 262144 % 8 + 0xF0) :: UInt8.ofNat (n / 4096 % 64 + 0x80) ::
        UInt8.ofNat (n / 64 % 64 + 0x80) :: UInt8.ofNat (n % 64 + 0x80) :: x <
      UInt8.ofNat (m / 262144 % 8 + 0xF0) :: UInt8.ofNat (m / 4096 % 64 + 0x80) ::
        UInt8.ofNat (m / 64 % 64 + 0x80) :: UInt8.ofNat (m % 64 + 0x80) :: y := by
  obtain ⟨p, q, r, s, hq, hr, hs, hn, e₁, e₂, e₃, e₄⟩ := exists_digits n
  obtain ⟨p', q', r', s', hq', hr', hs', hm', e₁', e₂', e₃', e₄'⟩ := exists_digits m
  rw [e₁, e₂, e₃, e₄, e₁', e₂', e₃', e₄']
  simp only [List.cons_lt_cons_iff, UInt8.lt_iff_toNat_lt, ← UInt8.toNat_inj,
    UInt8.toNat_ofNat']
  -- with the digits known, the quotients would only be in the way
  clear e₁ e₂ e₃ e₄ e₁' e₂' e₃' e₄'
  omega

/-- The bytes of a character come before those of a later one, whatever follows. -/
theorem encodeChar_append_lt {c d : Char} (h : c < d) (x y : Bytes) :
    String.utf8EncodeChar c ++ x < String.utf8EncodeChar d ++ y := by
  have hlt : c.val.toNat < d.val.toNat := h
  have hd : d.val.toNat < 0xD800 ∨ 0xDFFF < d.val.toNat ∧ d.val.toNat < 0x110000 := d.valid
  unfold String.utf8EncodeChar
  generalize c.val.toNat = n at hlt
  generalize d.val.toNat = m at hlt hd
  dsimp only
  by_cases hfour : 0xFFFF < n
  · rw [if_neg (by omega), if_neg (by omega), if_neg (by omega), if_neg (by omega),
      if_neg (by omega), if_neg (by omega)]
    exact four_bytes_lt hlt (by omega) x y
  -- two characters of different sizes differ in the range of their first bytes
  split_ifs
  all_goals
    simp only [List.cons_append, List.nil_append, List.cons_lt_cons_iff, UInt8.lt_iff_toNat_lt,
      ← UInt8.toNat_inj, UInt8.toNat_ofNat']
    omega

theorem append_lt_append_left (z : Bytes) {x y : Bytes} (h : x < y) : z ++ x < z ++ y := by
  induction z with
  | nil => exact h
  | cons b z ih => exact List.cons_lt_cons_iff.mpr (Or.inr ⟨rfl, ih⟩)

/-- Texts come in the order of their bytes. -/
theorem encode_lt_encode {cs ds : List Char} (h : cs < ds) : encode cs < encode ds := by
  induction cs generalizing ds with
  | nil =>
    cases ds with
    | nil => exact absurd h (List.not_lt_nil [])
    | cons d ds =>
      obtain ⟨a, tail, hbytes, -⟩ := step_encodeChar d
      rw [encode_cons, hbytes]
      exact List.nil_lt_cons _ _
  | cons c cs ih =>
    cases ds with
    | nil => exact absurd h (List.not_lt_nil _)
    | cons d ds =>
      rw [encode_cons, encode_cons]
      rcases List.cons_lt_cons_iff.mp h with hlt | ⟨rfl, hlt⟩
      · exact encodeChar_append_lt hlt _ _
      · exact append_lt_append_left _ (ih hlt)

end DavCourier.Utf8
