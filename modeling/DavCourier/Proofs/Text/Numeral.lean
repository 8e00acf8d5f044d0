import DavCourier.Text.Numeral
import Mathlib.Data.Nat.Digits.Defs

/-!
# Numerals read back

`value?` reads the number that `decimal` wrote (`value?_decimal`), and so does `decimal?` if
the number is within its bound. What `value?` reads has only digits (`not_mem_of_value?`) : it reads
the number that a run of digits stands for (`value?_eq_some_iff`), and `decimal?` also reads one
after a plus sign (`decimal?_eq_some_iff`).
-/

namespace DavCourier.Numeral

theorem valueFrom?_append (base acc : Nat) (cs ds : List Char) :
    valueFrom? base acc (cs ++ ds) = (valueFrom? base acc cs).bind (valueFrom? base · ds) := by
  induction cs generalizing acc with
  | nil => rfl
  | cons c cs ih =>
    rw [List.cons_append, valueFrom?, valueFrom?]
    cases digit? base c with
    | none => rfl
    | some v => exact ih _

/-- More digits make no smaller number. -/
theorem le_of_valueFrom? {base acc n : Nat} {cs : List Char} (hbase : 0 < base)
    (h : valueFrom? base acc cs = some n) : acc ≤ n := by
  induction cs generalizing acc with
  | nil => exact Nat.le_of_eq (Option.some.inj h)
  | cons c cs ih =>
    rw [valueFrom?] at h
    cases hdigit : digit? base c with
    | none =>
      rw [hdigit] at h
      cases h
    | some v =>
      rw [hdigit] at h
      have hle : acc * base + v ≤ n := ih h
      have hmul : acc ≤ acc * base := Nat.le_mul_of_pos_right acc hbase
      omega

/-- A character that is no digit in base sixteen is none in a smaller base. -/
theorem digit?_eq_none {base : Nat} {c : Char} (hbase : base ≤ 16) (h : digit? 16 c = none) :
    digit? base c = none := by
  simp only [digit?, ite_eq_right_iff, reduceCtorEq, imp_false, Nat.not_lt] at h ⊢
  exact Nat.le_trans hbase h

theorem not_mem_of_valueFrom? {base acc n : Nat} {cs : List Char} {c : Char}
    (hc : digit? base c = none) (h : valueFrom? base acc cs = some n) : c ∉ cs := by
  induction cs generalizing acc with
  | nil => exact List.not_mem_nil
  | cons d cs ih =>
    rw [valueFrom?] at h
    cases hdigit : digit? base d with
    | none =>
      rw [hdigit] at h
      cases h
    | some v =>
      rw [hdigit] at h
      rw [List.mem_cons, not_or]
      refine ⟨?_, ih h⟩
      rintro rfl
      rw [hc] at hdigit
      cases hdigit

/-- A number has only digits. -/
theorem not_mem_of_value? {base n : Nat} {cs : List Char} {c : Char} (hc : digit? 16 c = none)
    (hbase : base ≤ 16) (h : value? base cs = some n) : c ∉ cs := by
  unfold value? at h
  split at h
  · cases h
  · exact not_mem_of_valueFrom? (digit?_eq_none hbase hc) h

theorem digit?_digitChar {n : Nat} (h : n < 10) : digit? 10 n.digitChar = some n := by
  have : ∀ k : Fin 10, digit? 10 k.val.digitChar = some k.val := by decide
  exact this ⟨n, h⟩

theorem valueFrom?_decimal (n : Nat) : valueFrom? 10 0 (decimal n) = some n := by
  induction n using Nat.strongRecOn with
  | ind n ih =>
    unfold decimal
    rcases Nat.lt_or_ge n 10 with hlt | hge
    · rw [Nat.toDigits_of_lt_base hlt, valueFrom?, digit?_digitChar hlt]
      simp [valueFrom?]
    · rw [Nat.toDigits_of_base_le (by decide) hge, valueFrom?_append]
      have hrest : valueFrom? 10 0 (Nat.toDigits 10 (n / 10)) = some (n / 10) :=
        ih (n / 10) (by omega)
      have hlast : digit? 10 (n % 10).digitChar = some (n % 10) :=
        digit?_digitChar (by omega)
      rw [hrest, Option.bind_some, valueFrom?, hlast]
      simp only [valueFrom?, Option.some.injEq]
      omega

theorem decimal_ne_nil (n : Nat) : decimal n ≠ [] :=
  Nat.toDigits_ne_nil

theorem value?_decimal (n : Nat) : value? 10 (decimal n) = some n := by
  have hne : (decimal n).isEmpty = false := by simp [decimal_ne_nil]
  rw [value?, hne, if_neg Bool.false_ne_true, valueFrom?_decimal]

theorem isDigit_of_mem_decimal {n : Nat} {c : Char} (h : c ∈ decimal n) : c.isDigit :=
  Nat.isDigit_of_mem_toDigits (by decide) (by decide) h

/-! ## The numbers that texts stand for -/

/-- The text is a run of one or more decimal digits, and the number is the one that they stand
for. -/
structure IsDecimal (cs : List Char) (n : Nat) : Prop where
  ne_nil : cs ≠ []
  isDigit : ∀ c ∈ cs, c.isDigit = true
  ofDigits_eq : Nat.ofDigits 10 (cs.map fun c => c.toNat - '0'.toNat).reverse = n

theorem digit?_eq_some_iff {c : Char} {v : Nat} :
    digit? 10 c = some v ↔ c.isDigit = true ∧ c.toNat - '0'.toNat = v := by
  have hdigit : c.isDigit = true ↔ 0x30 ≤ c.toNat ∧ c.toNat ≤ 0x39 := Char.isDigit_iff_toNat
  have hzero : '0'.toNat = 0x30 := rfl
  rw [hdigit, hzero]
  simp only [digit?, Bool.and_eq_true, decide_eq_true_eq, Option.ite_none_right_eq_some,
    Option.some.injEq]
  split_ifs <;> omega

theorem valueFrom?_eq_some_iff {acc n : Nat} {cs : List Char} : valueFrom? 10 acc cs = some n ↔
    (∀ c ∈ cs, c.isDigit = true) ∧ Nat.ofDigits 10
      (cs.map fun c => c.toNat - '0'.toNat).reverse + 10 ^ cs.length * acc = n := by
  induction cs generalizing acc with
  | nil => simp [valueFrom?]
  | cons c cs ih =>
    rw [List.map_cons, Nat.ofDigits_reverse_cons, List.length_map, List.length_cons, pow_succ,
      List.forall_mem_cons, valueFrom?]
    cases hdigit : digit? 10 c with
    | none =>
      refine iff_of_false nofun ?_
      rintro ⟨⟨hc, -⟩, -⟩
      rw [digit?_eq_some_iff.mpr ⟨hc, rfl⟩] at hdigit
      cases hdigit
    | some v =>
      obtain ⟨hc, rfl⟩ := digit?_eq_some_iff.mp hdigit
      dsimp only
      rw [ih, and_iff_right hc, mul_add, add_assoc, mul_assoc, add_comm (10 ^ cs.length * _),
        mul_comm acc]

theorem value?_eq_some_iff {cs : List Char} {n : Nat} : value? 10 cs = some n ↔ IsDecimal cs n := by
  have hfrom : valueFrom? 10 0 cs = some n ↔ (∀ c ∈ cs, c.isDigit = true) ∧
      Nat.ofDigits 10 (cs.map fun c => c.toNat - '0'.toNat).reverse = n := by
    rw [valueFrom?_eq_some_iff, mul_zero, add_zero]
  unfold value?
  split
  · next hempty => exact iff_of_false nofun fun h => h.ne_nil (List.isEmpty_iff.mp hempty)
  · next hempty =>
    rw [hfrom]
    exact ⟨fun ⟨hdigits, heq⟩ => ⟨fun hnil => hempty (List.isEmpty_iff.mpr hnil), hdigits, heq⟩,
      fun h => ⟨h.isDigit, h.ofDigits_eq⟩⟩

/-- A run of digits has no sign. -/
theorem IsDecimal.dropPlus_eq {cs : List Char} {n : Nat} (h : IsDecimal cs n) :
    dropPlus cs = cs := by
  unfold dropPlus
  split
  · exact absurd (h.isDigit '+' List.mem_cons_self) (by decide)
  · rfl

/-- A number with a bound is read from its digits, before which a plus sign may stand. -/
theorem decimal?_eq_some_iff {bound n : Nat} {cs : List Char} : decimal? bound cs = some n ↔
    n ≤ bound ∧ ∃ digits, (cs = digits ∨ cs = '+' :: digits) ∧ IsDecimal digits n := by
  have hdrop : (∃ digits, (cs = digits ∨ cs = '+' :: digits) ∧ IsDecimal digits n) ↔
      IsDecimal (dropPlus cs) n := by
    constructor
    · rintro ⟨digits, rfl | rfl, h⟩
      · rwa [h.dropPlus_eq]
      · exact h
    · intro h
      unfold dropPlus at h
      split at h
      · exact ⟨_, Or.inr rfl, h⟩
      · exact ⟨_, Or.inl rfl, h⟩
  rw [hdrop, ← value?_eq_some_iff, decimal?]
  cases value? 10 (dropPlus cs) with
  | none => simp
  | some m =>
    dsimp only
    rw [Option.ite_none_right_eq_some, Option.some.injEq]
    constructor
    · rintro ⟨hle, rfl⟩
      exact ⟨hle, rfl⟩
    · rintro ⟨hle, rfl⟩
      exact ⟨hle, rfl⟩

theorem isDecimal_decimal (n : Nat) : IsDecimal (decimal n) n :=
  value?_eq_some_iff.mp (value?_decimal n)

theorem decimal?_decimal {bound n : Nat} (h : n ≤ bound) :
    decimal? bound (decimal n) = some n :=
  decimal?_eq_some_iff.mpr ⟨h, decimal n, Or.inl rfl, isDecimal_decimal n⟩

/-- Zeros before a run of digits change nothing. -/
theorem isDecimal_padded (width n : Nat) : IsDecimal (padded width n) n := by
  have h := isDecimal_decimal n
  refine ⟨List.append_ne_nil_of_right_ne_nil _ h.ne_nil, fun c hc => ?_, ?_⟩
  · rcases List.mem_append.mp hc with hc | hc
    · rw [List.eq_of_mem_replicate hc]
      rfl
    · exact h.isDigit c hc
  · rw [padded, List.map_append, List.reverse_append, List.map_replicate, List.reverse_replicate,
      Nat.sub_self, Nat.ofDigits_append_replicate_zero, h.ofDigits_eq]

theorem length_padded {width n : Nat} (hwidth : 0 < width) (h : n < 10 ^ width) :
    (padded width n).length = width := by
  have hle : (decimal n).length ≤ width := Nat.toDigits_length 10 n width hwidth h
  rw [padded, List.length_append, List.length_replicate, Nat.sub_add_cancel hle]

end DavCourier.Numeral
