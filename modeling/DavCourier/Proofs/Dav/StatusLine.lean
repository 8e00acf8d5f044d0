import DavCourier.Dav.Resource
import DavCourier.Proofs.Text.Blank
import DavCourier.Proofs.Text.Numeral

/-!
# What a status line says

A status line states a status if its second word is a run of digits for a number below 2^16
(`States`); any other line states none, which is read as zero (`IsStatusOf`). The second word may
also have a plus sign before its digits (`StatesSigned`), and then the number is read all the same.
`statusOfLine_eq_iff` says which status is read from any line, and that it is the stated one unless
there is such a sign.
-/

namespace DavCourier.Dav

open Numeral (IsDecimal)

/-- The word comes after the first word of the text. -/
def IsSecondWord (word cs : List Char) : Prop :=
  ∃ first rest rest', Text.BeginsWith cs first rest ∧ Text.BeginsWith rest word rest'

theorem isSecondWord_iff {word cs : List Char} :
    IsSecondWord word cs ↔ (Text.words cs)[1]? = some word := by
  constructor
  · rintro ⟨first, rest, rest', hfirst, hword⟩
    rw [hfirst.words_eq, hword.words_eq]
    rfl
  · intro h
    obtain ⟨first, more, hwords⟩ : ∃ first more, Text.words cs = first :: word :: more := by
      match hwords : Text.words cs with
      | [] => simp [hwords] at h
      | [_] => simp [hwords] at h
      | first :: second :: more =>
        simp only [hwords, List.getElem?_cons_succ, List.getElem?_cons_zero,
          Option.some.injEq] at h
        exact ⟨first, more, by rw [h]⟩
    obtain ⟨rest, hfirst, hmore⟩ := Text.words_eq_cons_iff.mp hwords
    obtain ⟨rest', hword, -⟩ := Text.words_eq_cons_iff.mp hmore
    exact ⟨first, rest, rest', hfirst, hword⟩

/-- The second word of the line is a run of digits for the number. -/
def States (line : String) (n : Nat) : Prop :=
  ∃ word, IsSecondWord word line.toList ∧ IsDecimal word n ∧ n ≤ 65535

/-- The second word of the line is a run of digits for the number, after a plus sign. -/
def StatesSigned (line : String) (n : Nat) : Prop :=
  ∃ digits, IsSecondWord ('+' :: digits) line.toList ∧ IsDecimal digits n ∧ n ≤ 65535

/-- The status that the line states; zero if it states none. -/
def IsStatusOf (line : String) (code : UInt16) : Prop :=
  States line code.toNat ∨ code = 0 ∧ ¬ ∃ n, States line n

variable {line : String} {m n : Nat}

/-- The number that is read from the second word, if it has one. -/
theorem bind_decimal?_eq_some_iff :
    (Text.words line.toList)[1]?.bind (Numeral.decimal? 65535) = some n ↔
      States line n ∨ StatesSigned line n := by
  simp only [Option.bind_eq_some_iff, ← isSecondWord_iff, Numeral.decimal?_eq_some_iff]
  constructor
  · rintro ⟨word, hword, hle, digits, rfl | rfl, hdigits⟩
    · exact Or.inl ⟨_, hword, hdigits, hle⟩
    · exact Or.inr ⟨_, hword, hdigits, hle⟩
  · rintro (⟨word, hword, hdigits, hle⟩ | ⟨digits, hword, hdigits, hle⟩)
    · exact ⟨word, hword, hle, word, Or.inl rfl, hdigits⟩
    · exact ⟨_, hword, hle, digits, Or.inr rfl, hdigits⟩

/-- No line states a status both ways. -/
theorem StatesSigned.not_states (h : StatesSigned line m) : ¬ States line n := by
  obtain ⟨digits, hsigned, -⟩ := h
  rintro ⟨word, hword, hdigits, -⟩
  obtain rfl : '+' :: digits = word :=
    Option.some.inj ((isSecondWord_iff.mp hsigned).symm.trans (isSecondWord_iff.mp hword))
  exact absurd (hdigits.isDigit '+' List.mem_cons_self) (by decide)

theorem toNat_statusOfLine (h : States line n ∨ StatesSigned line n) :
    (statusOfLine line).toNat = n := by
  have hle : n ≤ 65535 := by
    rcases h with ⟨_, _, _, hle⟩ | ⟨_, _, _, hle⟩ <;> exact hle
  rw [statusOfLine, bind_decimal?_eq_some_iff.mpr h]
  exact UInt16.toNat_ofNat_of_lt' (Nat.lt_of_le_of_lt hle (by decide))

theorem statusOfLine_eq_zero (h : ¬ ∃ n, States line n ∨ StatesSigned line n) :
    statusOfLine line = 0 := by
  cases hread : (Text.words line.toList)[1]?.bind (Numeral.decimal? 65535) with
  | none => rw [statusOfLine, hread]
  | some n => exact absurd ⟨n, bind_decimal?_eq_some_iff.mp hread⟩ h

theorem eq_statusOfLine_iff {code : UInt16} : statusOfLine line = code ↔
    States line code.toNat ∨ StatesSigned line code.toNat ∨
      code = 0 ∧ ¬ ∃ n, States line n ∨ StatesSigned line n := by
  constructor
  · rintro rfl
    by_cases h : ∃ n, States line n ∨ StatesSigned line n
    · obtain ⟨n, hn⟩ := h
      rw [toNat_statusOfLine hn, ← or_assoc]
      exact Or.inl hn
    · exact Or.inr (Or.inr ⟨statusOfLine_eq_zero h, h⟩)
  · rintro (h | h | ⟨rfl, h⟩)
    · exact UInt16.toNat_inj.mp (toNat_statusOfLine (Or.inl h))
    · exact UInt16.toNat_inj.mp (toNat_statusOfLine (Or.inr h))
    · exact statusOfLine_eq_zero h

theorem isStatusOf_statusOfLine_iff :
    IsStatusOf line (statusOfLine line) ↔ ¬ ∃ n, 0 < n ∧ StatesSigned line n := by
  constructor
  · rintro (h | ⟨hzero, -⟩) ⟨n, hpos, hsigned⟩
    · exact hsigned.not_states h
    · have hn : (statusOfLine line).toNat = n := toNat_statusOfLine (Or.inr hsigned)
      rw [hzero] at hn
      exact Nat.ne_of_lt hpos hn
  · intro hunsigned
    rcases eq_statusOfLine_iff.mp (rfl : statusOfLine line = _) with h | h | ⟨hzero, hnone⟩
    · exact Or.inl h
    · have hzero : (statusOfLine line).toNat = 0 := by
        by_contra hpos
        exact hunsigned ⟨_, Nat.pos_of_ne_zero hpos, h⟩
      exact Or.inr ⟨UInt16.toNat_inj.mp hzero, fun ⟨n, hn⟩ => h.not_states hn⟩
    · exact Or.inr ⟨hzero, fun ⟨n, hn⟩ => hnone ⟨n, Or.inl hn⟩⟩

/-- The status of any line is the number in its second word, with or without a plus sign, or zero.
It is what the line states if and only if no plus sign stands before a number that is not zero. -/
theorem statusOfLine_eq_iff (line : String) :
    (∀ code, statusOfLine line = code ↔ States line code.toNat ∨ StatesSigned line code.toNat ∨
      code = 0 ∧ ¬ ∃ n, States line n ∨ StatesSigned line n) ∧
    (IsStatusOf line (statusOfLine line) ↔ ¬ ∃ n, 0 < n ∧ StatesSigned line n) :=
  ⟨fun _ => eq_statusOfLine_iff, isStatusOf_statusOfLine_iff⟩

/-- A status is read after a plus sign, where the line states none. -/
theorem not_isStatusOf_signed : statusOfLine "HTTP/1.1 +200 OK" = 200 ∧
    ¬ IsStatusOf "HTTP/1.1 +200 OK" (statusOfLine "HTTP/1.1 +200 OK") := by
  have hsecond : IsSecondWord ('+' :: "200".toList) "HTTP/1.1 +200 OK".toList :=
    isSecondWord_iff.mpr (by decide)
  have hsigned : StatesSigned "HTTP/1.1 +200 OK" 200 :=
    ⟨_, hsecond, Numeral.value?_eq_some_iff.mp (by decide), by decide⟩
  refine ⟨by decide, ?_⟩
  rintro (h | ⟨hzero, -⟩)
  · exact hsigned.not_states h
  · exact absurd hzero (by decide)

end DavCourier.Dav
