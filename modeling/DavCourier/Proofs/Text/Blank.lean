import DavCourier.Proofs.Text.Split
import DavCourier.Text.Blank
import Mathlib.Data.List.DropRight

/-!
# Trimmed texts and words

Trimming a second time changes nothing (`trim_trim`). A word before a blank is the first word of
the text (`words_append`), and the first word is what the text begins with after its blanks
(`words_eq_cons_iff`).
-/

namespace DavCourier.Text

theorem dropTrailing_eq (p : Char → Bool) (cs : List Char) :
    dropTrailing p cs = cs.rdropWhile p := rfl

theorem trimChars_trimChars (cs : List Char) : trimChars (trimChars cs) = trimChars cs := by
  have hfront : (trimChars cs).dropWhile isBlank = trimChars cs := by
    rw [List.dropWhile_eq_self_iff]
    intro hpos
    obtain ⟨rest, hrest⟩ : trimChars cs <+: cs.dropWhile isBlank := by
      rw [trimChars, dropTrailing_eq]
      exact List.rdropWhile_prefix _ _
    have hpos' : 0 < (cs.dropWhile isBlank).length := by
      rw [← hrest, List.length_append]
      omega
    have hhead : (trimChars cs)[0] = (cs.dropWhile isBlank)[0] := by
      simp [← hrest, List.getElem_append_left hpos]
    rw [hhead]
    exact List.dropWhile_eq_self_iff.mp (List.dropWhile_idempotent isBlank cs) hpos'
  conv_lhs => rw [trimChars, hfront]
  rw [trimChars, dropTrailing_eq, dropTrailing_eq, List.rdropWhile_idempotent]

/-- A text without blanks at its ends is not trimmed. -/
theorem trimChars_eq_self {cs : List Char} (hhead : ∀ c ∈ cs.head?, isBlank c = false)
    (hlast : ∀ c ∈ cs.getLast?, isBlank c = false) : trimChars cs = cs := by
  have hfront : cs.dropWhile isBlank = cs := by
    cases cs with
    | nil => rfl
    | cons c cs => exact List.dropWhile_cons_of_neg (by simp [hhead c rfl])
  rw [trimChars, hfront, dropTrailing_eq, List.rdropWhile_eq_self_iff]
  intro hne
  simp [hlast _ (List.getLast?_eq_some_getLast hne)]

theorem trim_trim (s : String) : trim (trim s) = trim s := by
  unfold trim
  rw [String.toList_ofList, trimChars_trimChars]

theorem isBlank_of_isDigit {c : Char} (h : c.isDigit = true) : isBlank c = false := by
  have hrange : 0x30 ≤ c.toNat ∧ c.toNat ≤ 0x39 := Char.isDigit_iff_toNat.mp h
  simp [isBlank]
  omega

theorem wordsFrom_append {word w : List Char} (hw : ∀ c ∈ w, isBlank c = false)
    (cs : List Char) : wordsFrom word (w ++ cs) = wordsFrom (w.reverse ++ word) cs := by
  induction w generalizing word with
  | nil => rfl
  | cons c w ih =>
    rw [List.cons_append, wordsFrom, hw c List.mem_cons_self, if_neg Bool.false_ne_true,
      ih fun d hd => hw d (List.mem_cons_of_mem _ hd)]
    simp

theorem words_append {w : List Char} (hne : w ≠ []) (hw : ∀ c ∈ w, isBlank c = false)
    {b : Char} (hb : isBlank b = true) (cs : List Char) :
    words (w ++ b :: cs) = w :: words cs := by
  rw [words, wordsFrom_append hw, List.append_nil, wordsFrom, if_pos hb,
    if_neg (by simpa using hne), List.reverse_reverse, words]

theorem words_eq_singleton {w : List Char} (hne : w ≠ [])
    (hw : ∀ c ∈ w, isBlank c = false) : words w = [w] := by
  have h : wordsFrom [] (w ++ []) = wordsFrom (w.reverse ++ []) [] := wordsFrom_append hw []
  rw [List.append_nil, List.append_nil] at h
  rw [words, h, wordsFrom, if_neg (by simpa using hne), List.reverse_reverse]

/-! ## The words of a text -/

/-- After its blanks the text begins with the word, and goes on with `rest`. -/
structure BeginsWith (cs word rest : List Char) : Prop where
  ne_nil : word ≠ []
  not_blank : ∀ c ∈ word, isBlank c = false
  /-- The word goes on up to a blank or the end. -/
  blank_after : ∀ c ∈ rest.head?, isBlank c = true
  eq_append : ∃ blanks, (∀ c ∈ blanks, isBlank c = true) ∧ cs = blanks ++ (word ++ rest)

theorem words_blanks {blanks : List Char} (h : ∀ c ∈ blanks, isBlank c = true)
    (cs : List Char) : words (blanks ++ cs) = words cs := by
  induction blanks with
  | nil => rfl
  | cons b blanks ih =>
    rw [List.cons_append, words, wordsFrom, if_pos (h b List.mem_cons_self),
      if_pos List.isEmpty_nil]
    exact ih fun c hc => h c (List.mem_cons_of_mem _ hc)

theorem BeginsWith.words_eq {cs word rest : List Char} (h : BeginsWith cs word rest) :
    words cs = word :: words rest := by
  obtain ⟨blanks, hblanks, rfl⟩ := h.eq_append
  rw [words_blanks hblanks]
  cases rest with
  | nil => rw [List.append_nil, words_eq_singleton h.ne_nil h.not_blank]; rfl
  | cons b rest =>
    have hb : isBlank b = true := h.blank_after b rfl
    have hrest : words ([b] ++ rest) = words rest := words_blanks (by simpa using hb) rest
    rw [words_append h.ne_nil h.not_blank hb, ← hrest]
    rfl

/-- A text without a word is blank. -/
theorem exists_beginsWith {cs : List Char} (h : words cs ≠ []) :
    ∃ word rest, BeginsWith cs word rest := by
  have hcs : cs = cs.takeWhile isBlank ++ cs.dropWhile isBlank :=
    List.takeWhile_append_dropWhile.symm
  have hblanks : ∀ c ∈ cs.takeWhile isBlank, isBlank c = true :=
    fun c hc => List.mem_takeWhile_imp hc
  generalize cs.takeWhile isBlank = blanks at hcs hblanks
  cases htail : cs.dropWhile isBlank with
  | nil =>
    rw [hcs, htail, words_blanks hblanks] at h
    exact absurd rfl h
  | cons c tail =>
    have hc : isBlank c = false := head?_dropWhile_eq c (by rw [htail]; rfl)
    refine ⟨(c :: tail).takeWhile (!isBlank ·), (c :: tail).dropWhile (!isBlank ·), ?_, ?_, ?_,
      blanks, hblanks, ?_⟩
    · simp [hc]
    · intro d hd
      simpa using List.mem_takeWhile_imp hd
    · intro d hd
      simpa using head?_dropWhile_eq d hd
    · rw [List.takeWhile_append_dropWhile, ← htail]
      exact hcs

theorem words_eq_cons_iff {cs word : List Char} {more : List (List Char)} :
    words cs = word :: more ↔ ∃ rest, BeginsWith cs word rest ∧ words rest = more := by
  constructor
  · intro h
    obtain ⟨word', rest, hbegins⟩ := exists_beginsWith (h ▸ List.cons_ne_nil _ _)
    obtain ⟨rfl, hmore⟩ := List.cons.inj (hbegins.words_eq.symm.trans h)
    exact ⟨rest, hbegins, hmore⟩
  · rintro ⟨rest, hbegins, rfl⟩
    exact hbegins.words_eq

end DavCourier.Text
