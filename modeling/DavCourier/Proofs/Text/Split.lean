import DavCourier.Text.Split
import Mathlib.Data.List.Basic
import Mathlib.Data.List.TakeDrop
import Mathlib.Data.List.TakeWhile

/-!
# Cutting texts

Where a text is cut when another one follows : before the first character of a kind
(`takeWhile_append_of_head`, `dropWhile_append_of_head`, and `cut_append_of_head` when the text has
no such character), at the first separator (`cut_append_sep`), or at every separator
(`splitAt_append`, `exists_last_piece`, `length_splitAt`). The first of these cut bytes as they cut
characters.
-/

namespace DavCourier.Text

/-! ## Before the first character of a kind -/

section

variable {α : Type} {p : α → Bool} {r : List α}

theorem takeWhile_append_of_head (h : ∀ c ∈ r.head?, p c = false) (t : List α) :
    (t ++ r).takeWhile p = t.takeWhile p := by
  induction t with
  | nil =>
    cases r with
    | nil => rfl
    | cons c r => exact List.takeWhile_cons_of_neg (by rw [h c rfl]; exact Bool.false_ne_true)
  | cons c t ih => rw [List.cons_append, List.takeWhile_cons, List.takeWhile_cons, ih]

theorem dropWhile_append_of_head (h : ∀ c ∈ r.head?, p c = false) (t : List α) :
    (t ++ r).dropWhile p = t.dropWhile p ++ r := by
  induction t with
  | nil =>
    cases r with
    | nil => rfl
    | cons c r => exact List.dropWhile_cons_of_neg (by rw [h c rfl]; exact Bool.false_ne_true)
  | cons c t ih =>
    rw [List.cons_append, List.dropWhile_cons, List.dropWhile_cons, ih]
    split <;> rfl

theorem cut_append_of_head {t : List α} (ht : ∀ c ∈ t, p c = true)
    (h : ∀ c ∈ r.head?, p c = false) :
    (t ++ r).takeWhile p = t ∧ (t ++ r).dropWhile p = r := by
  rw [takeWhile_append_of_head h, dropWhile_append_of_head h, List.takeWhile_eq_self_iff.mpr ht,
    List.dropWhile_eq_nil_iff.mpr ht]
  exact ⟨rfl, rfl⟩

theorem cut_append_sep {sep : α} (hp : ∀ c, p c = true ↔ c ≠ sep) {t : List α} (h : sep ∉ t) :
    (t ++ sep :: r).takeWhile p = t ∧ (t ++ sep :: r).dropWhile p = sep :: r := by
  refine cut_append_of_head (fun c hc => (hp c).mpr (ne_of_mem_of_not_mem hc h)) ?_
  rintro c ⟨⟩
  rw [← Bool.not_eq_true, hp]
  exact not_not_intro rfl

end

theorem head?_dropWhile_eq {p : Char → Bool} {cs : List Char} :
    ∀ c ∈ (cs.dropWhile p).head?, p c = false := by
  intro c hc
  have hnot := List.head?_dropWhile_not p cs
  rw [Option.mem_def.mp hc] at hnot
  exact hnot

/-! ## At the separators -/

theorem splitAt_append (sep : Char) (a b : List Char) :
    splitAt sep (a ++ sep :: b) = splitAt sep a ++ splitAt sep b := by
  induction a with
  | nil => exact splitAt_sep_cons sep b
  | cons c a ih =>
    by_cases hc : c = sep
    · subst hc
      rw [List.cons_append, splitAt_sep_cons, splitAt_sep_cons, ih]
      rfl
    · obtain ⟨piece, pieces, hs⟩ := List.exists_cons_of_ne_nil (splitAt_ne_nil sep a)
      simp [splitAt, hc, ih, hs]

/-- There is one piece more than there are separators. -/
theorem length_splitAt (sep : Char) (cs : List Char) :
    (splitAt sep cs).length = cs.count sep + 1 := by
  induction cs with
  | nil => rfl
  | cons c cs ih =>
    by_cases hc : c = sep
    · subst hc
      rw [splitAt_sep_cons, List.length_cons, ih, List.count_cons_self]
    · obtain ⟨piece, pieces, hs⟩ := List.exists_cons_of_ne_nil (splitAt_ne_nil sep cs)
      rw [List.count_cons_of_ne hc, ← ih, hs]
      simp [splitAt, hc, hs]

theorem mem_join {sep c : Char} {pieces : List (List Char)} (h : c ∈ join sep pieces) :
    c = sep ∨ ∃ piece ∈ pieces, c ∈ piece := by
  induction pieces with
  | nil => cases h
  | cons piece pieces ih =>
    cases pieces with
    | nil => exact Or.inr ⟨piece, List.mem_cons_self, h⟩
    | cons next rest =>
      rw [join_cons _ _ (List.cons_ne_nil _ _), List.mem_append, List.mem_cons] at h
      rcases h with h | h | h
      · exact Or.inr ⟨piece, List.mem_cons_self, h⟩
      · exact Or.inl h
      · exact (ih h).imp_right fun ⟨p, hp, hc⟩ => ⟨p, List.mem_cons_of_mem _ hp, hc⟩

/-- The last place of a character in a text. -/
theorem exists_last_of_mem {sep : Char} {cs : List Char} (h : sep ∈ cs) :
    ∃ before last, cs = before ++ sep :: last ∧ sep ∉ last := by
  obtain ⟨last, before, hcs, hlast⟩ := List.eq_append_cons_of_mem (List.mem_reverse.mpr h)
  refine ⟨before.reverse, last.reverse, ?_, mt List.mem_reverse.mp hlast⟩
  rw [← List.reverse_reverse cs, hcs, List.reverse_append, List.reverse_cons, List.append_assoc,
    List.singleton_append]

/-- The last piece of a text, which grows with the text up to the next separator. It is empty if
the text ends with a separator, or is empty itself. -/
theorem exists_last_piece (sep : Char) (cs : List Char) : ∃ init last, sep ∉ last ∧
    (last = [] ↔ (sep :: cs).getLast? = some sep) ∧
      ∀ more, sep ∉ more → splitAt sep (cs ++ more) = init ++ [last ++ more] := by
  obtain ⟨before, last, hcs, hlast⟩ :=
    exists_last_of_mem (List.mem_cons_self : sep ∈ sep :: cs)
  obtain ⟨first, init, hinit⟩ := List.exists_cons_of_ne_nil (splitAt_ne_nil sep before)
  refine ⟨init, last, hlast, ?_, fun more hmore => ?_⟩
  · rw [hcs, List.getLast?_append_cons]
    cases last with
    | nil => exact iff_of_true rfl rfl
    | cons c last =>
      refine iff_of_false (List.cons_ne_nil _ _) fun h => hlast ?_
      rw [List.getLast?_cons_cons] at h
      exact List.mem_of_getLast? h
  · have hsplit := splitAt_append sep before (last ++ more)
    have hpiece : sep ∉ last ++ more := fun h => (List.mem_append.mp h).elim hlast hmore
    have hwhole : before ++ sep :: (last ++ more) = sep :: (cs ++ more) := by
      rw [← List.cons_append, ← List.append_assoc, ← hcs, List.cons_append]
    rw [hwhole, splitAt_sep_cons, hinit, splitAt_eq_singleton hpiece, List.cons_append] at hsplit
    exact (List.cons.inj hsplit).2

end DavCourier.Text
