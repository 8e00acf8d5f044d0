/-!
# Splitting and joining at a separator

`splitAt sep` cuts a text at every separator and keeps the empty pieces; `join sep` puts
the pieces together again (`join_splitAt`). A piece holds characters of the text
(`mem_of_mem_splitAt`) but no separator (`not_mem_of_mem_splitAt`), and pieces without
separators survive the way through the joined text (`splitAt_join`).
-/

namespace DavCourier.Text

/-- The pieces between the separators; one more than there are separators. -/
def splitAt (sep : Char) : List Char → List (List Char)
  | [] => [[]]
  | c :: cs =>
    if c = sep then [] :: splitAt sep cs
    else
      match splitAt sep cs with
      | [] => [[c]]
      | piece :: pieces => (c :: piece) :: pieces

/-- The pieces with a separator between each two. -/
def join (sep : Char) : List (List Char) → List Char
  | [] => []
  | [piece] => piece
  | piece :: pieces => piece ++ sep :: join sep pieces

theorem splitAt_ne_nil (sep : Char) (cs : List Char) : splitAt sep cs ≠ [] := by
  cases cs with
  | nil => simp [splitAt]
  | cons c cs =>
    unfold splitAt
    split
    · simp
    · split <;> simp

@[simp] theorem splitAt_sep_cons (sep : Char) (cs : List Char) :
    splitAt sep (sep :: cs) = [] :: splitAt sep cs := by
  simp [splitAt]

theorem join_cons (sep : Char) (piece : List Char) {pieces : List (List Char)}
    (h : pieces ≠ []) : join sep (piece :: pieces) = piece ++ sep :: join sep pieces := by
  cases pieces with
  | nil => exact absurd rfl h
  | cons p ps => rfl

theorem join_splitAt (sep : Char) (cs : List Char) : join sep (splitAt sep cs) = cs := by
  induction cs with
  | nil => rfl
  | cons c cs ih =>
    by_cases hc : c = sep
    · subst hc
      rw [splitAt_sep_cons, join_cons _ _ (splitAt_ne_nil _ _), ih]
      rfl
    · cases hs : splitAt sep cs with
      | nil => exact absurd hs (splitAt_ne_nil sep cs)
      | cons piece pieces =>
        have h : splitAt sep (c :: cs) = (c :: piece) :: pieces := by
          simp [splitAt, hc, hs]
        rw [h]
        rw [hs] at ih
        cases pieces with
        | nil => simp_all [join]
        | cons p ps =>
          simp only [join] at ih ⊢
          simp [ih]

theorem not_mem_of_mem_splitAt {sep : Char} {cs piece : List Char}
    (h : piece ∈ splitAt sep cs) : sep ∉ piece := by
  induction cs generalizing piece with
  | nil => simp_all [splitAt]
  | cons c cs ih =>
    by_cases hc : c = sep
    · subst hc
      rw [splitAt_sep_cons] at h
      rcases List.mem_cons.mp h with rfl | h
      · simp
      · exact ih h
    · cases hs : splitAt sep cs with
      | nil => exact absurd hs (splitAt_ne_nil sep cs)
      | cons first rest =>
        have hcons : splitAt sep (c :: cs) = (c :: first) :: rest := by
          simp [splitAt, hc, hs]
        rw [hcons] at h
        rcases List.mem_cons.mp h with rfl | h
        · have h' : sep ∉ first := ih (by simp [hs])
          simp only [List.mem_cons, not_or]
          exact ⟨fun e => hc e.symm, h'⟩
        · exact ih (by simp [hs, h])

theorem mem_of_mem_splitAt {sep x : Char} {cs piece : List Char}
    (hp : piece ∈ splitAt sep cs) (hx : x ∈ piece) : x ∈ cs := by
  induction cs generalizing piece with
  | nil =>
    simp only [splitAt, List.mem_singleton] at hp
    subst hp
    simp at hx
  | cons c cs ih =>
    unfold splitAt at hp
    split at hp
    · rcases List.mem_cons.mp hp with rfl | hp
      · simp at hx
      · exact List.mem_cons_of_mem _ (ih hp hx)
    · cases hs : splitAt sep cs with
      | nil => exact absurd hs (splitAt_ne_nil sep cs)
      | cons first rest =>
        rw [hs] at hp ih
        rcases List.mem_cons.mp hp with rfl | hp
        · rcases List.mem_cons.mp hx with rfl | hx
          · exact List.mem_cons_self
          · exact List.mem_cons_of_mem _ (ih List.mem_cons_self hx)
        · exact List.mem_cons_of_mem _ (ih (List.mem_cons_of_mem _ hp) hx)

theorem splitAt_eq_singleton {sep : Char} {cs : List Char} (h : sep ∉ cs) :
    splitAt sep cs = [cs] := by
  induction cs with
  | nil => rfl
  | cons c cs ih =>
    simp only [List.mem_cons, not_or] at h
    simp [splitAt, ih h.2, Ne.symm h.1]

theorem splitAt_append_sep {sep : Char} {a : List Char} (h : sep ∉ a) (b : List Char) :
    splitAt sep (a ++ sep :: b) = a :: splitAt sep b := by
  induction a with
  | nil => simp
  | cons c a ih =>
    simp only [List.mem_cons, not_or] at h
    simp [splitAt, ih h.2, Ne.symm h.1]

theorem splitAt_join {sep : Char} {pieces : List (List Char)} (hne : pieces ≠ [])
    (h : ∀ p ∈ pieces, sep ∉ p) : splitAt sep (join sep pieces) = pieces := by
  induction pieces with
  | nil => exact absurd rfl hne
  | cons p ps ih =>
    cases ps with
    | nil => exact splitAt_eq_singleton (h p (by simp))
    | cons q qs =>
      rw [join_cons _ _ (by simp), splitAt_append_sep (h p (by simp)),
        ih (by simp) (fun r hr => h r (by simp [hr]))]

end DavCourier.Text
