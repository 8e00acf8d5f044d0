import DavCourier.Local.Path
import DavCourier.Proofs.Text.Split
import Mathlib.Data.List.DropRight

/-!
# The directory that a path is written in

A written path goes by those names between its slashes that say something (`steps`). The path of the
directory that it is written in is the text before the last of them, so it goes by the same names
but the last one (`Encloses`, `encloses_of_enclosing?`). Only a path that goes by no name is written
in no directory : `steps_of_enclosing?_eq_none`.
-/

namespace DavCourier.Local

/-- The names that a written path goes by. -/
def steps (path : List Char) : List (List Char) :=
  (Text.splitAt '/' path).filter (!isIdle ·)

/-- The path ends with the last name that it goes by, if it goes by any. -/
def IsTrimmed (path : List Char) : Prop :=
  steps path = [] ∨
    ∃ init last, Text.splitAt '/' path = init ++ [last] ∧ isIdle last = false

variable {names rest : List (List Char)} {path outer : List Char}

/-! ## Names that say nothing -/

theorem dropIdle_eq (names : List (List Char)) : dropIdle names = names.rdropWhile isIdle := rfl

theorem filter_dropIdle (names : List (List Char)) :
    (dropIdle names).filter (!isIdle ·) = names.filter (!isIdle ·) := by
  induction names using List.reverseRecOn with
  | nil => rfl
  | append_singleton names name ih =>
    by_cases hidle : isIdle name = true
    · rw [dropIdle_eq, List.rdropWhile_concat_pos isIdle names name hidle, ← dropIdle_eq, ih]
      simp [hidle]
    · rw [dropIdle_eq, List.rdropWhile_concat_neg isIdle names name hidle]

theorem dropIdle_cases (names : List (List Char)) :
    dropIdle names = [] ∨ ∃ init last, dropIdle names = init ++ [last] ∧ isIdle last = false := by
  rcases List.eq_nil_or_concat (dropIdle names) with hnil | ⟨init, last, hconcat⟩
  · exact Or.inl hnil
  · rw [List.concat_eq_append] at hconcat
    refine Or.inr ⟨init, last, hconcat, ?_⟩
    have hlast := List.rdropWhile_last_not isIdle names (by rw [← dropIdle_eq, hconcat]; simp)
    simpa [← dropIdle_eq, hconcat] using hlast

/-- The names before the last one that says something. -/
theorem filter_dropIdle_dropLast (names : List (List Char)) :
    (dropIdle (dropIdle names).dropLast).filter (!isIdle ·) =
      (names.filter (!isIdle ·)).dropLast := by
  rw [filter_dropIdle, ← filter_dropIdle names]
  rcases dropIdle_cases names with hnil | ⟨init, last, hconcat, hlast⟩
  · rw [hnil]
    rfl
  · rw [hconcat, List.filter_append, List.dropLast_concat]
    simp [hlast]

/-! ## Paths and their names -/

theorem steps_of_splitAt {init : List (List Char)} {last : List Char}
    (h : Text.splitAt '/' path = init ++ [last]) (hlast : isIdle last = false) :
    steps path = init.filter (!isIdle ·) ++ [last] := by
  rw [steps, h, List.filter_append]
  simp [hlast]

theorem steps_slash (cs : List Char) : steps ('/' :: cs) = steps cs := by
  rw [steps, Text.splitAt_sep_cons]
  rfl

theorem steps_join (h : ∀ name ∈ names, '/' ∉ name) :
    steps (Text.join '/' names) = names.filter (!isIdle ·) := by
  cases names with
  | nil => rfl
  | cons name names => rw [steps, Text.splitAt_join (List.cons_ne_nil _ _) h]

theorem isTrimmed_slash {cs : List Char} (h : IsTrimmed cs) : IsTrimmed ('/' :: cs) := by
  rcases h with hnil | ⟨init, last, hsplit, hlast⟩
  · exact Or.inl ((steps_slash cs).trans hnil)
  · exact Or.inr ⟨[] :: init, last, by rw [Text.splitAt_sep_cons, hsplit]; rfl, hlast⟩

theorem isTrimmed_join {init : List (List Char)} {last : List Char}
    (h : ∀ name ∈ init ++ [last], '/' ∉ name) (hlast : isIdle last = false) :
    IsTrimmed (Text.join '/' (init ++ [last])) :=
  Or.inr ⟨init, last, Text.splitAt_join (by simp) h, hlast⟩

/-- Names before others are joined to the front of a text. -/
theorem exists_join_append (hnames : names ≠ []) (hrest : rest ≠ []) :
    ∃ more, Text.join '/' (names ++ rest) = Text.join '/' names ++ '/' :: more := by
  induction names with
  | nil => exact absurd rfl hnames
  | cons name names ih =>
    cases names with
    | nil => exact ⟨_, Text.join_cons '/' name hrest⟩
    | cons next names =>
      obtain ⟨more, hmore⟩ := ih (List.cons_ne_nil _ _)
      refine ⟨more, ?_⟩
      rw [List.cons_append, Text.join_cons _ _ (by simp), hmore,
        Text.join_cons _ _ (List.cons_ne_nil _ _), List.append_assoc, List.cons_append]

/-- A path is written in a directory of which the path is a text before it, up to the last name that
the path goes by. -/
structure Encloses (outer path : List Char) : Prop where
  isPrefix : outer <+: path
  length_lt : outer.length < path.length
  isTrimmed : IsTrimmed outer
  steps_eq : steps outer = (steps path).dropLast

theorem exists_eq_dropIdle_append {init : List (List Char)} {last : List Char}
    (h : dropIdle names = init ++ [last]) : ∃ more, more ≠ [] ∧ names = dropIdle init ++ more := by
  obtain ⟨idles, hidles⟩ : init ++ [last] <+: names := h ▸ List.rdropWhile_prefix isIdle names
  obtain ⟨back, hback⟩ : dropIdle init <+: init := List.rdropWhile_prefix isIdle init
  refine ⟨back ++ ([last] ++ idles), by simp, ?_⟩
  rw [← hidles, ← List.append_assoc, hback, List.append_assoc]

/-- The text of the names in front is that of a directory around the path. -/
theorem encloses_of_front {front more : List (List Char)} (hmore : more ≠ [])
    (hpath : Text.splitAt '/' path = front ++ more) (hne : path ≠ [])
    (htrimmed : IsTrimmed (Text.join '/' front))
    (hsteps : front.filter (!isIdle ·) = (steps path).dropLast) :
    Encloses (Text.join '/' front) path := by
  have hslash : ∀ name ∈ front, '/' ∉ name := fun name hname =>
    Text.not_mem_of_mem_splitAt (hpath ▸ List.mem_append_left _ hname)
  have hjoin : path = Text.join '/' (front ++ more) := by
    rw [← hpath, Text.join_splitAt]
  refine ⟨?_, ?_, htrimmed, (steps_join hslash).trans hsteps⟩
  · by_cases hfront : front = []
    · rw [hfront]
      exact List.nil_prefix
    · obtain ⟨tail, htail⟩ := exists_join_append hfront hmore
      rw [hjoin, htail]
      exact List.prefix_append _ _
  · by_cases hfront : front = []
    · rw [hfront]
      exact List.length_pos_iff.mpr hne
    · obtain ⟨tail, htail⟩ := exists_join_append hfront hmore
      rw [hjoin, htail, List.length_append, List.length_cons]
      omega

theorem Encloses.slash (h : Encloses outer path) : Encloses ('/' :: outer) ('/' :: path) where
  isPrefix := (List.prefix_cons_inj '/').mpr h.isPrefix
  length_lt := Nat.succ_lt_succ h.length_lt
  isTrimmed := isTrimmed_slash h.isTrimmed
  steps_eq := by rw [steps_slash, steps_slash, h.steps_eq]

theorem isTrimmed_join_dropIdle (h : ∀ name ∈ dropIdle names, '/' ∉ name) :
    IsTrimmed (Text.join '/' (dropIdle names)) := by
  rcases dropIdle_cases names with hnil | ⟨init, last, hconcat, hlast⟩
  · rw [hnil]
    exact Or.inl rfl
  · rw [hconcat] at h ⊢
    exact isTrimmed_join h hlast

theorem isTrimmed_join_cons {first : List Char}
    (h : ∀ name ∈ first :: dropIdle names, '/' ∉ name) :
    IsTrimmed (Text.join '/' (first :: dropIdle names)) := by
  rcases dropIdle_cases names with hnil | ⟨init, last, hconcat, hlast⟩
  · rw [hnil] at h ⊢
    cases hidle : isIdle first with
    | true => exact Or.inl ((steps_join h).trans (by simp [hidle]))
    | false => exact @isTrimmed_join [] first h hidle
  · rw [hconcat, ← List.cons_append] at h ⊢
    exact isTrimmed_join h hlast

/-- A path from the root. -/
theorem encloses_of_absolute (hne : dropIdle (Text.splitAt '/' path) ≠ []) :
    Encloses ('/' :: Text.join '/' (dropIdle (dropIdle (Text.splitAt '/' path)).dropLast))
      ('/' :: path) := by
  obtain ⟨init, last, hconcat, -⟩ := (dropIdle_cases (Text.splitAt '/' path)).resolve_left hne
  obtain ⟨more, hmore, hnames⟩ := exists_eq_dropIdle_append hconcat
  have hsteps := filter_dropIdle_dropLast (Text.splitAt '/' path)
  rw [hconcat, List.dropLast_concat] at hsteps ⊢
  refine (encloses_of_front hmore hnames ?_ (isTrimmed_join_dropIdle fun name hname => ?_)
    hsteps).slash
  · rintro rfl
    exact hne rfl
  · exact Text.not_mem_of_mem_splitAt (hnames ▸ List.mem_append_left _ hname)

/-- A path from the current directory, of which the first name is kept also where it says
nothing. -/
theorem encloses_of_relative (hne : path ≠ []) :
    Encloses (Text.join '/' (dropIdleRelative
      (dropIdleRelative (Text.splitAt '/' path)).dropLast)) path := by
  obtain ⟨first, rest, hpath⟩ := List.exists_cons_of_ne_nil (Text.splitAt_ne_nil '/' path)
  have hall : steps path = [first].filter (!isIdle ·) ++ rest.filter (!isIdle ·) := by
    rw [steps, hpath, ← List.filter_append, List.singleton_append]
  rw [hpath, dropIdleRelative]
  rcases dropIdle_cases rest with hnil | ⟨init, last, hconcat, hlast⟩
  · -- nothing comes after the first name
    have hrest : rest.filter (!isIdle ·) = [] := by
      rw [← filter_dropIdle, hnil]
      rfl
    rw [hnil]
    refine encloses_of_front (List.cons_ne_nil first rest) hpath hne (Or.inl rfl) ?_
    rw [hall, hrest, List.append_nil]
    cases hidle : isIdle first <;> simp [hidle, dropIdleRelative]
  · obtain ⟨more, hmore, hnames⟩ := exists_eq_dropIdle_append hconcat
    have hrest : rest.filter (!isIdle ·) ≠ [] := by
      rw [← filter_dropIdle, hconcat]
      simp [hlast]
    have hdrop := filter_dropIdle_dropLast rest
    have hslash : ∀ name ∈ first :: dropIdle init, '/' ∉ name := by
      intro name hname
      have hmem : name ∈ Text.splitAt '/' path := by
        rw [hpath, hnames, ← List.cons_append]
        exact List.mem_append_left _ hname
      exact Text.not_mem_of_mem_splitAt hmem
    rw [hconcat, List.dropLast_concat] at hdrop
    rw [hconcat, ← List.cons_append, List.dropLast_concat, dropIdleRelative]
    refine encloses_of_front hmore (by rw [hpath, hnames, List.cons_append]) hne
      (isTrimmed_join_cons hslash) ?_
    rw [hall, List.dropLast_append_of_ne_nil hrest, ← hdrop, ← List.filter_append,
      List.singleton_append]

/-- The path of the directory that a path is written in. -/
theorem encloses_of_enclosing? (h : enclosing? path = some outer) : Encloses outer path := by
  unfold enclosing? at h
  split at h
  · cases h
  · split at h
    · cases h
    · next hne =>
      cases h
      exact encloses_of_absolute hne
  · next hne _ =>
    cases h
    exact encloses_of_relative hne

/-- A path and that of its directory start at the same place. -/
theorem head?_of_enclosing? (h : enclosing? path = some outer) :
    outer.head? = some '/' ↔ path.head? = some '/' := by
  have hprefix := (encloses_of_enclosing? h).isPrefix
  unfold enclosing? at h
  split at h
  · cases h
  · split at h
    · cases h
    · cases h
      exact Iff.rfl
  · next hne hslash =>
    obtain ⟨c, cs, hpath⟩ := List.exists_cons_of_ne_nil hne
    have hc : c ≠ '/' := by
      rintro rfl
      exact hslash cs hpath
    rw [hpath] at hprefix ⊢
    rcases List.prefix_cons_iff.mp hprefix with hnil | ⟨front, hfront, -⟩
    · simp [hnil, hc]
    · simp [hfront]

/-- Only a path without names is written in no directory. -/
theorem steps_of_enclosing?_eq_none (h : enclosing? path = none) : steps path = [] := by
  unfold enclosing? at h
  split at h
  · rfl
  · next rest =>
    split at h
    · next hnil =>
      rw [steps_slash, steps, ← filter_dropIdle, hnil]
      rfl
    · cases h
  · cases h

end DavCourier.Local
