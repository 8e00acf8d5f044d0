import DavCourier.Proofs.Local.Below
import DavCourier.Proofs.Local.Enclosing
import DavCourier.Proofs.Local.Writing

/-!
# Places by names

Names lead down to one place after the other (`onWay`), also to those that a later `..` leaves
again, and at last to a place (`arrival`). They lead to a directory if and only if there is one at
each of these places (`followFrom_eq_directory_iff`). If none of them is a file, then what stops the
names is that one of the places is still free (`followFrom_of_isClear`).
-/

namespace DavCourier.Local

variable {here place : Place} {names more init : List (List Char)} {name : List Char}

/-- The place that names lead to from another one. -/
def arrival (here : Place) : List (List Char) → Place
  | [] => here
  | name :: names =>
    if name = ['.', '.'] then arrival here.dropLast names else arrival (here ++ [name]) names

/-- The places that names lead down to, one after the other. -/
def onWay (here : Place) : List (List Char) → List Place
  | [] => []
  | name :: names =>
    if name = ['.', '.'] then onWay here.dropLast names
    else (here ++ [name]) :: onWay (here ++ [name]) names

theorem arrival_append (here : Place) (names more : List (List Char)) :
    arrival here (names ++ more) = arrival (arrival here names) more := by
  induction names generalizing here with
  | nil => rfl
  | cons name names ih =>
    simp only [List.cons_append, arrival]
    split <;> exact ih _

theorem onWay_append (here : Place) (names more : List (List Char)) :
    onWay here (names ++ more) = onWay here names ++ onWay (arrival here names) more := by
  induction names generalizing here with
  | nil => rfl
  | cons name names ih =>
    simp only [List.cons_append, onWay, arrival]
    split
    · exact ih _
    · rw [ih, List.cons_append]

theorem arrival_concat (h : name ≠ ['.', '.']) :
    arrival here (init ++ [name]) = arrival here init ++ [name] := by
  rw [arrival_append]
  exact if_neg h

namespace Disk

variable {disk : Disk} {p q : Option Entry → Prop} {target : Target} {slash : Bool}

/-- The names can be names, and what is at each place that they lead down to satisfies `p`. -/
structure Along (p : Option Entry → Prop) (disk : Disk) (here : Place)
    (names : List (List Char)) : Prop where
  short : ∀ name ∈ names, (Utf8.encode name).length ≤ maxName
  at? : ∀ place ∈ onWay here names, p (disk.at? place)

/-- Each of the names leads to a directory. -/
abbrev IsPaved : Disk → Place → List (List Char) → Prop :=
  Along (· = some .directory)

/-- None of the names leads to a file. -/
abbrev IsClear : Disk → Place → List (List Char) → Prop :=
  Along fun entry? => ∀ content, entry? ≠ some (.file content)

theorem along_append : Along p disk here (names ++ more) ↔
    Along p disk here names ∧ Along p disk (arrival here names) more := by
  constructor
  · rintro ⟨hshort, hat⟩
    rw [onWay_append] at hat
    rw [List.forall_mem_append] at hshort hat
    exact ⟨⟨hshort.1, hat.1⟩, ⟨hshort.2, hat.2⟩⟩
  · rintro ⟨⟨hshort, hat⟩, hshort', hat'⟩
    refine ⟨List.forall_mem_append.mpr ⟨hshort, hshort'⟩, ?_⟩
    rw [onWay_append]
    exact List.forall_mem_append.mpr ⟨hat, hat'⟩

theorem along_nil (p : Option Entry → Prop) (disk : Disk) (here : Place) :
    Along p disk here [] :=
  ⟨nofun, nofun⟩

theorem along_up :
    Along p disk here (['.', '.'] :: names) ↔ Along p disk here.dropLast names := by
  have hup : (Utf8.encode ['.', '.']).length ≤ maxName := by decide
  constructor
  · rintro ⟨hshort, hat⟩
    exact ⟨(List.forall_mem_cons.mp hshort).2, hat⟩
  · rintro ⟨hshort, hat⟩
    exact ⟨List.forall_mem_cons.mpr ⟨hup, hshort⟩, hat⟩

theorem along_down (h : name ≠ ['.', '.']) : Along p disk here (name :: names) ↔
    (Utf8.encode name).length ≤ maxName ∧ p (disk.at? (here ++ [name])) ∧
      Along p disk (here ++ [name]) names := by
  have hway : onWay here (name :: names) = (here ++ [name]) :: onWay (here ++ [name]) names :=
    if_neg h
  constructor
  · rintro ⟨hshort, hat⟩
    rw [List.forall_mem_cons] at hshort
    rw [hway, List.forall_mem_cons] at hat
    exact ⟨hshort.1, hat.1, hshort.2, hat.2⟩
  · rintro ⟨hname, hhere, hshort, hat⟩
    refine ⟨List.forall_mem_cons.mpr ⟨hname, hshort⟩, ?_⟩
    rw [hway]
    exact List.forall_mem_cons.mpr ⟨hhere, hat⟩

theorem along_concat (h : name ≠ ['.', '.']) : Along p disk here (init ++ [name]) ↔
    Along p disk here init ∧ (Utf8.encode name).length ≤ maxName ∧
      p (disk.at? (arrival here init ++ [name])) := by
  rw [along_append, along_down h]
  simp [along_nil]

theorem Along.dropLast (h : Along p disk here names) : Along p disk here names.dropLast := by
  rcases List.eq_nil_or_concat names with rfl | ⟨init, name, rfl⟩
  · exact h
  · rw [List.concat_eq_append] at h ⊢
    rw [List.dropLast_concat]
    exact (along_append.mp h).1

theorem IsPaved.isClear (h : IsPaved disk here names) : IsClear disk here names :=
  ⟨h.short, fun q hq content hfile => by rw [h.at? q hq] at hfile; cases hfile⟩

/-! ## Following the names -/

/-- Names lead to a directory if and only if each of them does. -/
theorem followFrom_eq_directory_iff :
    disk.followFrom here names = .ok (.directory place) ↔
      IsPaved disk here (names.filter (!isIdle ·)) ∧
        arrival here (names.filter (!isIdle ·)) = place := by
  unfold IsPaved
  fun_induction followFrom disk here names with
  | case1 here => simp [along_nil, arrival]
  | case2 here name rest hidle ih => simp [hidle, ih]
  | case3 here rest hidle ih =>
    rw [ih, List.filter_cons_of_pos (by rfl), along_up]
    rfl
  | case4 here name rest hidle hup hlong =>
    rw [List.filter_cons_of_pos (by simpa using hidle), along_down hup]
    refine iff_of_false (by simp) fun h => ?_
    exact absurd h.1.1 (Nat.not_le.mpr hlong)
  | case5 here name rest hidle hup hlong hat ih =>
    rw [ih, List.filter_cons_of_pos (by simpa using hidle), along_down hup, arrival, if_neg hup]
    simp [Nat.not_lt.mp hlong, hat]
  | case6 here name rest hidle hup hlong _ hat | case7 here name rest hidle hup hlong _ hat
  | case8 here name rest hidle hup hlong hat | case9 here name rest hidle hup hlong hat =>
    rw [List.filter_cons_of_pos (by simpa using hidle), along_down hup]
    simp [hat]

/-- Names that lead to where nothing is lead down to it. -/
theorem mem_onWay_of_followFrom (h : disk.followFrom here names = .ok (.absent place slash)) :
    place ∈ onWay here (names.filter (!isIdle ·)) ∧ disk.at? place = none := by
  fun_induction followFrom disk here names with
  | case1 => cases h
  | case2 here name rest hidle ih => simpa [hidle] using ih h
  | case3 here rest hidle ih => exact ih h
  | case4 => cases h
  | case5 here name rest hidle hup hlong hat ih =>
    obtain ⟨hmem, hnone⟩ := ih h
    rw [List.filter_cons_of_pos (by simpa using hidle), onWay, if_neg hup]
    exact ⟨List.mem_cons_of_mem _ hmem, hnone⟩
  | case6 => cases h
  | case7 => cases h
  | case8 here name rest hidle hup hlong hat hrest =>
    cases h
    rw [List.filter_cons_of_pos (by simpa using hidle), onWay, if_neg hup]
    exact ⟨List.mem_cons_self, hat⟩
  | case9 => cases h

/-- Where no file is in the way, names lead somewhere unless a directory is missing. -/
theorem followFrom_of_isClear (h : IsClear disk here (names.filter (!isIdle ·))) :
    (∃ place, disk.followFrom here names = .ok (.directory place)) ∨
      (∃ place slash, disk.followFrom here names = .ok (.absent place slash)) ∨
      disk.followFrom here names = .error .notFound := by
  unfold IsClear at h
  fun_induction followFrom disk here names with
  | case1 here => exact Or.inl ⟨here, rfl⟩
  | case2 here name rest hidle ih => exact ih (by simpa [hidle] using h)
  | case3 here rest hidle ih => exact ih (along_up.mp h)
  | case4 here name rest hidle hup hlong =>
    rw [List.filter_cons_of_pos (by simpa using hidle), along_down hup] at h
    exact absurd h.1 (Nat.not_le.mpr hlong)
  | case5 here name rest hidle hup hlong hat ih =>
    rw [List.filter_cons_of_pos (by simpa using hidle), along_down hup] at h
    exact ih h.2.2
  | case6 here name rest hidle hup hlong content hat
  | case7 here name rest hidle hup hlong content hat =>
    rw [List.filter_cons_of_pos (by simpa using hidle), along_down hup] at h
    exact absurd hat (h.2.1 content)
  | case8 => exact Or.inr (Or.inl ⟨_, _, rfl⟩)
  | case9 => exact Or.inr (Or.inr rfl)

/-- The names before one that says something lead to a directory if all of them lead anywhere. -/
theorem exists_directory_of_followFrom (hname : isIdle name = false)
    (h : disk.followFrom here (init ++ [name]) = .ok target) :
    ∃ place, disk.followFrom here init = .ok (.directory place) := by
  have hempty : ∀ rest : List (List Char), ¬ ((rest ++ [name]).all List.isEmpty) = true := by
    intro rest hall
    have := List.all_eq_true.mp hall name (by simp)
    simp [isIdle, this] at hname
  fun_induction followFrom disk here init with
  | case1 here => exact ⟨here, rfl⟩
  | case2 here first rest hidle ih =>
    rw [List.cons_append, followFrom, if_pos hidle] at h
    exact ih h
  | case3 here rest hidle ih =>
    rw [List.cons_append, followFrom, if_neg hidle, if_pos rfl] at h
    exact ih h
  | case4 here first rest hidle hup hlong =>
    rw [List.cons_append, followFrom, if_neg hidle, if_neg hup, if_pos hlong] at h
    cases h
  | case5 here first rest hidle hup hlong hat ih =>
    rw [List.cons_append, followFrom, if_neg hidle, if_neg hup, if_neg hlong, hat] at h
    exact ih h
  | case6 here first rest hidle hup hlong _ hat | case7 here first rest hidle hup hlong _ hat
  | case8 here first rest hidle hup hlong hat | case9 here first rest hidle hup hlong hat =>
    rw [List.cons_append, followFrom, if_neg hidle, if_neg hup, if_neg hlong, hat] at h
    cases (if_neg (hempty rest)).symm.trans h

/-- After a last name that says nothing, a file has a slash after its name. -/
theorem slash_of_followFrom_concat (hname : isIdle name = true)
    (h : disk.followFrom here (init ++ [name]) = .ok target)
    (hplace : target.place? = some (place, slash)) : slash = true := by
  fun_induction followFrom disk here init with
  | case1 here =>
    rw [List.nil_append, followFrom, if_pos hname] at h
    cases h
    cases hplace
  | case2 here first rest hidle ih =>
    rw [List.cons_append, followFrom, if_pos hidle] at h
    exact ih h
  | case3 here rest hidle ih =>
    rw [List.cons_append, followFrom, if_neg hidle, if_pos rfl] at h
    exact ih h
  | case4 here first rest hidle hup hlong =>
    rw [List.cons_append, followFrom, if_neg hidle, if_neg hup, if_pos hlong] at h
    cases h
  | case5 here first rest hidle hup hlong hat ih =>
    rw [List.cons_append, followFrom, if_neg hidle, if_neg hup, if_neg hlong, hat] at h
    exact ih h
  | case6 here first rest hidle hup hlong _ hat | case7 here first rest hidle hup hlong _ hat
  | case8 here first rest hidle hup hlong hat | case9 here first rest hidle hup hlong hat =>
    rw [List.cons_append, followFrom, if_neg hidle, if_neg hup, if_neg hlong, hat] at h
    dsimp only at h
    split at h
    · cases h
      cases hplace
      simp
    · cases h

/-- A last name is looked for where the names before it lead. -/
theorem followFrom_concat (hpaved : IsPaved disk here (init.filter (!isIdle ·)))
    (hname : isIdle name = false) (hup : name ≠ ['.', '.'])
    (hshort : (Utf8.encode name).length ≤ maxName) :
    disk.followFrom here (init ++ [name]) =
      let place := arrival here (init.filter (!isIdle ·)) ++ [name]
      match disk.at? place with
      | some .directory => .ok (.directory place)
      | some (.file content) => .ok (.file place content false)
      | none => .ok (.absent place false) := by
  rw [followFrom_append (followFrom_eq_directory_iff.mpr ⟨hpaved, rfl⟩), followFrom,
    if_neg (by simp [hname]), if_neg hup, if_neg (Nat.not_lt.mpr hshort)]
  dsimp only
  generalize disk.at? _ = entry?
  rcases entry? with _ | _ | _ <;> rfl

/-- Where the names before the last one lead to a directory, nothing on the way is missing. -/
theorem followFrom_concat_ne_notFound (hpaved : IsPaved disk here (init.filter (!isIdle ·)))
    (hname : isIdle name = false) (hshort : (Utf8.encode name).length ≤ maxName) :
    disk.followFrom here (init ++ [name]) ≠ .error .notFound := by
  intro hfollow
  by_cases hup : name = ['.', '.']
  · rw [hup, followFrom_append (followFrom_eq_directory_iff.mpr ⟨hpaved, rfl⟩)] at hfollow
    cases hfollow
  · rw [followFrom_concat hpaved hname hup hshort] at hfollow
    dsimp only at hfollow
    split at hfollow <;> cases hfollow

/-- What a last name leads to, where it is no directory. -/
theorem place_of_followFrom_concat (hname : isIdle name = false)
    (h : disk.followFrom here (init ++ [name]) = .ok target)
    (hplace : target.place? = some (place, slash)) :
    IsPaved disk here (init.filter (!isIdle ·)) ∧ name ≠ ['.', '.'] ∧
      (Utf8.encode name).length ≤ maxName ∧
      place = arrival here (init.filter (!isIdle ·)) ++ [name] := by
  obtain ⟨outer, houter⟩ := exists_directory_of_followFrom hname h
  obtain ⟨hpaved, harrival⟩ := followFrom_eq_directory_iff.mp houter
  rw [followFrom_append houter, followFrom, if_neg (by simp [hname])] at h
  split at h
  · cases h
    cases hplace
  · next hup =>
    split at h
    · cases h
    · next hlong =>
      refine ⟨hpaved, hup, Nat.not_lt.mp hlong, ?_⟩
      rw [harrival]
      split at h
      · cases h
        cases hplace
      all_goals
        cases h
        cases hplace
        rfl

end Disk

end DavCourier.Local
