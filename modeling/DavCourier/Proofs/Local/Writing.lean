import DavCourier.Local.Files

/-!
# Writing and removing files

An entry that is put at a place is there, and nothing else changes (`at?_put_self`,
`at?_put_of_ne`). A path that leads to a file, or to where one may be, leads to the file that is
put there, as the directories on the way stay (`follow_put`). So the path of a file that was
written leads to its content : `follow_of_write`. A file that is discarded is gone if its directory
lets it go (`discard_of_file`), and where no file can be written nothing is discarded
(`discard_of_filePlace`).
-/

namespace DavCourier.Local

namespace Disk

variable {disk disk' : Disk} {place q here : Place} {entry : Entry}

/-! ## Entries at places -/

theorem at?_put_self (h : Admits disk.entries place) (entry : Entry) :
    (disk.put place entry h).at? place = some entry :=
  entryAt?_putEntry_self h.ne_nil entry disk.entries

theorem at?_put_of_ne (hne : q ≠ place) (h : Admits disk.entries place) (entry : Entry) :
    (disk.put place entry h).at? q = disk.at? q :=
  entryAt?_putEntry_of_ne hne entry disk.entries

theorem at?_erase_self (h : disk.at? place ≠ some .directory) :
    (disk.erase place h).at? place = none :=
  entryAt?_eraseEntry_self (fun hnil => h (by rw [hnil]; rfl)) disk.entries

theorem at?_erase_of_ne (hne : q ≠ place) (h : disk.at? place ≠ some .directory) :
    (disk.erase place h).at? q = disk.at? q :=
  entryAt?_eraseEntry_of_ne hne disk.entries

/-! ## Following a path again -/

variable {names : List (List Char)} {target : Target} {slash : Bool} {path : List Char}
  {content : Bytes} {fault : Fault}

/-- Names lead to the file that is put at their end, since no directory on the way is there. -/
theorem followFrom_put (h : disk.followFrom here names = .ok target)
    (hplace : target.place? = some (place, slash)) (hadmits : Admits disk.entries place)
    (content : Bytes) :
    (disk.put place (.file content) hadmits).followFrom here names =
      .ok (.file place content slash) := by
  fun_induction followFrom disk here names with
  | case1 here => cases h; cases hplace
  | case2 here name rest hidle ih => rw [followFrom, if_pos hidle, ih h]
  | case3 here rest hidle ih => rw [followFrom, if_neg hidle, if_pos rfl, ih h]
  | case5 here name rest hidle hup hlong hat ih =>
    have hother : here ++ [name] ≠ place := fun heq => hadmits.free (heq ▸ hat)
    rw [followFrom, if_neg hidle, if_neg hup, if_neg hlong, at?_put_of_ne hother hadmits, hat]
    exact ih h
  | case6 here name rest hidle hup hlong old hat hrest =>
    cases h
    cases hplace
    rw [followFrom, if_neg hidle, if_neg hup, if_neg hlong, at?_put_self hadmits]
    exact if_pos hrest
  | case8 here name rest hidle hup hlong hat hrest =>
    cases h
    cases hplace
    rw [followFrom, if_neg hidle, if_neg hup, if_neg hlong, at?_put_self hadmits]
    exact if_pos hrest
  | case4 | case7 | case9 => cases h

theorem follow_put {path : List Char} (h : disk.follow path = .ok target)
    (hplace : target.place? = some (place, slash)) (hadmits : Admits disk.entries place)
    (content : Bytes) :
    (disk.put place (.file content) hadmits).follow path = .ok (.file place content slash) := by
  unfold follow at h ⊢
  split at h
  · cases h
  · next hnul =>
    split at h
    · cases h
    · next hempty =>
      split at h
      · cases h
      · next hlong =>
        rw [if_neg hnul, if_neg hempty, if_neg hlong]
        exact followFrom_put h hplace hadmits content

/-! ## The place of a file -/

/-- A path without a slash at its end leads to the place of a file, unless a directory is there. -/
theorem filePlace_of_follow (h : disk.follow path = .ok target)
    (hplace : target.place? = some (place, false)) (hadmits : Admits disk.entries place) :
    disk.filePlace path = .ok ⟨place, hadmits⟩ := by
  unfold filePlace
  split
  · next hfault => cases hfault.symm.trans h
  · next hdir =>
    cases hdir.symm.trans h
    cases hplace
  · next hfile =>
    cases hfile.symm.trans h
    cases hplace
    rfl
  · next habsent =>
    cases habsent.symm.trans h
    cases hplace
    rfl

theorem exists_of_filePlace {hadmits : Admits disk.entries place}
    (h : disk.filePlace path = .ok ⟨place, hadmits⟩) :
    ∃ target, disk.follow path = .ok target ∧ target.place? = some (place, false) := by
  unfold filePlace at h
  split at h
  · cases h
  · cases h
  · next slash hfollow =>
    cases slash <;> cases h
    exact ⟨_, hfollow, rfl⟩
  · next slash hfollow =>
    cases slash <;> cases h
    exact ⟨_, hfollow, rfl⟩

/-! ## Discarding -/

/-- What has no place for a file is not discarded. -/
theorem discard_of_filePlace (h : disk.filePlace path = .error fault) :
    disk.discard path = disk := by
  have hremove : ∃ fault', disk.remove path = .error fault' := by
    unfold filePlace at h
    unfold remove
    split at h
    · exact ⟨_, rfl⟩
    · exact ⟨_, rfl⟩
    · split at h
      · next hslash => exact ⟨_, if_pos hslash⟩
      · cases h
    · exact ⟨_, rfl⟩
  obtain ⟨fault', hremove⟩ := hremove
  rw [discard, hremove]

theorem discard_of_absent (h : disk.follow path = .ok (.absent place slash)) :
    disk.discard path = disk := by
  have hremove : disk.remove path = .error .notFound := by
    unfold remove
    split
    · next hfault => cases hfault.symm.trans h
    · next hdir => cases hdir.symm.trans h
    · next hfile => cases hfile.symm.trans h
    · rfl
  rw [discard, hremove]

theorem remove_of_file (h : disk.follow path = .ok (.file place content false)) :
    disk.remove path =
      match disk.unwritable.lookup place.dropLast with
      | some refusal => .error (.refused refusal)
      | none => .ok (disk.erase place (admits_of_follow h rfl).free) := by
  unfold remove
  split
  · next hfault => cases hfault.symm.trans h
  · next hdir => cases hdir.symm.trans h
  · next hfile =>
    cases hfile.symm.trans h
    rfl
  · next habsent => cases habsent.symm.trans h

/-- A file is discarded if and only if its directory lets it go. -/
theorem discard_of_file (h : disk.follow path = .ok (.file place content false)) :
    (disk.unwritable.lookup place.dropLast = none ∧
      ∃ hfree, disk.discard path = disk.erase place hfree) ∨
    (disk.unwritable.lookup place.dropLast ≠ none ∧ disk.discard path = disk) := by
  have hremove := remove_of_file h
  cases hrefusal : disk.unwritable.lookup place.dropLast with
  | none =>
    rw [hrefusal] at hremove
    refine Or.inl ⟨rfl, (admits_of_follow h rfl).free, ?_⟩
    rw [discard, hremove]
  | some refusal =>
    rw [hrefusal] at hremove
    refine Or.inr ⟨nofun, ?_⟩
    rw [discard, hremove]

/-! ## Writing -/

theorem write_of_refusal {hadmits : Admits disk.entries place} {refusal : Refusal}
    (h : disk.filePlace path = .ok ⟨place, hadmits⟩)
    (hrefusal : disk.writeRefusal? place = some refusal) (content : Bytes) :
    disk.write path content = (disk, some (.refused refusal)) := by
  rw [write, h]
  dsimp only
  rw [hrefusal]

theorem write_of_unlocked {hadmits : Admits disk.entries place}
    (h : disk.filePlace path = .ok ⟨place, hadmits⟩) (hunlocked : disk.writeRefusal? place = none)
    (content : Bytes) :
    disk.write path content = (disk.put place (.file (disk.fitting place content)) hadmits,
      if disk.fitting place content = content then none else some .noSpace) := by
  rw [write, h]
  dsimp only
  rw [hunlocked]

/-- What was written is what its path leads to. -/
theorem follow_of_write (h : disk.write path content = (disk', none)) :
    ∃ place, disk'.follow path = .ok (.file place content false) := by
  unfold write at h
  split at h
  · cases h
  · next place hadmits hfile =>
    obtain ⟨target, hfollow, hplace⟩ := exists_of_filePlace hfile
    split at h
    · cases h
    · split at h
      · next hfits =>
        cases h
        refine ⟨place, ?_⟩
        rw [hfits]
        exact follow_put hfollow hplace hadmits content
      · cases h

end Disk

end DavCourier.Local
