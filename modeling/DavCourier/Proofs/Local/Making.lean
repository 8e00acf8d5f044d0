import DavCourier.Proofs.Local.Descent

/-!
# Making directories

Making a directory and those around it changes nothing that is there : whatever happens, only
directories are new, and only at places that the path leads down to (`makeDirectories_gains`). Where
none of these is a file, and those that are missing would be in directories that may be changed,
each of them is a directory afterwards : `makeDirectories_paved`.
-/

namespace DavCourier.Local

variable {path outer : List Char}

/-- The path can be used at all. -/
structure IsSound (path : List Char) : Prop where
  nul : '\x00' ∉ path
  short : (Utf8.encode path).length < Disk.maxPath

theorem IsSound.of_prefix (h : IsSound path) (hfront : outer <+: path) : IsSound outer := by
  obtain ⟨rest, rfl⟩ := hfront
  refine ⟨fun hmem => h.nul (List.mem_append_left _ hmem), Nat.lt_of_le_of_lt ?_ h.short⟩
  rw [Utf8.encode_append, List.length_append]
  exact Nat.le_add_right _ _

namespace Disk

variable {disk disk' disk'' : Disk} {places places' : List Place} {place : Place} {entry : Entry}

/-- The places that a path leads down to, one after the other. -/
def way (disk : Disk) (path : List Char) : List Place :=
  onWay (disk.start path) (steps path)

/-! ## Disks with more directories -/

/-- A directory that is put at a new place adds no bytes. -/
theorem total_eraseEntry_putEntry {entries : List (Place × Entry)}
    (hnew : ∀ e ∈ entries, e.1 ≠ place) (q : Place) :
    total (eraseEntry q (putEntry place .directory entries)) = total (eraseEntry q entries) := by
  have hcons : ∀ es : List (Place × Entry),
      total (eraseEntry q ((place, .directory) :: es)) = total (eraseEntry q es) := by
    intro es
    rw [eraseEntry, List.filter_cons]
    split <;> rfl
  induction entries with
  | nil => exact hcons []
  | cons e es ih =>
    obtain ⟨hne, hrest⟩ := List.forall_mem_cons.mp hnew
    rw [putEntry, if_neg (Ne.symm hne)]
    split
    · exact hcons (e :: es)
    · unfold eraseEntry at ih ⊢
      rw [List.filter_cons, List.filter_cons]
      split
      · obtain ⟨place', entry⟩ := e
        cases entry with
        | file content => exact congrArg (content.length + ·) (ih hrest)
        | directory => exact ih hrest
      · exact ih hrest

/-- A new directory takes no room. -/
theorem fitting_put_directory (hnone : disk.at? place = none) (hadmits : Admits disk.entries place)
    (q : Place) (content : Bytes) :
    (disk.put place .directory hadmits).fitting q content = disk.fitting q content := by
  have hnew : ∀ e ∈ disk.entries, e.1 ≠ place := by
    rintro e he rfl
    cases hnone.symm.trans (mem_entries.mp he).2
  have hload : (disk.put place .directory hadmits).load q = disk.load q :=
    total_eraseEntry_putEntry hnew q
  rw [fitting, fitting, hload]
  rfl

/-- A directory that is missing at one of the places would be in one that may be changed. -/
def Allows (disk : Disk) (places : List Place) : Prop :=
  ∀ place ∈ places, disk.at? place = none → disk.unwritable.lookup place.dropLast = none

/-- A disk with new directories at some of the places. They take no room, and are in directories
that may be changed. -/
structure Gains (places : List Place) (disk disk' : Disk) : Prop where
  current : disk'.current = disk.current
  unwritable : disk'.unwritable = disk.unwritable
  fitting : ∀ place content, disk'.fitting place content = disk.fitting place content
  at?_cases : ∀ q, disk'.at? q = disk.at? q ∨
    q ∈ places ∧ disk.at? q = none ∧ disk'.at? q = some .directory ∧
      disk.unwritable.lookup q.dropLast = none

namespace Gains

theorem refl (places : List Place) (disk : Disk) : Gains places disk disk :=
  ⟨rfl, rfl, fun _ _ => rfl, fun _ => Or.inl rfl⟩

theorem mono (h : Gains places disk disk') (hsub : places ⊆ places') :
    Gains places' disk disk' :=
  ⟨h.current, h.unwritable, h.fitting,
    fun q => (h.at?_cases q).imp_right fun hq => ⟨hsub hq.1, hq.2⟩⟩

theorem trans (h : Gains places disk disk') (h' : Gains places disk' disk'') :
    Gains places disk disk'' := by
  refine ⟨h'.current.trans h.current, h'.unwritable.trans h.unwritable, fun place content =>
    (h'.fitting place content).trans (h.fitting place content), fun q => ?_⟩
  rcases h'.at?_cases q with hsame | ⟨hmem, hnone, hnew, hallowed⟩
  · rw [hsame]
    exact h.at?_cases q
  · rcases h.at?_cases q with hsame | ⟨-, -, hdir, -⟩
    · exact Or.inr ⟨hmem, hsame ▸ hnone, hnew, h.unwritable ▸ hallowed⟩
    · rw [hdir] at hnone
      cases hnone

/-- What was there is there. -/
theorem at?_of_some (h : Gains places disk disk') (hat : disk.at? place = some entry) :
    disk'.at? place = some entry := by
  rcases h.at?_cases place with hsame | ⟨-, hnone, -⟩
  · rw [hsame, hat]
  · rw [hat] at hnone
    cases hnone

theorem at?_of_not_mem (h : Gains places disk disk') (hmem : place ∉ places) :
    disk'.at? place = disk.at? place :=
  (h.at?_cases place).resolve_right fun hq => hmem hq.1

/-- No file is new. -/
theorem at?_eq_file_iff (h : Gains places disk disk') (content : Bytes) :
    disk'.at? place = some (.file content) ↔ disk.at? place = some (.file content) := by
  rcases h.at?_cases place with hsame | ⟨-, hnone, hnew, -⟩
  · rw [hsame]
  · rw [hnone, hnew]
    exact iff_of_false nofun nofun

theorem start (h : Gains places disk disk') (path : List Char) :
    disk'.start path = disk.start path := by
  rw [Disk.start, Disk.start, h.current]

theorem isClear_iff (h : Gains places disk disk') (here : Place) (names : List (List Char)) :
    disk'.IsClear here names ↔ disk.IsClear here names := by
  constructor
  · rintro ⟨hshort, hat⟩
    exact ⟨hshort, fun place hplace content hfile =>
      hat place hplace content ((h.at?_eq_file_iff content).mpr hfile)⟩
  · rintro ⟨hshort, hat⟩
    exact ⟨hshort, fun place hplace content hfile =>
      hat place hplace content ((h.at?_eq_file_iff content).mp hfile)⟩

theorem isPaved (h : Gains places disk disk') {here : Place} {names : List (List Char)}
    (hpaved : disk.IsPaved here names) : disk'.IsPaved here names :=
  ⟨hpaved.short, fun q hq => h.at?_of_some (hpaved.at? q hq)⟩

/-- What may be made stays so. -/
theorem allows (h : Gains places disk disk') (hallows : disk.Allows places') :
    disk'.Allows places' := by
  intro q hq hnone
  rw [h.unwritable]
  rcases h.at?_cases q with hsame | ⟨-, -, hnew, -⟩
  · exact hallows q hq (hsame ▸ hnone)
  · rw [hnone] at hnew
    cases hnew

theorem put (hmem : place ∈ places) (hnone : disk.at? place = none)
    (hallowed : disk.unwritable.lookup place.dropLast = none)
    (hadmits : Admits disk.entries place) :
    Gains places disk (disk.put place .directory hadmits) := by
  refine ⟨rfl, rfl, fitting_put_directory hnone hadmits, fun q => ?_⟩
  by_cases heq : q = place
  · rw [heq]
    exact Or.inr ⟨hmem, hnone, at?_put_self hadmits .directory, hallowed⟩
  · exact Or.inl (at?_put_of_ne heq hadmits .directory)

end Gains

theorem start_of_enclosing? (h : enclosing? path = some outer) :
    disk.start outer = disk.start path := by
  rw [start, start]
  simp only [head?_of_enclosing? h]

/-- The places around a path are those that the path of its directory leads down to. -/
theorem way_of_enclosing? (h : enclosing? path = some outer) :
    disk.way outer = onWay (disk.start path) (steps path).dropLast := by
  rw [way, start_of_enclosing? h, (encloses_of_enclosing? h).steps_eq]

theorem way_subset_of_enclosing? (h : enclosing? path = some outer) :
    disk.way outer ⊆ disk.way path := by
  rw [way_of_enclosing? h, way]
  rcases List.eq_nil_or_concat (steps path) with hnil | ⟨init, name, hconcat⟩
  · rw [hnil]
    exact List.Subset.refl _
  · rw [hconcat, List.concat_eq_append, List.dropLast_concat, onWay_append]
    exact List.subset_append_left _ _

theorem makeDirectory_gains (h : disk.makeDirectory path = .ok disk') :
    Gains (disk.way path) disk disk' := by
  unfold makeDirectory at h
  split at h
  · cases h
  · next place slash hfollow =>
    split at h
    · cases h
    · next hallowed =>
      cases h
      obtain ⟨hmem, hnone⟩ := mem_onWay_of_followFrom (followFrom_of_follow hfollow).2.2
      exact Gains.put hmem hnone hallowed _
  · cases h

theorem settleDirectory_gains (disk : Disk) (path : List Char) :
    Gains (disk.way path) disk (disk.settleDirectory path).1 := by
  unfold settleDirectory
  split
  · next hmake => exact makeDirectory_gains hmake
  · split <;> exact Gains.refl _ _

/-- Whatever happens to the directories around a path, the step for the path itself adds no more
than a directory. -/
theorem makeDirectories_cons_gains {around : List (List Char)}
    (h : Gains (disk.way path) disk (disk.makeDirectories around).1) :
    Gains (disk.way path) disk (disk.makeDirectories (path :: around)).1 := by
  unfold makeDirectories
  split
  · exact Gains.refl _ _
  · split
    · next hmake => exact makeDirectory_gains hmake
    · split
      · next disk' haround =>
        rw [haround] at h
        have hsettle := settleDirectory_gains disk' path
        rw [way, h.start] at hsettle
        exact h.trans hsettle
      · next haround =>
        rw [haround] at h
        exact h
    · split <;> exact Gains.refl _ _

/-- Only directories are new, and only at places that the path leads down to. -/
theorem makeDirectories_gains (disk : Disk) (n : Nat) (path : List Char) :
    Gains (disk.way path) disk (disk.makeDirectories (path :: enclosingAll n path)).1 := by
  induction n generalizing path with
  | zero => exact makeDirectories_cons_gains (Gains.refl _ _)
  | succ n ih =>
    refine makeDirectories_cons_gains ?_
    rw [enclosingAll]
    split
    · next outer houter => exact (ih outer).mono (way_subset_of_enclosing? houter)
    · exact Gains.refl _ _

/-! ## Making all that is missing -/

theorem follow_eq (hpath : IsSound path) (hne : path ≠ []) :
    disk.follow path = disk.followFrom (disk.start path) (Text.splitAt '/' path) := by
  rw [follow, if_neg hpath.nul, if_neg (by simpa using hne), if_neg (Nat.not_le.mpr hpath.short)]

theorem isSound_of_follow {target : Target} (h : disk.follow path = .ok target) :
    IsSound path := by
  unfold follow at h
  split at h
  · cases h
  · next hnul =>
    split at h
    · cases h
    · split at h
      · cases h
      · next hshort => exact ⟨hnul, Nat.not_le.mp hshort⟩

theorem makeDirectory_of_there (h : disk.follow path = .ok (.directory place)) :
    disk.makeDirectory path = .error .alreadyThere := by
  unfold makeDirectory
  split
  · next hfault => cases hfault.symm.trans h
  · next habsent => cases habsent.symm.trans h
  · rfl

theorem makeDirectory_of_missing (h : disk.follow path = .error .notFound) :
    disk.makeDirectory path = .error .notFound := by
  unfold makeDirectory
  split
  · next hfault =>
    cases hfault.symm.trans h
    rfl
  · next habsent => cases habsent.symm.trans h
  · next hother => cases hother.symm.trans h

theorem makeDirectory_of_absent {slash : Bool} (h : disk.follow path = .ok (.absent place slash))
    (hallowed : disk.unwritable.lookup place.dropLast = none) :
    ∃ hadmits, disk.makeDirectory path = .ok (disk.put place .directory hadmits) := by
  refine ⟨admits_of_follow h rfl, ?_⟩
  unfold makeDirectory
  split
  · next hfault => cases hfault.symm.trans h
  · next habsent =>
    cases habsent.symm.trans h
    rw [hallowed]
  · next hother hfollow => exact absurd (hfollow.symm.trans h) (by simpa using hother _ _)

/-- A new directory at the end of the names continues those that they lead down to. -/
theorem put_paved {here : Place} {init : List (List Char)} {name : List Char} {slash : Bool}
    (hname : isIdle name = false)
    (hfollow : disk.followFrom here (init ++ [name]) = .ok (.absent place slash))
    (hallowed : disk.unwritable.lookup place.dropLast = none)
    (hadmits : Admits disk.entries place) :
    (disk.put place .directory hadmits).IsPaved here (init.filter (!isIdle ·) ++ [name]) := by
  obtain ⟨hmem, hfree⟩ := mem_onWay_of_followFrom hfollow
  obtain ⟨hpaved, hup, hshort, hplace⟩ := place_of_followFrom_concat hname hfollow rfl
  refine (along_concat hup).mpr
    ⟨(Gains.put hmem hfree hallowed hadmits).isPaved hpaved, hshort, ?_⟩
  rw [← hplace]
  exact at?_put_self hadmits .directory

/-- The directory is made, or it is there, or the one around it is missing. -/
theorem makeDirectory_cases (hpath : IsSound path) (hne : path ≠ []) (htrimmed : IsTrimmed path)
    (hclear : disk.IsClear (disk.start path) (steps path))
    (hallows : disk.Allows (disk.way path)) :
    (∃ disk', disk.makeDirectory path = .ok disk' ∧
      disk'.IsPaved (disk.start path) (steps path)) ∨
    (disk.makeDirectory path = .error .alreadyThere ∧ disk.isDirectory path = true ∧
      disk.IsPaved (disk.start path) (steps path)) ∨
    (disk.makeDirectory path = .error .notFound ∧
      ¬ disk.IsPaved (disk.start path) (steps path).dropLast) := by
  have hdir : ∀ place, disk.followFrom (disk.start path) (Text.splitAt '/' path) =
      .ok (.directory place) → disk.makeDirectory path = .error .alreadyThere ∧
        disk.isDirectory path = true ∧ disk.IsPaved (disk.start path) (steps path) := by
    intro place hfollow
    refine ⟨?_, ?_, (followFrom_eq_directory_iff.mp hfollow).1⟩
    · exact makeDirectory_of_there (follow_eq hpath hne ▸ hfollow)
    · rw [isDirectory, follow_eq hpath hne, hfollow]
  rcases htrimmed with hnone | ⟨init, name, hsplit, hname⟩
  · -- the path goes by no name
    refine Or.inr (Or.inl (hdir (disk.start path) (followFrom_eq_directory_iff.mpr ?_)))
    rw [← steps, hnone]
    exact ⟨along_nil _ _ _, rfl⟩
  rcases followFrom_of_isClear hclear with ⟨place, hfollow⟩ | ⟨place, slash, hfollow⟩ | hfollow
  · exact Or.inr (Or.inl (hdir place hfollow))
  · obtain ⟨hmem, hnone⟩ := mem_onWay_of_followFrom hfollow
    have hallowed := hallows place hmem hnone
    obtain ⟨hadmits, hmake⟩ :=
      makeDirectory_of_absent (follow_eq hpath hne ▸ hfollow) hallowed
    refine Or.inl ⟨_, hmake, ?_⟩
    rw [steps_of_splitAt hsplit hname]
    exact put_paved hname (hsplit ▸ hfollow) hallowed hadmits
  · refine Or.inr (Or.inr ⟨?_, fun hpaved => ?_⟩)
    · exact makeDirectory_of_missing (follow_eq hpath hne ▸ hfollow)
    · rw [steps_of_splitAt hsplit hname, List.dropLast_concat] at hpaved
      have hshort : (Utf8.encode name).length ≤ maxName :=
        hclear.short name (by rw [steps_of_splitAt hsplit hname]; simp)
      exact followFrom_concat_ne_notFound hpaved hname hshort (hsplit ▸ hfollow)

/-- Where the places around the path are directories, so is the path in the end. -/
theorem settleDirectory_paved (hpath : IsSound path) (hne : path ≠ []) (htrimmed : IsTrimmed path)
    (hclear : disk.IsClear (disk.start path) (steps path))
    (hallows : disk.Allows (disk.way path))
    (hpaved : disk.IsPaved (disk.start path) (steps path).dropLast) :
    ∃ disk', disk.settleDirectory path = (disk', none) ∧
      disk'.IsPaved (disk.start path) (steps path) := by
  rcases makeDirectory_cases hpath hne htrimmed hclear hallows with
    ⟨disk', hmake, hdone⟩ | ⟨hmake, hthere, hdone⟩ | ⟨-, hmissing⟩
  · exact ⟨disk', by rw [settleDirectory, hmake], hdone⟩
  · refine ⟨disk, ?_, hdone⟩
    rw [settleDirectory, hmake]
    exact if_pos hthere
  · exact absurd hpaved hmissing

/-- Where no file is in the way, and what is missing may be made, every directory on it is made. -/
theorem makeDirectories_paved {n : Nat} (hpath : IsSound path) (htrimmed : IsTrimmed path)
    (hlength : path.length ≤ n) (hclear : disk.IsClear (disk.start path) (steps path))
    (hallows : disk.Allows (disk.way path)) :
    ∃ disk', disk.makeDirectories (path :: enclosingAll n path) = (disk', none) ∧
      disk'.IsPaved (disk.start path) (steps path) := by
  induction n generalizing path with
  | zero =>
    obtain rfl : path = [] := List.length_eq_zero_iff.mp (Nat.le_zero.mp hlength)
    exact ⟨disk, rfl, along_nil _ _ _⟩
  | succ n ih =>
    by_cases hne : path = []
    · rw [hne]
      exact ⟨disk, rfl, along_nil _ _ _⟩
    rw [makeDirectories, if_neg (by simpa using hne)]
    rcases makeDirectory_cases hpath hne htrimmed hclear hallows with
      ⟨disk', hmake, hdone⟩ | ⟨hmake, hthere, hdone⟩ | ⟨hmake, hmissing⟩
    · exact ⟨disk', by rw [hmake], hdone⟩
    · refine ⟨disk, ?_, hdone⟩
      rw [hmake]
      exact if_pos hthere
    · rw [hmake, enclosingAll]
      cases houter : enclosing? path with
      | none =>
        rw [steps_of_enclosing?_eq_none houter] at hmissing
        exact absurd (along_nil _ _ _) hmissing
      | some outer =>
        have hencloses := encloses_of_enclosing? houter
        have hstart : disk.start outer = disk.start path := start_of_enclosing? houter
        have hlt := hencloses.length_lt
        have hclear' : disk.IsClear (disk.start outer) (steps outer) := by
          rw [hstart, hencloses.steps_eq]
          exact hclear.dropLast
        obtain ⟨disk', hmade, hpaved⟩ := ih (hpath.of_prefix hencloses.isPrefix)
          hencloses.isTrimmed (by omega) hclear' fun q hq =>
            hallows q (way_subset_of_enclosing? houter hq)
        have hgains := makeDirectories_gains disk n outer
        rw [hmade] at hgains
        rw [hstart, hencloses.steps_eq, ← hgains.start path] at hpaved
        dsimp only
        rw [hmade]
        rw [← hgains.start path] at hclear ⊢
        have hallows' : disk'.Allows (disk'.way path) := by
          rw [way, hgains.start]
          exact hgains.allows hallows
        exact settleDirectory_paved hpath hne htrimmed ((hgains.isClear_iff _ _).mpr hclear)
          hallows' hpaved

end Disk

end DavCourier.Local
