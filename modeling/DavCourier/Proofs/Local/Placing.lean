import DavCourier.Proofs.Local.Making

/-!
# Files in new directories

A file can be at the end of a path if no file is where a directory around it has to be, the missing
directories may be made, and its own place is and stays no directory (`IsPlaceable`). Then the
directories around it are made (`makeAll_of_isPlaceable`), and otherwise what is there stays and no
file is reached (`isPlaceable_of_filePlace`). A content can be written to the path if the file may
be changed too and there is room for it (`IsWritable`), and then nothing else changes
(`IsWritable.stores`).

After a write that failed in a file that was reached, the file is gone if its directory lets it go
(`remains?`), also if it had been there before (`IsForfeit`). All else stays
(`IsPlaceable.leaves`).
-/

namespace DavCourier.Local

variable {path outer : List Char} {content : Bytes}

namespace Disk

variable {disk disk' : Disk} {places : List Place} {place : Place}

/-- The places that the path of the directory around a path leads down to. -/
def around (disk : Disk) (path : List Char) : List Place :=
  onWay (disk.start path) (steps path).dropLast

/-- The place that a path leads to. -/
def placeOf (disk : Disk) (path : List Char) : Place :=
  arrival (disk.start path) (steps path)

/-- A file can be where the path leads, after the directories around it were made. -/
structure IsPlaceable (disk : Disk) (path : List Char) : Prop where
  sound : IsSound path
  /-- The path ends with a name that a file may have. -/
  named : ∃ init name, Text.splitAt '/' path = init ++ [name] ∧ isIdle name = false ∧
    name ≠ ['.', '.']
  short : ∀ name ∈ steps path, (Utf8.encode name).length ≤ maxName
  /-- No file is where a directory has to be. -/
  clear : ∀ place ∈ disk.around path, ∀ content, disk.at? place ≠ some (.file content)
  allows : disk.Allows (disk.around path)
  /-- A directory is not there, and is not made there on the way. -/
  free : disk.placeOf path ∉ disk.around path ∧ disk.at? (disk.placeOf path) ≠ some .directory

/-- The content can be written to the path, after the directories around it were made. -/
structure IsWritable (disk : Disk) (path : List Char) (content : Bytes) : Prop extends
    IsPlaceable disk path where
  unlocked : disk.writeRefusal? (disk.placeOf path) = none
  fits : disk.fitting (disk.placeOf path) content = content

/-- The disk with a content in the file of a path, and with all directories around it. -/
structure Stores (disk : Disk) (path : List Char) (content : Bytes) (disk' : Disk) : Prop where
  current : disk'.current = disk.current
  at?_eq : ∀ place, disk'.at? place =
    if place = disk.placeOf path then some (.file content)
    else if place ∈ disk.around path then some .directory
    else disk.at? place
  follow : disk'.follow path = .ok (.file (disk.placeOf path) content false)

/-- What is at a place after a content could not be written there. If the directory lets the file
go, nothing; and else what of the content there was room for, or what was there before. -/
def remains? (disk : Disk) (place : Place) (content : Bytes) : Option Entry :=
  if disk.unwritable.lookup place.dropLast = none then none
  else if disk.writeRefusal? place = none then some (.file (disk.fitting place content))
  else disk.at? place

/-- The disk with all directories around a path, and at its end what remains. -/
structure Leaves (disk : Disk) (path : List Char) (content : Bytes) (disk' : Disk) : Prop where
  current : disk'.current = disk.current
  at?_eq : ∀ place, disk'.at? place =
    if place = disk.placeOf path then disk.remains? place content
    else if place ∈ disk.around path then some .directory
    else disk.at? place

/-- A file is where the path leads, and either its directory lets it go, or the content can take
the place of what it holds. -/
structure IsForfeit (disk : Disk) (path : List Char) (content : Bytes) : Prop where
  placeable : disk.IsPlaceable path
  there : disk.at? (disk.placeOf path) ≠ none
  lost : disk.unwritable.lookup (disk.placeOf path).dropLast = none ∨
    disk.writeRefusal? (disk.placeOf path) = none ∧ disk.at? (disk.placeOf path) ≠
      some (.file (disk.fitting (disk.placeOf path) content))

/-- Everything that was there is there. -/
def Keeps (disk disk' : Disk) : Prop :=
  ∀ place entry, disk.at? place = some entry → disk'.at? place = some entry

/-! ## The directories around a file -/

theorem makeAll_gains (disk : Disk) (h : enclosing? path = some outer) :
    Gains (disk.around path) disk (disk.makeAll outer).1 := by
  rw [around, ← way_of_enclosing? h]
  exact makeDirectories_gains disk outer.length outer

theorem makeAll_of_isPlaceable (hd : disk.IsPlaceable path) (h : enclosing? path = some outer) :
    ∃ disk', disk.makeAll outer = (disk', none) ∧ Gains (disk.around path) disk disk' ∧
      disk'.IsPaved (disk.start path) (steps path).dropLast := by
  have hencloses := encloses_of_enclosing? h
  have hstart : disk.start outer = disk.start path := start_of_enclosing? h
  have hclear : disk.IsClear (disk.start outer) (steps outer) := by
    rw [hstart, hencloses.steps_eq]
    exact ⟨fun name hname => hd.short name (List.dropLast_subset _ hname), hd.clear⟩
  obtain ⟨disk', hmade, hpaved⟩ := makeDirectories_paved
    (hd.sound.of_prefix hencloses.isPrefix) hencloses.isTrimmed le_rfl hclear
    (way_of_enclosing? h ▸ hd.allows)
  have hgains := makeAll_gains disk h
  rw [hstart, hencloses.steps_eq] at hpaved
  rw [makeAll, hmade] at hgains
  exact ⟨disk', hmade, hgains, hpaved⟩

/-! ## Reaching the file -/

/-- A path whose directories are there leads to a file, or to where one may be. -/
theorem follow_of_paved (hsound : IsSound path) {init : List (List Char)} {name : List Char}
    (hsplit : Text.splitAt '/' path = init ++ [name]) (hname : isIdle name = false)
    (hup : name ≠ ['.', '.']) (hshort : (Utf8.encode name).length ≤ maxName)
    (hpaved : disk.IsPaved (disk.start path) (steps path).dropLast)
    (hfree : disk.at? (disk.placeOf path) ≠ some .directory) :
    ∃ target, disk.follow path = .ok target ∧
      target.place? = some (disk.placeOf path, false) := by
  have hne : path ≠ [] := by
    rintro rfl
    have hlast := congrArg List.getLast? hsplit
    rw [List.getLast?_concat] at hlast
    cases hlast
    cases hname
  have hsteps := steps_of_splitAt hsplit hname
  rw [hsteps, List.dropLast_concat] at hpaved
  rw [placeOf, hsteps, arrival_concat hup] at hfree ⊢
  rw [follow_eq hsound hne, hsplit, followFrom_concat hpaved hname hup hshort]
  dsimp only
  cases hat : disk.at? (arrival (disk.start path) (init.filter (!isIdle ·)) ++ [name]) with
  | none => exact ⟨_, rfl, rfl⟩
  | some entry =>
    cases entry with
    | file old => exact ⟨_, rfl, rfl⟩
    | directory => exact absurd hat hfree

theorem IsPlaceable.filePlace (hd : disk.IsPlaceable path)
    (hgains : Gains (disk.around path) disk disk')
    (hpaved : disk'.IsPaved (disk.start path) (steps path).dropLast) :
    ∃ target hadmits, disk'.follow path = .ok target ∧
      target.place? = some (disk.placeOf path, false) ∧
      disk'.filePlace path = .ok ⟨disk.placeOf path, hadmits⟩ := by
  obtain ⟨init, name, hsplit, hname, hup⟩ := hd.named
  have hshort : (Utf8.encode name).length ≤ maxName :=
    hd.short name (by rw [steps_of_splitAt hsplit hname]; simp)
  have hplace : disk'.placeOf path = disk.placeOf path := by
    rw [placeOf, hgains.start, placeOf]
  have hfree : disk'.at? (disk'.placeOf path) ≠ some .directory := by
    rw [hplace, hgains.at?_of_not_mem hd.free.1]
    exact hd.free.2
  obtain ⟨target, hfollow, htarget⟩ :=
    follow_of_paved hd.sound hsplit hname hup hshort (hgains.start path ▸ hpaved) hfree
  rw [hplace] at htarget
  have hadmits := admits_of_follow hfollow htarget
  exact ⟨target, hadmits, hfollow, htarget, filePlace_of_follow hfollow htarget hadmits⟩

/-- No other path leads to a file, or to where one may be, after the directories around it were
made. -/
theorem isPlaceable_of_filePlace (hgains : Gains (disk.around path) disk disk')
    {file : {place : Place // Admits disk'.entries place}}
    (h : disk'.filePlace path = .ok file) : disk.IsPlaceable path := by
  obtain ⟨place, hadmits⟩ := file
  obtain ⟨target, hfollow, hplace⟩ := exists_of_filePlace h
  have hfrom := (followFrom_of_follow hfollow).2.2
  obtain ⟨init, name, hconcat⟩ := (List.eq_nil_or_concat (Text.splitAt '/' path)).resolve_left
    (Text.splitAt_ne_nil '/' path)
  rw [List.concat_eq_append] at hconcat
  rw [hconcat] at hfrom
  have hname : isIdle name = false := Bool.eq_false_iff.mpr fun hidle =>
    Bool.false_ne_true (slash_of_followFrom_concat hidle hfrom hplace)
  obtain ⟨hpaved, hup, hshort, hat⟩ := place_of_followFrom_concat hname hfrom hplace
  have hsteps := steps_of_splitAt hconcat hname
  have hinit : (steps path).dropLast = init.filter (!isIdle ·) := by
    rw [hsteps, List.dropLast_concat]
  rw [← hinit, hgains.start] at hpaved hat
  have hplaceOf : place = disk.placeOf path := by
    rw [hat, placeOf, hinit, hsteps, arrival_concat hup]
  refine ⟨isSound_of_follow hfollow, ⟨init, name, hconcat, hname, hup⟩, ?_, ?_, ?_, ?_, ?_⟩
  · have hfront := hpaved.short
    rw [hinit] at hfront
    rw [hsteps, List.forall_mem_append]
    exact ⟨hfront, List.forall_mem_singleton.mpr hshort⟩
  · exact ((hgains.isClear_iff _ _).mp hpaved.isClear).at?
  · -- what was missing is there now, so it could be made
    intro q hq hnone
    rcases hgains.at?_cases q with hsame | ⟨-, -, -, hallowed⟩
    · cases (hpaved.at? q hq).symm.trans (hsame.trans hnone)
    · exact hallowed
  · exact fun hmem => hadmits.free (hplaceOf ▸ hpaved.at? _ hmem)
  · exact fun hdir => hadmits.free (hplaceOf ▸ hgains.at?_of_some hdir)

/-! ## Writing -/

/-- The file at the end of a path is discarded if its directory lets it go, and nothing else is. -/
theorem discard_cases {target : Target} (hfollow : disk.follow path = .ok target)
    (hplace : target.place? = some (place, false)) :
    (disk.unwritable.lookup place.dropLast = none ∧
      ∃ hfree, disk.discard path = disk.erase place hfree) ∨
    ((disk.unwritable.lookup place.dropLast ≠ none ∨ disk.at? place = none) ∧
      disk.discard path = disk) := by
  cases target with
  | directory place' => cases hplace
  | absent place' slash =>
    cases hplace
    have hnone := (mem_onWay_of_followFrom (followFrom_of_follow hfollow).2.2).2
    exact Or.inr ⟨Or.inr hnone, discard_of_absent hfollow⟩
  | file place' old slash =>
    cases hplace
    exact (discard_of_file hfollow).imp_right fun h => ⟨Or.inl h.1, h.2⟩

theorem current_discard {target : Target} (hfollow : disk.follow path = .ok target)
    (hplace : target.place? = some (place, false)) :
    (disk.discard path).current = disk.current := by
  rcases discard_cases hfollow hplace with ⟨-, hfree, hdiscard⟩ | ⟨-, hdiscard⟩
  · rw [hdiscard]
    rfl
  · rw [hdiscard]

theorem at?_discard_self {target : Target} (hfollow : disk.follow path = .ok target)
    (hplace : target.place? = some (place, false)) : (disk.discard path).at? place =
      if disk.unwritable.lookup place.dropLast = none then none else disk.at? place := by
  rcases discard_cases hfollow hplace with ⟨hgoes, hfree, hdiscard⟩ | ⟨hstays, hdiscard⟩
  · rw [hdiscard, if_pos hgoes, at?_erase_self]
  · rw [hdiscard]
    split
    · next hgoes => exact hstays.resolve_left (not_not.mpr hgoes)
    · rfl

theorem at?_discard_of_ne {target : Target} (hfollow : disk.follow path = .ok target)
    (hplace : target.place? = some (place, false)) {q : Place} (hne : q ≠ place) :
    (disk.discard path).at? q = disk.at? q := by
  rcases discard_cases hfollow hplace with ⟨-, hfree, hdiscard⟩ | ⟨-, hdiscard⟩
  · rw [hdiscard, at?_erase_of_ne hne]
  · rw [hdiscard]

/-- After the directories around a path were made, they are all that is new. -/
theorem at?_of_paved (hgains : Gains (disk.around path) disk disk')
    (hpaved : disk'.IsPaved (disk.start path) (steps path).dropLast) (q : Place) :
    disk'.at? q = if q ∈ disk.around path then some .directory else disk.at? q := by
  split
  · next hmem => exact hpaved.at? q hmem
  · next hmem => exact hgains.at?_of_not_mem hmem

section

variable (hgains : Gains (disk.around path) disk disk')
  (hpaved : disk'.IsPaved (disk.start path) (steps path).dropLast)

include hgains

/-- What keeps a content from the file is the same after the directories were made. -/
theorem IsPlaceable.writeRefusal?_eq (hd : disk.IsPlaceable path) :
    disk'.writeRefusal? (disk.placeOf path) = disk.writeRefusal? (disk.placeOf path) := by
  rw [writeRefusal?, writeRefusal?, hgains.unwritable, hgains.at?_of_not_mem hd.free.1]

include hpaved

/-- After a write that failed, what remains of the file is left. -/
theorem IsPlaceable.leaves (hd : disk.IsPlaceable path) (hnot : ¬ disk.IsWritable path content) :
    ∃ disk'' fault, disk'.write path content = (disk'', some fault) ∧
      disk.Leaves path content (disk''.discard path) := by
  obtain ⟨target, hadmits, hfollow, hplace, hfile⟩ := hd.filePlace hgains hpaved
  have hsame := hd.writeRefusal?_eq hgains
  cases hrefusal : disk.writeRefusal? (disk.placeOf path) with
  | some refusal =>
    have hwrite := write_of_refusal hfile (hsame.trans hrefusal) content
    refine ⟨_, _, hwrite, (current_discard hfollow hplace).trans hgains.current, fun q => ?_⟩
    split
    · next heq =>
      have hlocked : disk.writeRefusal? (disk.placeOf path) ≠ none := by simp [hrefusal]
      rw [heq, at?_discard_self hfollow hplace, hgains.unwritable, hgains.at?_of_not_mem hd.free.1,
        remains?, if_neg hlocked]
    · next hother => rw [at?_discard_of_ne hfollow hplace hother, at?_of_paved hgains hpaved]
  | none =>
    have hwrite := write_of_unlocked hfile (hsame.trans hrefusal) content
    rw [hgains.fitting, if_neg fun hfits => hnot ⟨hd, hrefusal, hfits⟩] at hwrite
    have hfollow' := follow_put hfollow hplace hadmits
      (disk.fitting (disk.placeOf path) content)
    refine ⟨_, _, hwrite, (current_discard hfollow' rfl).trans hgains.current, fun q => ?_⟩
    split
    · next heq =>
      have hunwritable : (disk'.put (disk.placeOf path)
          (.file (disk.fitting (disk.placeOf path) content)) hadmits).unwritable =
            disk.unwritable := hgains.unwritable
      rw [heq, at?_discard_self hfollow' rfl, hunwritable, at?_put_self, remains?,
        if_pos hrefusal]
    · next hother =>
      rw [at?_discard_of_ne hfollow' rfl hother, at?_put_of_ne hother,
        at?_of_paved hgains hpaved]

/-- A content that can be written is in the file. -/
theorem IsWritable.stores (hd : disk.IsWritable path content) :
    ∃ disk'', disk'.write path content = (disk'', none) ∧ disk.Stores path content disk'' := by
  obtain ⟨target, hadmits, hfollow, hplace, hfile⟩ := hd.filePlace hgains hpaved
  have hwrite := write_of_unlocked hfile ((hd.writeRefusal?_eq hgains).trans hd.unlocked) content
  rw [hgains.fitting, if_pos hd.fits, hd.fits] at hwrite
  refine ⟨_, hwrite, hgains.current, fun q => ?_, follow_put hfollow hplace hadmits content⟩
  split
  · next heq => rw [heq, at?_put_self]
  · next hother => rw [at?_put_of_ne hother, at?_of_paved hgains hpaved]

end

/-- Where no file can be, nothing is written and nothing is discarded. -/
theorem write_of_not_isPlaceable (hgains : Gains (disk.around path) disk disk')
    (hnot : ¬ disk.IsPlaceable path) (content : Bytes) :
    ∃ fault, disk'.write path content = (disk', some fault) ∧ disk'.discard path = disk' := by
  cases hfile : disk'.filePlace path with
  | ok file => exact absurd (isPlaceable_of_filePlace hgains hfile) hnot
  | error fault =>
    refine ⟨fault, ?_, discard_of_filePlace hfile⟩
    rw [Disk.write, hfile]

theorem remains?_eq_at?_iff (hthere : disk.at? place ≠ none) :
    disk.remains? place content = disk.at? place ↔
      ¬ (disk.unwritable.lookup place.dropLast = none ∨
        disk.writeRefusal? place = none ∧
          disk.at? place ≠ some (.file (disk.fitting place content))) := by
  unfold remains?
  split
  · next hgoes => exact iff_of_false hthere.symm fun h => h (Or.inl hgoes)
  · next hstays =>
    split
    · next hunlocked => simp [hstays, hunlocked, eq_comm]
    · next hlocked => exact iff_of_true rfl fun h => hlocked (h.resolve_left hstays).1

/-- What a failed write leaves is all that was there, unless a file is forfeit. -/
theorem Leaves.keeps_iff (h : disk.Leaves path content disk') (hd : disk.IsPlaceable path) :
    disk.Keeps disk' ↔ ¬ disk.IsForfeit path content := by
  constructor
  · intro hkeeps hforfeit
    obtain ⟨entry, hat⟩ := Option.ne_none_iff_exists'.mp hforfeit.there
    have hkept := hkeeps _ _ hat
    rw [h.at?_eq, if_pos rfl] at hkept
    exact (remains?_eq_at?_iff hforfeit.there).mp (hkept.trans hat.symm) hforfeit.lost
  · intro hnot place entry hat
    rw [h.at?_eq]
    split
    · next heq =>
      rw [heq] at hat ⊢
      have hthere : disk.at? (disk.placeOf path) ≠ none := by simp [hat]
      have hkept := (remains?_eq_at?_iff hthere).mpr fun hlost => hnot ⟨hd, hthere, hlost⟩
      exact hkept.trans hat
    · split
      · next hmem =>
        cases entry with
        | directory => rfl
        | file old => exact absurd hat (hd.clear place hmem old)
      · exact hat

theorem Gains.keeps (h : Gains places disk disk') : disk.Keeps disk' :=
  fun _ _ hat => h.at?_of_some hat

end Disk

end DavCourier.Local
