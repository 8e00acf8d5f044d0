import DavCourier.Proofs.Local.Proper
import DavCourier.Proofs.Text.Split
import DavCourier.Proofs.Text.Utf8

/-!
# Paths below a directory

Names that lead to a directory may be followed by others (`followFrom_append`). So the path of a
directory with the names of what is below it leads there, unless it is too long
(`follow_pathBelow`). `IsReadableAt` says that it is not, and that nothing keeps what is there from
being read. This is when a file there is read (`read_pathBelow`) and when a directory there is
opened (`listFault?_pathBelow`).
-/

namespace DavCourier.Local

variable {here place outer names : Place} {entry : Entry} {path : List Char} {content : Bytes}

/-- What a path without a slash at its end leads to. -/
def Entry.target (place : Place) : Entry → Target
  | .file content => .file place content false
  | .directory => .directory place

/-! ## Written paths -/

theorem pathBelow_nil (path : List Char) : pathBelow path [] = path := rfl

theorem pathBelow_of_ne_nil (path : List Char) (h : names ≠ []) : pathBelow path names =
    (if path.getLast? = some '/' then path else path ++ ['/']) ++ Text.join '/' names :=
  if_neg (by rw [List.isEmpty_iff]; exact h)

theorem pathBelow_eq_append (path : List Char) (names : Place) :
    ∃ rest, pathBelow path names = path ++ rest := by
  unfold pathBelow
  split
  · exact ⟨[], (List.append_nil path).symm⟩
  · split
    · exact ⟨_, rfl⟩
    · exact ⟨_, List.append_assoc _ _ _⟩

theorem nul_not_mem_pathBelow (hpath : '\x00' ∉ path) (hnames : ∀ name ∈ names, '\x00' ∉ name) :
    '\x00' ∉ pathBelow path names := by
  have hjoin : '\x00' ∉ Text.join '/' names := by
    intro hmem
    rcases Text.mem_join hmem with heq | ⟨name, hname, hmem⟩
    · cases heq
    · exact hnames name hname hmem
  unfold pathBelow
  split
  · exact hpath
  · rw [List.mem_append, not_or]
    refine ⟨?_, hjoin⟩
    split
    · exact hpath
    · rw [List.mem_append, not_or]
      exact ⟨hpath, by decide⟩

namespace Disk

variable {disk : Disk}

/-! ## Names after names -/

/-- Names that lead to a directory may be followed by others. -/
theorem followFrom_append {names : List (List Char)}
    (h : disk.followFrom here names = .ok (.directory place)) (more : List (List Char)) :
    disk.followFrom here (names ++ more) = disk.followFrom place more := by
  fun_induction followFrom disk here names with
  | case1 => cases h; rfl
  | case2 here name rest hidle ih => rw [List.cons_append, followFrom, if_pos hidle, ih h]
  | case3 here rest hidle ih => rw [List.cons_append, followFrom, if_neg hidle, if_pos rfl, ih h]
  | case5 here name rest hidle hup hlong hat ih =>
    rw [List.cons_append, followFrom, if_neg hidle, if_neg hup, if_neg hlong, hat]
    exact ih h
  | case4 | case6 | case7 | case8 | case9 => cases h

/-- A slash after the names that lead to a directory says nothing. -/
theorem followFrom_of_slash {names : List (List Char)}
    (h : disk.followFrom here (names ++ [[]]) = .ok (.directory place)) :
    disk.followFrom here names = .ok (.directory place) := by
  fun_induction followFrom disk here names with
  | case1 here => exact h
  | case2 here name rest hidle ih =>
    rw [List.cons_append, followFrom, if_pos hidle] at h
    exact ih h
  | case3 here rest hidle ih =>
    rw [List.cons_append, followFrom, if_neg hidle, if_pos rfl] at h
    exact ih h
  | case4 here name rest hidle hup hlong =>
    rw [List.cons_append, followFrom, if_neg hidle, if_neg hup, if_pos hlong] at h
    cases h
  | case5 here name rest hidle hup hlong hat ih =>
    rw [List.cons_append, followFrom, if_neg hidle, if_neg hup, if_neg hlong, hat] at h
    exact ih h
  -- names that lead to a file, or to nothing, do not lead to a directory with a slash
  | case6 here name rest hidle hup hlong content hat
  | case7 here name rest hidle hup hlong content hat
  | case8 here name rest hidle hup hlong hat
  | case9 here name rest hidle hup hlong hat =>
    rw [List.cons_append, followFrom, if_neg hidle, if_neg hup, if_neg hlong, hat] at h
    dsimp only at h
    split at h <;> cases h

/-- The names below a directory lead to what is there. -/
theorem followFrom_of_at? (hnames : ∀ name ∈ names, IsFileName name)
    (hhere : disk.at? here = some .directory) (h : disk.at? (here ++ names) = some entry) :
    disk.followFrom here names = .ok (entry.target (here ++ names)) := by
  induction names generalizing here with
  | nil =>
    rw [List.append_nil, hhere] at h
    cases h
    rw [List.append_nil]
    rfl
  | cons name rest ih =>
    obtain ⟨hempty, hdot, hup, -, -, hshort⟩ := hnames name List.mem_cons_self
    have hidle : ¬ isIdle name = true := by
      simp [isIdle, hempty, hdot]
    have hassoc : here ++ name :: rest = (here ++ [name]) ++ rest := by
      rw [List.append_assoc, List.singleton_append]
    rw [followFrom, if_neg hidle, if_neg hup, if_neg (Nat.not_lt.mpr hshort)]
    cases rest with
    | nil =>
      rw [h]
      cases entry <;> rfl
    | cons next rest =>
      have hway : disk.at? (here ++ [name]) = some .directory := by
        refine at?_onWay h (hassoc ▸ List.prefix_append _ _) fun heq => ?_
        rw [hassoc] at heq
        exact List.cons_ne_nil _ _ (List.self_eq_append_right.mp heq)
      rw [hassoc] at h ⊢
      rw [hway]
      exact ih (fun n hn => hnames n (List.mem_cons_of_mem _ hn)) hway h

/-! ## Below a path -/

/-- A path leads to the same directory without the slash at its end, and what is below it comes
after one. -/
theorem exists_pathBelow (hne : names ≠ [])
    (h : disk.followFrom here (Text.splitAt '/' path) = .ok (.directory place)) :
    ∃ base, pathBelow path names = base ++ '/' :: Text.join '/' names ∧
      disk.followFrom here (Text.splitAt '/' base) = .ok (.directory place) := by
  rw [pathBelow_of_ne_nil path hne]
  by_cases hlast : path.getLast? = some '/'
  · obtain ⟨base, rfl⟩ := List.getLast?_eq_some_iff.mp hlast
    rw [Text.splitAt_append] at h
    refine ⟨base, ?_, followFrom_of_slash h⟩
    rw [if_pos hlast, List.append_assoc, List.singleton_append]
  · refine ⟨path, ?_, h⟩
    rw [if_neg hlast, List.append_assoc, List.singleton_append]

theorem followFrom_pathBelow
    (hpath : disk.followFrom here (Text.splitAt '/' path) = .ok (.directory outer))
    (houter : disk.at? outer = some .directory) (h : disk.at? (outer ++ names) = some entry) :
    disk.followFrom here (Text.splitAt '/' (pathBelow path names)) =
      .ok (entry.target (outer ++ names)) := by
  by_cases hne : names = []
  · rw [hne, List.append_nil, houter] at h
    cases h
    rw [hne, pathBelow_nil, List.append_nil, hpath]
    rfl
  have hlegal : ∀ name ∈ names, IsFileName name := fun name hname =>
    disk.isProper.named_of_entryAt? h name (List.mem_append_right _ hname)
  obtain ⟨base, hbelow, hbase⟩ := exists_pathBelow hne hpath
  rw [hbelow, Text.splitAt_append,
    Text.splitAt_join hne fun name hname => (hlegal name hname).slash, followFrom_append hbase]
  exact followFrom_of_at? hlegal houter h

/-- The path of what is below a directory leads there, unless it is too long. -/
theorem follow_pathBelow (hpath : disk.follow path = .ok (.directory outer))
    (h : disk.at? (outer ++ names) = some entry) :
    disk.follow (pathBelow path names) =
      if maxPath ≤ (Utf8.encode (pathBelow path names)).length then .error .nameTooLong
      else .ok (entry.target (outer ++ names)) := by
  obtain ⟨hnul, hne, hfollow⟩ := followFrom_of_follow hpath
  obtain ⟨rest, hrest⟩ := pathBelow_eq_append path names
  have hnul' : '\x00' ∉ pathBelow path names := nul_not_mem_pathBelow hnul fun name hname =>
    (disk.isProper.named_of_entryAt? h name (List.mem_append_right _ hname)).nul
  have hempty : ¬ (pathBelow path names).isEmpty = true := by
    rw [List.isEmpty_iff, hrest]
    exact List.append_ne_nil_of_left_ne_nil hne rest
  have hstart : disk.start (pathBelow path names) = disk.start path := by
    rw [start, start, hrest, List.head?_append_of_ne_nil _ hne]
  rw [follow, if_neg hnul', if_neg hempty, hstart,
    followFrom_pathBelow hfollow (at?_of_follow hpath) h]

/-- The path of what is below a directory is not too long, and nothing keeps it from being
read. -/
structure IsReadableAt (disk : Disk) (path : List Char) (outer names : Place) : Prop where
  short : (Utf8.encode (pathBelow path names)).length < maxPath
  allowed : disk.unreadable.lookup (outer ++ names) = none

instance (disk : Disk) (path : List Char) (outer names : Place) :
    Decidable (disk.IsReadableAt path outer names) :=
  decidable_of_iff ((Utf8.encode (pathBelow path names)).length < maxPath ∧
    disk.unreadable.lookup (outer ++ names) = none) ⟨fun ⟨h, h'⟩ => ⟨h, h'⟩, fun ⟨h, h'⟩ => ⟨h, h'⟩⟩

/-- A file below a directory is read if and only if it can be, and then it has its content. -/
theorem read_pathBelow (hpath : disk.follow path = .ok (.directory outer))
    (h : disk.at? (outer ++ names) = some (.file content)) {content' : Bytes} :
    disk.read (pathBelow path names) = .ok content' ↔
      content' = content ∧ disk.IsReadableAt path outer names := by
  rw [read, follow_pathBelow hpath h]
  by_cases hlong : maxPath ≤ (Utf8.encode (pathBelow path names)).length
  · rw [if_pos hlong]
    exact iff_of_false nofun fun hboth => Nat.not_lt.mpr hlong hboth.2.short
  rw [if_neg hlong]
  dsimp only [Entry.target]
  cases hrefusal : disk.unreadable.lookup (outer ++ names) with
  | some refusal =>
    refine iff_of_false nofun fun hboth => ?_
    cases hrefusal.symm.trans hboth.2.allowed
  | none =>
    constructor
    · rintro ⟨⟩
      exact ⟨rfl, Nat.not_le.mp hlong, hrefusal⟩
    · rintro ⟨rfl, -⟩
      rfl

/-- So is a directory opened. -/
theorem listFault?_pathBelow (hpath : disk.follow path = .ok (.directory outer))
    (h : disk.at? (outer ++ names) = some .directory) :
    disk.listFault? (pathBelow path names) = none ↔ disk.IsReadableAt path outer names := by
  rw [listFault?, follow_pathBelow hpath h]
  by_cases hlong : maxPath ≤ (Utf8.encode (pathBelow path names)).length
  · rw [if_pos hlong]
    exact iff_of_false nofun fun hread => Nat.not_lt.mpr hlong hread.short
  · rw [if_neg hlong]
    dsimp only [Entry.target]
    rw [Option.map_eq_none_iff]
    exact ⟨fun hnone => ⟨Nat.not_le.mp hlong, hnone⟩, fun hread => hread.allowed⟩

end Disk

end DavCourier.Local
