import DavCourier.Local.Files
import Mathlib.Data.List.Induction
import Mathlib.Data.List.Nodup

/-!
# What is on a disk

A place of a disk has one entry (`mem_entries`), and what is around it is a directory
(`at?_onWay`). So a path that leads to a directory leads to one that is there (`at?_of_follow`),
a walk comes to everything below a directory (`mem_visited`), and no file is on the way to another
one (`not_prefix_of_mem_filesBelow`).
-/

namespace DavCourier.Local

namespace Disk

variable {disk : Disk} {place outer : Place} {entry : Entry} {names : Place} {content : Bytes}

/-- No place has two entries, since one of them would be before the other. -/
theorem nodup_entries (disk : Disk) : (disk.entries.map Prod.fst).Nodup := by
  refine List.pairwise_map.mpr (disk.isProper.ordered.imp fun {a b} hlt heq => ?_)
  rw [heq] at hlt
  exact List.lt_irrefl b.1 hlt

theorem mem_entries : (place, entry) ∈ disk.entries ↔ place ≠ [] ∧ disk.at? place = some entry := by
  constructor
  · intro hmem
    have hne := (disk.isProper.named _ hmem).1
    refine ⟨hne, ?_⟩
    rw [at?, entryAt?_of_ne_nil hne]
    cases hfind : disk.entries.find? fun e => e.1 = place with
    | none =>
      have hnone := List.find?_eq_none.mp hfind _ hmem
      simp at hnone
    | some e =>
      have heq : e.1 = place := by simpa using List.find?_some hfind
      rw [List.inj_on_of_nodup_map disk.nodup_entries (List.mem_of_find?_eq_some hfind) hmem heq]
      rfl
  · rintro ⟨hne, hat⟩
    exact mem_of_entryAt? hne hat

/-- Whatever is around a file or a directory is a directory. -/
theorem at?_dropLast (h : disk.at? place = some entry) :
    disk.at? place.dropLast = some .directory :=
  disk.isProper.entryAt?_dropLast h

theorem at?_onWay (h : disk.at? place = some entry) (hm : outer <+: place) (hne : outer ≠ place) :
    disk.at? outer = some .directory := by
  induction place using List.reverseRecOn generalizing entry with
  | nil => exact absurd (List.prefix_nil.mp hm) hne
  | append_singleton place name ih =>
    have hplace := at?_dropLast h
    rw [List.dropLast_concat] at hplace
    by_cases heq : outer = place
    · rw [heq, hplace]
    · exact ih hplace ((List.prefix_concat_iff.mp hm).resolve_left hne) heq

/-! ## Following a written path -/

theorem at?_of_followFrom {here : Place} {names : List (List Char)}
    (hhere : disk.at? here = some .directory)
    (h : disk.followFrom here names = .ok (.directory place)) :
    disk.at? place = some .directory := by
  fun_induction followFrom disk here names with
  | case1 here =>
    cases h
    exact hhere
  | case2 here name rest hidle ih => exact ih hhere h
  | case3 here rest hidle ih => exact ih (at?_dropLast hhere) h
  | case5 here name rest hidle hup hlong hat ih => exact ih hat h
  | case4 | case6 | case7 | case8 | case9 => cases h

/-- A path that leads to a directory leads to one that is there. -/
theorem at?_of_follow {path : List Char} (h : disk.follow path = .ok (.directory place)) :
    disk.at? place = some .directory :=
  at?_of_followFrom (at?_start disk path) (followFrom_of_follow h).2.2

/-! ## What is below a directory -/

/-- The files below a place, with the names that lead there. -/
def filesBelow (disk : Disk) (outer : Place) : List (Place × Bytes) :=
  (disk.below outer).filterMap fun (names, entry) =>
    match entry with
    | .directory => none
    | .file content => some (names, content)

theorem below?_eq_some : below? outer place = some names ↔ place = outer ++ names := by
  unfold below?
  split
  · next hprefix =>
    obtain ⟨rest, rfl⟩ := List.isPrefixOf_iff_prefix.mp hprefix
    rw [List.drop_left, Option.some.injEq, List.append_cancel_left_eq, eq_comm]
  · next hprefix =>
    refine iff_of_false nofun ?_
    rintro rfl
    exact hprefix (List.isPrefixOf_iff_prefix.mpr (List.prefix_append _ _))

/-- An entry that is listed below a place has other names after those of the place. -/
theorem mem_entry_below {e : Place × Entry} :
    (match below? outer e.1 with
      | none | some [] => none
      | some names => some (names, e.2)) = some (names, entry) ↔
    names ≠ [] ∧ e = (outer ++ names, entry) := by
  obtain ⟨place, entry'⟩ := e
  cases hbelow : below? outer place with
  | none =>
    refine iff_of_false nofun ?_
    rintro ⟨-, heq⟩
    rw [below?_eq_some.mpr (Prod.mk.inj heq).1] at hbelow
    cases hbelow
  | some rest =>
    obtain rfl := below?_eq_some.mp hbelow
    cases rest with
    | nil =>
      refine iff_of_false nofun ?_
      rintro ⟨hne, heq⟩
      exact hne (List.append_cancel_left (Prod.mk.inj heq).1).symm
    | cons name rest =>
      simp only [Option.some.injEq, Prod.mk.injEq, List.append_cancel_left_eq]
      constructor
      · rintro ⟨rfl, rfl⟩
        exact ⟨List.cons_ne_nil _ _, rfl, rfl⟩
      · exact fun h => h.2

theorem mem_below :
    (names, entry) ∈ disk.below outer ↔ names ≠ [] ∧ disk.at? (outer ++ names) = some entry := by
  unfold below
  rw [List.mem_filterMap]
  constructor
  · rintro ⟨e, hmem, he⟩
    obtain ⟨hne, rfl⟩ := mem_entry_below.mp he
    exact ⟨hne, (mem_entries.mp hmem).2⟩
  · rintro ⟨hne, hat⟩
    exact ⟨_, mem_entries.mpr ⟨List.append_ne_nil_of_right_ne_nil _ hne, hat⟩,
      mem_entry_below.mpr ⟨hne, rfl⟩⟩

/-- A walk comes to everything below a directory. -/
theorem mem_visited (houter : disk.at? outer = some .directory) :
    (names, entry) ∈ disk.visited outer ↔ disk.at? (outer ++ names) = some entry := by
  rw [visited, List.mem_cons, mem_below, Prod.mk.injEq]
  by_cases hne : names = []
  · simp [hne, houter, eq_comm]
  · simp [hne]

theorem mem_filesBelow_iff_mem_below :
    (names, content) ∈ disk.filesBelow outer ↔ (names, .file content) ∈ disk.below outer := by
  unfold filesBelow
  rw [List.mem_filterMap]
  constructor
  · rintro ⟨⟨names', entry⟩, hmem, he⟩
    cases entry with
    | directory => cases he
    | file content' =>
      cases he
      exact hmem
  · exact fun hmem => ⟨_, hmem, rfl⟩

theorem mem_filesBelow (houter : disk.at? outer = some .directory) :
    (names, content) ∈ disk.filesBelow outer ↔
      disk.at? (outer ++ names) = some (.file content) := by
  rw [mem_filesBelow_iff_mem_below, mem_below, and_iff_right_iff_imp]
  rintro hfile rfl
  rw [List.append_nil, houter] at hfile
  cases hfile

/-- A file that is below a directory has names there. -/
theorem names_of_mem_filesBelow (houter : disk.at? outer = some .directory)
    (h : (names, content) ∈ disk.filesBelow outer) :
    names ≠ [] ∧ ∀ name ∈ names, IsFileName name := by
  refine ⟨(mem_below.mp (mem_filesBelow_iff_mem_below.mp h)).1, fun name hname => ?_⟩
  exact disk.isProper.named_of_entryAt? ((mem_filesBelow houter).mp h) name
    (List.mem_append_right _ hname)

/-- No file is on the way to another one. -/
theorem not_prefix_of_mem_filesBelow (houter : disk.at? outer = some .directory)
    {a b : Place × Bytes} (ha : a ∈ disk.filesBelow outer) (hb : b ∈ disk.filesBelow outer)
    (hne : a.1 ≠ b.1) : ¬ a.1 <+: b.1 := by
  intro hprefix
  have hfile := (mem_filesBelow houter).mp ha
  have hway : disk.at? (outer ++ a.1) = some .directory := by
    refine at?_onWay ((mem_filesBelow houter).mp hb)
      ((List.prefix_append_right_inj outer).mpr hprefix) ?_
    rw [ne_eq, List.append_cancel_left_eq]
    exact hne
  rw [hfile] at hway
  cases hway

end Disk

end DavCourier.Local
