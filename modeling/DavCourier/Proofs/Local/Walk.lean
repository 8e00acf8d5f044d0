import DavCourier.Proofs.Local.Below
import Mathlib.Data.Char
import Mathlib.Data.List.Lex
import Mathlib.Order.Basic

/-!
# Walks

A walk comes to what is below a directory in the order of the places, since the entries of a disk
are in this order. So the files come depth first, and those of one directory by the bytes of their
names (`pairwise_filesBelow`). A walk finds all of them if it can open every directory
(`walk_eq_ok_iff`), and stops at the first one that it cannot (`walk_eq_error_iff`). Where
everything can be read (`IsReadable`) it does not stop, and finds files that can be read
(`isReadable_iff`).
-/

namespace DavCourier.Local

variable {outer names : Place} {path q : List Char} {fault : Fault}

/-! ## The order of places -/

theorem encode_place_lt {a b : Place} (h : a < b) : a.map Utf8.encode < b.map Utf8.encode := by
  induction a generalizing b with
  | nil =>
    cases b with
    | nil => exact absurd h (List.not_lt_nil [])
    | cons name b => exact List.nil_lt_cons _ _
  | cons name a ih =>
    cases b with
    | nil => exact absurd h (List.not_lt_nil _)
    | cons name' b =>
      rw [List.map_cons, List.map_cons, List.cons_lt_cons_iff]
      rcases List.cons_lt_cons_iff.mp h with hlt | ⟨rfl, hlt⟩
      · exact Or.inl (Utf8.encode_lt_encode hlt)
      · exact Or.inr ⟨rfl, ih hlt⟩

theorem encode_place_lt_iff {a b : Place} : a.map Utf8.encode < b.map Utf8.encode ↔ a < b := by
  refine ⟨fun h => ?_, encode_place_lt⟩
  rcases @lt_trichotomy (List (List Char)) _ a b with hlt | rfl | hlt
  · exact hlt
  · exact absurd h (List.lt_irrefl _)
  · exact absurd (List.lt_trans h (encode_place_lt hlt)) (List.lt_irrefl _)

theorem lt_of_append_lt_append {z a b : Place} (h : z ++ a < z ++ b) : a < b := by
  induction z with
  | nil => exact h
  | cons name z ih =>
    rcases List.cons_lt_cons_iff.mp h with hlt | ⟨-, hlt⟩
    · exact absurd hlt (List.lt_irrefl name)
    · exact ih hlt

namespace Disk

variable {disk : Disk} {entries : List (Place × Entry)} {files : List Place}

theorem pairwise_below (disk : Disk) (outer : Place) :
    (disk.below outer).Pairwise fun a b => a.1 < b.1 := by
  refine List.Pairwise.filterMap _ (fun e e' hlt b hb b' hb' => ?_) disk.isProper.ordered
  obtain ⟨-, rfl⟩ := mem_entry_below.mp hb
  obtain ⟨-, rfl⟩ := mem_entry_below.mp hb'
  exact lt_of_append_lt_append hlt

/-- A walk comes to a directory before it comes to what is in it. -/
theorem pairwise_visited (disk : Disk) (outer : Place) :
    (disk.visited outer).Pairwise fun a b => a.1 < b.1 := by
  refine List.pairwise_cons.mpr ⟨fun e he => ?_, disk.pairwise_below outer⟩
  obtain ⟨name, rest, hnames⟩ := List.exists_cons_of_ne_nil (mem_below.mp he).1
  rw [hnames]
  exact List.nil_lt_cons _ _

/-- The files below a directory come in the order of the names that lead there. -/
theorem pairwise_filesBelow (disk : Disk) (outer : Place) :
    (disk.filesBelow outer).Pairwise fun a b => a.1.map Utf8.encode < b.1.map Utf8.encode := by
  refine List.Pairwise.filterMap _ (fun e e' hlt file hfile file' hfile' => ?_)
    (disk.pairwise_below outer)
  obtain ⟨names, entry⟩ := e
  obtain ⟨names', entry'⟩ := e'
  cases entry <;> cases hfile
  cases entry' <;> cases hfile'
  exact encode_place_lt hlt

theorem nodup_filesBelow (disk : Disk) (outer : Place) :
    ((disk.filesBelow outer).map Prod.fst).Nodup := by
  refine List.pairwise_map.mpr ((disk.pairwise_filesBelow outer).imp fun {a b} hlt heq => ?_)
  rw [heq] at hlt
  exact List.lt_irrefl _ hlt

/-! ## What a walk finds -/

/-- A walk goes on after a file, and after a directory that it can open. -/
def Opens (disk : Disk) (path : List Char) (e : Place × Entry) : Prop :=
  e.2 = .directory → disk.listFault? (pathBelow path e.1) = none

theorem visit_eq_ok_iff : disk.visit path entries = .ok files ↔
    (∀ e ∈ entries, disk.Opens path e) ∧
      files = entries.filterMap fun e => if e.2 = .directory then none else some e.1 := by
  fun_induction visit disk path entries generalizing files with
  | case1 => simp [eq_comm]
  | case2 names content rest ih =>
    rw [List.forall_mem_cons, Fallible.map_eq_ok]
    have hopens : disk.Opens path (names, .file content) := nofun
    constructor
    · rintro ⟨found, hfound, rfl⟩
      obtain ⟨hrest, rfl⟩ := ih.mp hfound
      exact ⟨⟨hopens, hrest⟩, rfl⟩
    · rintro ⟨⟨-, hrest⟩, rfl⟩
      exact ⟨_, ih.mpr ⟨hrest, rfl⟩, rfl⟩
  | case3 names rest fault hclosed =>
    refine iff_of_false nofun fun h => ?_
    cases hclosed.symm.trans (h.1 _ List.mem_cons_self rfl)
  | case4 names rest hopen ih =>
    have hopens : disk.Opens path (names, .directory) := fun _ => hopen
    rw [List.forall_mem_cons, and_iff_right hopens]
    exact ih

theorem visit_eq_error_iff : disk.visit path entries = .error (q, fault) ↔
    ∃ before names after, entries = before ++ (names, .directory) :: after ∧
      (∀ e ∈ before, disk.Opens path e) ∧ q = pathBelow path names ∧
      disk.listFault? (pathBelow path names) = some fault := by
  fun_induction visit disk path entries with
  | case1 => simp
  | case2 names content rest ih =>
    rw [Fallible.map_eq_error, ih]
    constructor
    · rintro ⟨before, names', after, rfl, hbefore, hclosed⟩
      exact ⟨(names, .file content) :: before, names', after, rfl,
        List.forall_mem_cons.mpr ⟨nofun, hbefore⟩, hclosed⟩
    · rintro ⟨before, names', after, heq, hbefore, hclosed⟩
      rcases List.cons_eq_append_iff.mp heq with ⟨-, hcons⟩ | ⟨before, rfl, hrest⟩
      · cases hcons
      · exact ⟨before, names', after, hrest, (List.forall_mem_cons.mp hbefore).2, hclosed⟩
  | case3 names rest fault' hclosed =>
    constructor
    · rintro ⟨⟩
      exact ⟨[], names, rest, rfl, nofun, rfl, hclosed⟩
    · rintro ⟨before, names', after, heq, hbefore, rfl, hclosed'⟩
      rcases List.cons_eq_append_iff.mp heq with ⟨-, hcons⟩ | ⟨before, rfl, -⟩
      · cases hcons
        rw [Option.some.inj (hclosed.symm.trans hclosed')]
      · cases hclosed.symm.trans (hbefore _ List.mem_cons_self rfl)
  | case4 names rest hopen ih =>
    rw [ih]
    constructor
    · rintro ⟨before, names', after, rfl, hbefore, hclosed⟩
      exact ⟨(names, .directory) :: before, names', after, rfl,
        List.forall_mem_cons.mpr ⟨fun _ => hopen, hbefore⟩, hclosed⟩
    · rintro ⟨before, names', after, heq, hbefore, rfl, hclosed⟩
      rcases List.cons_eq_append_iff.mp heq with ⟨-, hcons⟩ | ⟨before, rfl, hrest⟩
      · cases hcons
        cases hopen.symm.trans hclosed
      · exact ⟨before, names', after, hrest, (List.forall_mem_cons.mp hbefore).2, rfl, hclosed⟩

/-- A walk can open every directory. -/
def OpensAll (disk : Disk) (path : List Char) (outer : Place) : Prop :=
  ∀ names, disk.at? (outer ++ names) = some .directory →
    disk.listFault? (pathBelow path names) = none

/-- A walk comes to a directory that it cannot open, and could open those before it. -/
structure StopsAt (disk : Disk) (path : List Char) (outer names : Place) (fault : Fault) :
    Prop where
  directory : disk.at? (outer ++ names) = some .directory
  closed : disk.listFault? (pathBelow path names) = some fault
  first : ∀ names', disk.at? (outer ++ names') = some .directory →
    names'.map Utf8.encode < names.map Utf8.encode →
    disk.listFault? (pathBelow path names') = none

/-- What a walk finds are the files below the directory. -/
theorem map_filesBelow (disk : Disk) (outer : Place) : (disk.filesBelow outer).map Prod.fst =
    (disk.visited outer).filterMap fun e => if e.2 = .directory then none else some e.1 := by
  have hroot : ((disk.visited outer).filterMap fun e =>
      if e.2 = .directory then none else some e.1) =
        (disk.below outer).filterMap fun e => if e.2 = .directory then none else some e.1 := rfl
  rw [hroot, filesBelow, List.map_filterMap]
  congr 1
  funext ⟨names, entry⟩
  cases entry <;> rfl

/-- A walk finds all files if it can open every directory. -/
theorem walk_eq_ok_iff (houter : disk.at? outer = some .directory) :
    disk.walk path outer = .ok files ↔
      disk.OpensAll path outer ∧ files = (disk.filesBelow outer).map Prod.fst := by
  rw [walk, visit_eq_ok_iff, map_filesBelow]
  refine and_congr_left fun _ => ⟨fun hopens names hdir => ?_, fun hopens e he hdir => ?_⟩
  · exact hopens (names, .directory) ((mem_visited houter).mpr hdir) rfl
  · obtain ⟨names, entry⟩ := e
    obtain rfl : entry = .directory := hdir
    exact hopens names ((mem_visited houter).mp he)

/-- A walk fails at the first directory that it cannot open. -/
theorem walk_eq_error_iff (houter : disk.at? outer = some .directory) :
    disk.walk path outer = .error (q, fault) ↔
      ∃ names, q = pathBelow path names ∧ disk.StopsAt path outer names fault := by
  rw [walk, visit_eq_error_iff]
  have hordered := disk.pairwise_visited outer
  constructor
  · rintro ⟨before, names, after, heq, hbefore, rfl, hclosed⟩
    rw [heq] at hordered
    have hafter := (List.pairwise_cons.mp (List.pairwise_append.mp hordered).2.1).1
    refine ⟨names, rfl, (mem_visited houter).mp (heq ▸ List.mem_append_right _ List.mem_cons_self),
      hclosed, fun names' hdir hlt => ?_⟩
    rw [encode_place_lt_iff] at hlt
    have hmem := (mem_visited houter).mpr hdir
    rw [heq] at hmem
    rcases List.mem_append.mp hmem with hmem | hmem
    · exact hbefore _ hmem rfl
    rcases List.mem_cons.mp hmem with hsame | hmem
    · rw [(Prod.mk.inj hsame).1] at hlt
      exact absurd hlt (List.lt_irrefl _)
    · exact absurd (List.lt_trans hlt (hafter _ hmem)) (List.lt_irrefl _)
  · rintro ⟨names, rfl, hstop⟩
    obtain ⟨before, after, heq⟩ :=
      List.append_of_mem ((mem_visited houter).mpr hstop.directory)
    rw [heq] at hordered
    refine ⟨before, names, after, heq, fun e he hdir => ?_, rfl, hstop.closed⟩
    obtain ⟨names', entry⟩ := e
    obtain rfl : entry = .directory := hdir
    refine hstop.first names' ((mem_visited houter).mp (heq ▸ List.mem_append_left _ he))
      (encode_place_lt ?_)
    exact (List.pairwise_append.mp hordered).2.2 _ he _ List.mem_cons_self

/-! ## What can be read -/

/-- Everything that a walk comes to can be read. -/
def IsReadable (disk : Disk) (path : List Char) (outer : Place) : Prop :=
  ∀ e ∈ disk.visited outer, disk.IsReadableAt path outer e.1

instance (disk : Disk) (path : List Char) (outer : Place) :
    Decidable (disk.IsReadable path outer) := by
  unfold IsReadable; infer_instance

/-- Everything can be read if a walk can open every directory, and every file can be read. -/
theorem isReadable_iff (hpath : disk.follow path = .ok (.directory outer)) :
    disk.IsReadable path outer ↔ disk.OpensAll path outer ∧
      ∀ file ∈ disk.filesBelow outer, disk.IsReadableAt path outer file.1 := by
  have houter := at?_of_follow hpath
  constructor
  · refine fun h => ⟨fun names hdir => ?_, fun file hfile => ?_⟩
    · exact (listFault?_pathBelow hpath hdir).mpr (h _ ((mem_visited houter).mpr hdir))
    · exact h _ ((mem_visited houter).mpr ((mem_filesBelow houter).mp hfile))
  · rintro ⟨hopens, hfiles⟩ ⟨names, entry⟩ he
    have hat := (mem_visited houter).mp he
    cases entry with
    | directory => exact (listFault?_pathBelow hpath hat).mp (hopens names hat)
    | file content => exact hfiles _ ((mem_filesBelow houter).mpr hat)

end Disk

end DavCourier.Local
