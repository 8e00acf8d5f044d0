import DavCourier.Local.Entries

/-!
# Disks

A `Disk` holds files and directories, and has a current directory. It also says which of them
an operating system keeps from being read or changed (`Refusal`), and how many bytes the files
may have together. Every directory can be entered, and so a written path is followed name by
name (`follow`). Where it leads to a file, or to where one may be, a file can be put
(`admits_of_follow`).
-/

namespace DavCourier.Local

/-- Why an operating system keeps a file or a directory from being used. -/
inductive Refusal where
  | notPermitted
  | denied
  | busy
  | readOnly
  deriving DecidableEq, Repr

/-- Why a file or a directory cannot be used. -/
inductive Fault where
  | notFound
  | alreadyThere
  | notDirectory
  | isDirectory
  | nameTooLong
  | nul
  | noSpace
  | refused (refusal : Refusal)
  deriving DecidableEq, Repr

/-- The wording of a fault. -/
def Fault.message : Fault → String
  | refused .notPermitted => "Operation not permitted (os error 1)"
  | notFound => "No such file or directory (os error 2)"
  | refused .denied => "Permission denied (os error 13)"
  | alreadyThere => "File exists (os error 17)"
  | notDirectory => "Not a directory (os error 20)"
  | isDirectory => "Is a directory (os error 21)"
  | refused .busy => "Text file busy (os error 26)"
  | noSpace => "No space left on device (os error 28)"
  | refused .readOnly => "Read-only file system (os error 30)"
  | nameTooLong => "File name too long (os error 36)"
  | nul => "file name contained an unexpected NUL byte"

/-- Files and directories, and the current directory. -/
structure Disk where
  /-- What is below the root. -/
  entries : List (Place × Entry)
  /-- The place of the current directory. -/
  current : Place
  /-- What keeps the content of a file, or the names in a directory, from being read. -/
  unreadable : List (Place × Refusal) := []
  /-- What keeps the content of a file, or the names in a directory, from being changed. -/
  unwritable : List (Place × Refusal) := []
  /-- The number of bytes that the files may have together, if it is limited. -/
  capacity : Option Nat := none
  isProper : IsProper entries current ((unreadable ++ unwritable).map Prod.fst) := by decide

/-- Where a written path leads. -/
inductive Target where
  | directory (place : Place)
  /-- A slash may follow the name. -/
  | file (place : Place) (content : Bytes) (slash : Bool)
  /-- Nothing is there, but its directory exists. -/
  | absent (place : Place) (slash : Bool)
  deriving DecidableEq, Repr

/-- The place of a target that is a file or may become one, and whether a slash follows. -/
def Target.place? : Target → Option (Place × Bool)
  | .directory _ => none
  | .file place _ slash => some (place, slash)
  | .absent place slash => some (place, slash)

namespace Disk

/-- A disk with nothing but the current directory and those around it. -/
def blank (current : Place) (h : ∀ name ∈ current, IsFileName name) : Disk where
  entries := wayTo current
  current := current
  unreadable := []
  unwritable := []
  isProper := isProper_wayTo h

/-- What is at a place. -/
def at? (disk : Disk) (place : Place) : Option Entry :=
  entryAt? disk.entries place

/-- The disk with an entry at a place. -/
def put (disk : Disk) (place : Place) (entry : Entry) (h : Admits disk.entries place) : Disk :=
  { disk with
    entries := putEntry place entry disk.entries
    isProper := disk.isProper.put h entry }

/-- The disk without the file at a place. -/
def erase (disk : Disk) (place : Place) (h : disk.at? place ≠ some .directory) : Disk where
  entries := eraseEntry place disk.entries
  current := disk.current
  unreadable := disk.unreadable.filter fun e => e.1 ≠ place
  unwritable := disk.unwritable.filter fun e => e.1 ≠ place
  capacity := disk.capacity
  isProper := disk.isProper.erase h fun q hq => by
    rw [← List.filter_append] at hq
    obtain ⟨e, he, rfl⟩ := List.mem_map.mp hq
    obtain ⟨hmem, hne⟩ := List.mem_filter.mp he
    exact ⟨List.mem_map_of_mem hmem, of_decide_eq_true hne⟩

/-- The length that a written path stays below. -/
def maxPath : Nat := 4096

/-- Follows names from a directory. -/
def followFrom (disk : Disk) (here : Place) : List (List Char) → Except Fault Target
  | [] => .ok (.directory here)
  | name :: rest =>
    if isIdle name then followFrom disk here rest
    else if name = ['.', '.'] then followFrom disk here.dropLast rest
    else if maxName < (Utf8.encode name).length then .error .nameTooLong
    else
      match disk.at? (here ++ [name]) with
      | some .directory => followFrom disk (here ++ [name]) rest
      | some (.file content) =>
        if rest.all List.isEmpty then .ok (.file (here ++ [name]) content (!rest.isEmpty))
        else .error .notDirectory
      | none =>
        if rest.all List.isEmpty then .ok (.absent (here ++ [name]) (!rest.isEmpty))
        else .error .notFound

/-- The place that a path is followed from, which is the root if it starts with a slash. -/
def start (disk : Disk) (path : List Char) : Place :=
  if path.head? = some '/' then [] else disk.current

/-- Follows a written path. -/
def follow (disk : Disk) (path : List Char) : Except Fault Target :=
  if '\x00' ∈ path then .error .nul
  else if path.isEmpty then .error .notFound
  else if maxPath ≤ (Utf8.encode path).length then .error .nameTooLong
  else followFrom disk (disk.start path) (Text.splitAt '/' path)

variable {disk : Disk} {here place : Place} {target : Target} {slash : Bool}

theorem at?_start (disk : Disk) (path : List Char) :
    disk.at? (disk.start path) = some .directory := by
  unfold start
  split
  · exact entryAt?_nil _
  · exact disk.isProper.current

/-- The names between the slashes of a path lead where it leads, and to it nothing that holds a
NUL does. -/
theorem followFrom_of_follow {path : List Char} (h : disk.follow path = .ok target) :
    '\x00' ∉ path ∧ path ≠ [] ∧
      disk.followFrom (disk.start path) (Text.splitAt '/' path) = .ok target := by
  unfold follow at h
  split at h
  · cases h
  · next hnul =>
    split at h
    · cases h
    · next hempty =>
      split at h
      · cases h
      · exact ⟨hnul, fun hnil => hempty (by rw [hnil]; rfl), h⟩

/-- A last name in a directory may be that of a file. -/
theorem admits_concat {name : List Char} (hhere : disk.at? here = some .directory)
    (hname : IsFileName name) (hfree : disk.at? (here ++ [name]) ≠ some .directory) :
    Admits disk.entries (here ++ [name]) := by
  refine ⟨List.append_ne_nil_of_right_ne_nil _ (List.cons_ne_nil _ _), fun n hn => ?_, ?_, hfree⟩
  · rcases List.mem_append.mp hn with hn | hn
    · exact disk.isProper.named_of_entryAt? hhere n hn
    · rwa [List.mem_singleton.mp hn]
  · rw [List.dropLast_concat]
    exact hhere

theorem admits_of_followFrom {names : List (List Char)}
    (hhere : disk.at? here = some .directory) (hnames : ∀ name ∈ names, '/' ∉ name ∧ '\x00' ∉ name)
    (h : disk.followFrom here names = .ok target) (hplace : target.place? = some (place, slash)) :
    Admits disk.entries place := by
  have hlast : ∀ (here : Place) (name : List Char), disk.at? here = some .directory →
      '/' ∉ name ∧ '\x00' ∉ name → ¬ isIdle name = true → ¬ name = ['.', '.'] →
      ¬ maxName < (Utf8.encode name).length → disk.at? (here ++ [name]) ≠ some .directory →
      Admits disk.entries (here ++ [name]) := by
    intro here name hhere hname hidle hup hlong hfree
    rw [isIdle, Bool.or_eq_true, List.isEmpty_iff, beq_iff_eq, not_or] at hidle
    exact admits_concat hhere
      ⟨hidle.1, hidle.2, hup, hname.1, hname.2, Nat.not_lt.mp hlong⟩ hfree
  fun_induction followFrom disk here names with
  | case1 => cases h; cases hplace
  | case2 here name rest hidle ih => exact ih hhere (List.forall_mem_cons.mp hnames).2 h
  | case3 here rest hidle ih =>
    exact ih (disk.isProper.entryAt?_dropLast hhere) (List.forall_mem_cons.mp hnames).2 h
  | case5 here name rest hidle hup hlong hat ih =>
    exact ih hat (List.forall_mem_cons.mp hnames).2 h
  | case6 here name rest hidle hup hlong content hat =>
    cases h
    cases hplace
    exact hlast here name hhere (List.forall_mem_cons.mp hnames).1 hidle hup hlong (by simp [hat])
  | case8 here name rest hidle hup hlong hat =>
    cases h
    cases hplace
    exact hlast here name hhere (List.forall_mem_cons.mp hnames).1 hidle hup hlong (by simp [hat])
  | case4 | case7 | case9 => cases h

/-- Where a path leads to a file, or to where one may be, a file can be put. -/
theorem admits_of_follow {path : List Char} (h : disk.follow path = .ok target)
    (hplace : target.place? = some (place, slash)) : Admits disk.entries place := by
  obtain ⟨hnul, -, hfollow⟩ := followFrom_of_follow h
  exact admits_of_followFrom (at?_start disk path) (fun name hname =>
    ⟨Text.not_mem_of_mem_splitAt hname, fun hmem => hnul (Text.mem_of_mem_splitAt hname hmem)⟩)
    hfollow hplace

end Disk

end DavCourier.Local
