import DavCourier.Local.Disk

/-!
# Using files and directories

Reading, writing and removing files and making and opening directories refuse what an
operating system refuses, for the same reason (`Fault`) : for the path, for what keeps the file
or the directory from being used, or for want of room. A write changes nothing unless it gets
to the file. Then the old content is gone, and what there is room for is in its place.

`walk` goes through all that is below a directory, in the order of the entries, which is that of
a walk by name. It opens each directory by its path when it comes to it.
-/

namespace DavCourier.Local

namespace Disk

/-- Whether a path leads to a directory. -/
def isDirectory (disk : Disk) (path : List Char) : Bool :=
  match disk.follow path with
  | .ok (.directory _) => true
  | _ => false

/-! ## Files -/

/-- The content of a file. -/
def read (disk : Disk) (path : List Char) : Except Fault Bytes :=
  match disk.follow path with
  | .error fault => .error fault
  | .ok (.directory _) => .error .isDirectory
  | .ok (.file place content slash) =>
    if slash then .error .notDirectory
    else
      match disk.unreadable.lookup place with
      | some refusal => .error (.refused refusal)
      | none => .ok content
  | .ok (.absent _ _) => .error .notFound

/-- The place that a path leads to, where a file is or may be. -/
def filePlace (disk : Disk) (path : List Char) :
    Except Fault {place : Place // Admits disk.entries place} :=
  match h : disk.follow path with
  | .error fault => .error fault
  | .ok (.directory _) => .error .isDirectory
  | .ok (.file place _ slash) =>
    if slash then .error .isDirectory else .ok ⟨place, admits_of_follow h rfl⟩
  | .ok (.absent place slash) =>
    if slash then .error .isDirectory else .ok ⟨place, admits_of_follow h rfl⟩

/-- What keeps a content from a place : what keeps the file there from being changed or, for a
new file, its directory. -/
def writeRefusal? (disk : Disk) (place : Place) : Option Refusal :=
  disk.unwritable.lookup (if (disk.at? place).isNone then place.dropLast else place)

/-- The number of bytes in files. -/
def total : List (Place × Entry) → Nat
  | [] => 0
  | (_, .file content) :: rest => content.length + total rest
  | (_, .directory) :: rest => total rest

/-- The number of bytes in the files at other places. -/
def load (disk : Disk) (place : Place) : Nat :=
  total (eraseEntry place disk.entries)

/-- As much of a content as there is room for at a place. -/
def fitting (disk : Disk) (place : Place) (content : Bytes) : Bytes :=
  match disk.capacity with
  | none => content
  | some n => content.take (n - disk.load place)

/-- The disk with this content in a file, which may be new, and why not all of it is there. -/
def write (disk : Disk) (path : List Char) (content : Bytes) : Disk × Option Fault :=
  match disk.filePlace path with
  | .error fault => (disk, some fault)
  | .ok ⟨place, h⟩ =>
    match disk.writeRefusal? place with
    | some refusal => (disk, some (.refused refusal))
    | none =>
      (disk.put place (.file (disk.fitting place content)) h,
        if disk.fitting place content = content then none else some .noSpace)

/-- The disk without a file. Its directory has to let it go. -/
def remove (disk : Disk) (path : List Char) : Except Fault Disk :=
  match h : disk.follow path with
  | .error fault => .error fault
  | .ok (.directory _) => .error .isDirectory
  | .ok (.file place _ slash) =>
    if slash then .error .notDirectory
    else
      match disk.unwritable.lookup place.dropLast with
      | some refusal => .error (.refused refusal)
      | none => .ok (disk.erase place (admits_of_follow h rfl).free)
  | .ok (.absent _ _) => .error .notFound

/-- The disk without a file, or as it is if the file cannot be removed. -/
def discard (disk : Disk) (path : List Char) : Disk :=
  match disk.remove path with
  | .ok disk => disk
  | .error _ => disk

/-! ## Directories -/

/-- The disk with a new directory. -/
def makeDirectory (disk : Disk) (path : List Char) : Except Fault Disk :=
  match h : disk.follow path with
  | .error fault => .error fault
  | .ok (.absent place _) =>
    match disk.unwritable.lookup place.dropLast with
    | some refusal => .error (.refused refusal)
    | none => .ok (disk.put place .directory (admits_of_follow h rfl))
  | .ok _ => .error .alreadyThere

/-- The paths of the directories around a path, the nearest first. No more than `n` are
looked for. -/
def enclosingAll : Nat → List Char → List (List Char)
  | 0, _ => []
  | n + 1, path =>
    match enclosing? path with
    | some outer => outer :: enclosingAll n outer
    | none => []

/-- The disk with a directory unless it exists already. -/
def settleDirectory (disk : Disk) (path : List Char) : Disk × Option Fault :=
  match disk.makeDirectory path with
  | .ok disk => (disk, none)
  | .error fault => if disk.isDirectory path then (disk, none) else (disk, some fault)

/-- The disk with the first path as a directory, and those around it, which follow, where
they are missing. What was made stays when a later step is refused. -/
def makeDirectories (disk : Disk) : List (List Char) → Disk × Option Fault
  | [] => (disk, none)
  | path :: around =>
    if path.isEmpty then (disk, none)
    else
      match disk.makeDirectory path with
      | .ok disk => (disk, none)
      | .error .notFound =>
        match makeDirectories disk around with
        | (disk, none) => disk.settleDirectory path
        | (disk, some fault) => (disk, some fault)
      | .error fault => if disk.isDirectory path then (disk, none) else (disk, some fault)

/-- The disk with a directory and those around it. -/
def makeAll (disk : Disk) (path : List Char) : Disk × Option Fault :=
  disk.makeDirectories (path :: enclosingAll path.length path)

/-- Why the names in a directory cannot be read, if they cannot. -/
def listFault? (disk : Disk) (path : List Char) : Option Fault :=
  match disk.follow path with
  | .error fault => some fault
  | .ok (.directory place) => (disk.unreadable.lookup place).map .refused
  | .ok (.file _ _ _) => some .notDirectory
  | .ok (.absent _ _) => some .notFound

/-! ## Walks -/

/-- The names that lead from one place to another below it. -/
def below? (outer place : Place) : Option Place :=
  if outer.isPrefixOf place then some (place.drop outer.length) else none

/-- What is below a place, with the names that lead there. -/
def below (disk : Disk) (outer : Place) : List (Place × Entry) :=
  disk.entries.filterMap fun (place, entry) =>
    match below? outer place with
    | none | some [] => none
    | some names => some (names, entry)

/-- The files among entries below a path, or the first directory that cannot be opened, and why. -/
def visit (disk : Disk) (path : List Char) :
    List (Place × Entry) → Except (List Char × Fault) (List Place)
  | [] => .ok []
  | (names, .file _) :: rest => (visit disk path rest).map (names :: ·)
  | (names, .directory) :: rest =>
    match disk.listFault? (pathBelow path names) with
    | some fault => .error (pathBelow path names, fault)
    | none => visit disk path rest

/-- What a walk comes to in the directory at a place, the directory itself first. -/
def visited (disk : Disk) (outer : Place) : List (Place × Entry) :=
  ([], .directory) :: disk.below outer

/-- The names of the files below a directory, which is at a place and has a path. -/
def walk (disk : Disk) (path : List Char) (place : Place) :
    Except (List Char × Fault) (List Place) :=
  disk.visit path (disk.visited place)

/-- How a listing shows an entry : a directory has a slash at its end. -/
def shown : Place × Entry → String × Option Bytes
  | (place, .file content) => (String.ofList (Text.join '/' place), some content)
  | (place, .directory) => (String.ofList (Text.join '/' place ++ ['/']), none)

/-- What is below the current directory, in the order of the shown paths. -/
def listing (disk : Disk) : List (String × Option Bytes) :=
  ((disk.below disk.current).map shown).mergeSort fun a b => a.1 ≤ b.1

end Disk

end DavCourier.Local
