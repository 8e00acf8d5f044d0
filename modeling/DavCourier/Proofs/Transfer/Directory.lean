import DavCourier.Proofs.Transfer.Mirror
import Mathlib.Data.List.Forall2

/-!
# The course of an upload of a directory

What an upload of a directory says to a server that may answer anything. If its directories can all
be opened, its files are uploaded in turn, each from its path, in the order of their names
(`inTurn_uploadTree`), and all of them are stored if and only if the requests that store files are
theirs, one for each, and succeed (`InTurn.ok_iff`). If not, nothing is said, also about the files
that come before the directory (`uploadTree_unlisted`). Nothing else can happen :
`uploadTree_course`.
-/

namespace DavCourier.Transfer

open Http Local

variable {σ : Type} {server : σ → Request → Answer × σ} {r : Repository}

/-! ## The requests that store files -/

/-- What is said to store files. -/
def puts (log : List (Request × Answer)) : List (Request × Answer) :=
  log.filter fun e => e.1.method = .put

/-- The content is stored where the path leads. -/
def IsStored (r : Repository) (file : ResourcePath × Bytes) (e : Request × Answer) : Prop :=
  e.1 = storeRequest (r.url file.1) file.2 ∧ Succeeds e.2

theorem puts_append (log log' : List (Request × Answer)) :
    puts (log ++ log') = puts log ++ puts log' :=
  List.filter_append _ _

variable {file : ResourcePath × Bytes} {s : σ}

/-- A file that is stored is stored once. -/
theorem puts_of_ok (hok : ((store r file.1 file.2).run server s).1 = .ok ()) :
    ∃ e, puts ((store r file.1 file.2).transcript server s) = [e] ∧ IsStored r file e := by
  have hroot : file.1.isRoot = false := by
    cases hroot : file.1.isRoot with
    | false => rfl
    | true =>
      rw [store, if_pos hroot] at hok
      cases hok
  obtain ⟨answer, hmem, hanswer⟩ := (store_isCourse hroot server s).succeeds.mp hok
  have hputs := storing_store hroot hok
  rw [storing, List.filter_map] at hputs
  obtain ⟨e, heq, he⟩ := List.map_eq_singleton_iff.mp hputs
  have hsingle : puts ((store r file.1 file.2).transcript server s) = [e] := heq
  have hin : (storeRequest (r.url file.1) file.2, answer) ∈
      puts ((store r file.1 file.2).transcript server s) :=
    List.mem_filter.mpr ⟨hmem, rfl⟩
  rw [hsingle, List.mem_singleton] at hin
  exact ⟨e, hsingle, he, hin ▸ hanswer⟩

/-- A failure means that no answer said so. -/
theorem not_isStored_of_error {failure : Failure}
    (herror : ((store r file.1 file.2).run server s).1 = .error failure) :
    ∀ e ∈ (store r file.1 file.2).transcript server s, ¬ IsStored r file e := by
  rintro ⟨request, answer⟩ hmem ⟨rfl, hanswer⟩
  cases hroot : file.1.isRoot with
  | true =>
    rw [store, if_pos hroot] at hmem
    cases hmem
  | false =>
    rw [(store_isCourse hroot server s).succeeds.mpr ⟨answer, hmem, hanswer⟩] at herror
    cases herror

/-- The dialogue stores a file, or fails and says nothing. -/
def IsAttempt (r : Repository) (file : ResourcePath × Bytes)
    (d : Dialogue (Except Failure Unit)) : Prop :=
  d = store r file.1 file.2 ∨ ∃ failure, d = .done (.error failure)

/-- All files are stored if and only if each of them is, with one request, and no other request
stores a file. -/
theorem InTurn.ok_iff {ι : Type} {file : ι → ResourcePath × Bytes}
    {d : ι → Dialogue (Except Failure Unit)} {is : List ι} {s s' : σ}
    {log : List (Request × Answer)} {result : Except Failure Unit}
    (hattempts : ∀ i ∈ is, IsAttempt r (file i) (d i))
    (h : InTurn server (is.map d) s log result s') :
    result = .ok () ↔ List.Forall₂ (fun i => IsStored r (file i)) is (puts log) := by
  induction is generalizing s log with
  | nil =>
    cases h
    exact ⟨fun _ => .nil, fun _ => rfl⟩
  | cons i is ih =>
    obtain ⟨hfirst, hothers⟩ := List.forall_mem_cons.mp hattempts
    cases h with
    | fail hrun =>
      refine ⟨nofun, fun hall => ?_⟩
      obtain ⟨e, rest, hstored, -, hputs⟩ := List.forall₂_cons_left_iff.mp hall
      have hsaid := List.mem_of_mem_filter (hputs ▸ List.mem_cons_self : e ∈ puts _)
      rcases hfirst with hstore | ⟨failure, hfails⟩
      · rw [hstore] at hrun hsaid
        exact absurd hstored (not_isStored_of_error (congrArg Prod.fst hrun) e hsaid)
      · rw [hfails] at hsaid
        cases hsaid
    | next hrun hrest =>
      rcases hfirst with hstore | ⟨failure, hfails⟩
      · rw [hstore] at hrun
        obtain ⟨e, hputs, hstored⟩ := puts_of_ok (congrArg Prod.fst hrun)
        rw [puts_append, hstore, hputs, List.singleton_append, List.forall₂_cons,
          ih hothers hrest]
        exact (and_iff_right hstored).symm
      · rw [hfails] at hrun
        cases hrun

/-- Storing a file says nothing about anything that is not on the way to it. -/
theorem mem_storePlan_of_mem_transcript {e : Request × Answer}
    (h : e ∈ (store r file.1 file.2).transcript server s) :
    e.1 ∈ storePlan r file.1 file.2 true := by
  cases hroot : file.1.isRoot with
  | true =>
    rw [store, if_pos hroot] at h
    cases h
  | false =>
    have hplan := (store_isCourse hroot server s).requests.subset (List.mem_map_of_mem h)
    unfold storePlan at hplan ⊢
    rcases List.mem_append.mp hplan with hbefore | hlast
    · refine List.mem_append_left _ ?_
      rcases List.mem_append.mp hbefore with hprobe | hcreation
      · exact List.mem_append_left _ hprobe
      · split at hcreation
        · exact List.mem_append_right _ hcreation
        · cases hcreation
    · exact List.mem_append_right _ hlast

/-! ## Directories -/

/-- The resource name of a file below a destination, by the names that lead to the file. -/
def nameBelow (name : String) (names : Place) : String :=
  let destination := ResourcePath.ofString name
  if destination.isRoot then String.ofList (Text.join '/' names)
  else String.ofList (destination.toChars ++ '/' :: Text.join '/' names)

theorem ofString_nameBelow (name : String) (names : Place) :
    ResourcePath.ofString (nameBelow name names) =
      (ResourcePath.ofString name).resolve (Text.join '/' names) := by
  unfold nameBelow
  dsimp only
  split
  · next hroot =>
    have heq : ResourcePath.ofString name = ResourcePath.root :=
      ResourcePath.ext_segments (ResourcePath.isRoot_iff.mp hroot)
    rw [heq, ResourcePath.ofString, String.toList_ofList]
    rfl
  · rw [ResourcePath.ofString, String.toList_ofList]
    exact ResourcePath.ofChars_toChars_append _ _

/-- The path and the content of a file below a destination. -/
def fileBelow (name : String) (file : Place × Bytes) : ResourcePath × Bytes :=
  (.ofString (nameBelow name file.1), file.2)

/-- The upload of a file that names lead to, from its path. -/
def uploadOf (r : Repository) (disk : Disk) (source name : String) (names : Place) :
    Dialogue (Except Failure Unit) :=
  upload r disk (String.ofList (pathBelow source.toList names)) (.ofString (nameBelow name names))

theorem uploadBelow_ofString (disk : Disk) (source name : String) (names : Place) :
    uploadBelow r disk source (.ofString name) names = uploadOf r disk source name names := by
  rw [uploadBelow, uploadOf, ofString_nameBelow]

/-- What an upload of a directory says, and its result. -/
structure IsTreeCourse (r : Repository) (disk : Disk) (source name : String) (place : Place)
    (server : σ → Request → Answer × σ) (s : σ) (log : List (Request × Answer))
    (result : Except Failure Nat) : Prop where
  files : ∀ names content, (names, content) ∈ disk.filesBelow place ↔
    disk.at? (place ++ names) = some (.file content)
  /-- The files come depth first, and those of one directory by the bytes of their names. -/
  ordered : (disk.filesBelow place).Pairwise fun a b =>
    a.1.map Utf8.encode < b.1.map Utf8.encode
  /-- To upload a file that can be read is to store what it holds. -/
  uploads : ∀ file ∈ disk.filesBelow place, disk.IsReadableAt source.toList place file.1 →
    uploadOf r disk source name file.1 = store r (fileBelow name file).1 file.2
  inTurn : ∃ outcome s', result = outcome.map (fun () => (disk.filesBelow place).length) ∧
    InTurn server ((disk.filesBelow place).map fun file => uploadOf r disk source name file.1)
      s log outcome s'
  /-- All files are stored if and only if each is, with one request of its own. -/
  stored : ∀ k, result = .ok k ↔ k = (disk.filesBelow place).length ∧
    List.Forall₂ (fun file => IsStored r (fileBelow name file)) (disk.filesBelow place) (puts log)
  /-- Whatever is said is about a file and the collections on the way to it. -/
  onTheWay : ∀ e ∈ log, ∃ file ∈ disk.filesBelow place,
    e.1 ∈ storePlan r (fileBelow name file).1 file.2 true

section

variable {disk : Disk} {source name : String} {place : Place} {file : Place × Bytes} {s : σ}

theorem uploadOf_eq_store (hsource : disk.follow source.toList = .ok (.directory place))
    (hfile : file ∈ disk.filesBelow place) (hread : disk.IsReadableAt source.toList place file.1) :
    uploadOf r disk source name file.1 = store r (fileBelow name file).1 file.2 := by
  rw [← uploadBelow_ofString, uploadBelow_eq_store hsource hfile hread, fileBelow,
    ofString_nameBelow]

/-- What a file holds is stored if it can be read, and nothing is said of any other file. -/
theorem isAttempt_uploadOf (r : Repository)
    (hsource : disk.follow source.toList = .ok (.directory place))
    (hfile : file ∈ disk.filesBelow place) (name : String) :
    IsAttempt r (fileBelow name file) (uploadOf r disk source name file.1) := by
  by_cases hread : disk.IsReadableAt source.toList place file.1
  · exact Or.inl (uploadOf_eq_store hsource hfile hread)
  · rw [← uploadBelow_ofString]
    exact Or.inr (uploadBelow_of_not_isReadableAt r _ hsource hfile hread)

/-- Where every directory can be opened, the files are uploaded in turn. -/
theorem inTurn_uploadTree (r : Repository) (server : σ → Request → Answer × σ)
    (hsource : disk.follow source.toList = .ok (.directory place))
    (hopens : disk.OpensAll source.toList place) (name : String) (s : σ) :
    ∃ outcome s',
      (uploadTree r disk source (.ofString name)).run server s =
        (outcome.map fun () => (disk.filesBelow place).length, s') ∧
      InTurn server ((disk.filesBelow place).map fun file => uploadOf r disk source name file.1)
        s ((uploadTree r disk source (.ofString name)).transcript server s) outcome s' := by
  have hwalk := (Disk.walk_eq_ok_iff (Disk.at?_of_follow hsource)).mpr ⟨hopens, rfl⟩
  have huploads : ((disk.filesBelow place).map Prod.fst).map
      (uploadBelow r disk source (.ofString name)) =
        (disk.filesBelow place).map fun file => uploadOf r disk source name file.1 := by
    rw [List.map_map]
    exact List.map_congr_left fun file _ => uploadBelow_ofString disk source name file.1
  rw [uploadTree_of_walk hsource hwalk, huploads, List.length_map, Dialogue.run_map,
    Dialogue.transcript_map]
  exact ⟨_, _, rfl, inTurn_inOrder _ s⟩

theorem uploadTree_isTreeCourse (hsource : disk.follow source.toList = .ok (.directory place))
    (hopens : disk.OpensAll source.toList place) (name : String) (s : σ) :
    IsTreeCourse r disk source name place server s
      ((uploadTree r disk source (.ofString name)).transcript server s)
      ((uploadTree r disk source (.ofString name)).run server s).1 := by
  obtain ⟨outcome, s', hrun, hturn⟩ := inTurn_uploadTree r server hsource hopens name s
  have hattempts : ∀ file ∈ disk.filesBelow place,
      IsAttempt r (fileBelow name file) (uploadOf r disk source name file.1) :=
    fun file hfile => isAttempt_uploadOf r hsource hfile name
  rw [hrun]
  refine ⟨fun _ _ => Disk.mem_filesBelow (Disk.at?_of_follow hsource),
    disk.pairwise_filesBelow place, fun file hfile hread => uploadOf_eq_store hsource hfile hread,
    ⟨outcome, s', rfl, hturn⟩, fun k => ?_, fun e he => ?_⟩
  · rw [Fallible.map_eq_ok, ← hturn.ok_iff hattempts]
    constructor
    · rintro ⟨_, hok, rfl⟩
      exact ⟨rfl, hok⟩
    · rintro ⟨rfl, hok⟩
      exact ⟨(), hok, rfl⟩
  · obtain ⟨d, hmem, s', hsaid⟩ := hturn.exists_mem he
    obtain ⟨file, hfile, rfl⟩ := List.mem_map.mp hmem
    refine ⟨file, hfile, ?_⟩
    rcases hattempts file hfile with hstore | ⟨failure, hfails⟩
    · rw [hstore] at hsaid
      exact mem_storePlan_of_mem_transcript hsaid
    · rw [hfails] at hsaid
      cases hsaid

/-- Where a directory cannot be opened nothing is said, also about files that come before it. -/
theorem uploadTree_unlisted (r : Repository)
    (hsource : disk.follow source.toList = .ok (.directory place)) {names : Place} {fault : Fault}
    (hstop : disk.StopsAt source.toList place names fault) (p : ResourcePath) :
    uploadTree r disk source p = .done (.error
      (.treeUnreadable source (String.ofList (pathBelow source.toList names)) fault)) := by
  have hwalk := (Disk.walk_eq_error_iff (Disk.at?_of_follow hsource)).mpr ⟨names, rfl, hstop⟩
  rw [uploadTree, hsource]
  dsimp only
  rw [hwalk]

end

/-- An upload of what is no directory fails and says nothing. So does one of a directory if one of
the directories in it cannot be opened : it fails with the first one. Otherwise it takes its course,
whatever the server says. -/
theorem uploadTree_course (r : Repository) (disk : Disk) (source name : String)
    (server : σ → Request → Answer × σ) (s : σ) :
    (disk.isDirectory source.toList = false →
      (uploadTree r disk source (.ofString name)).run server s =
        (.error (.sourceNotDirectory source), s) ∧
      (uploadTree r disk source (.ofString name)).transcript server s = []) ∧
    (disk.isDirectory source.toList = true →
      ∃ place, disk.follow source.toList = .ok (.directory place) ∧
        (disk.OpensAll source.toList place →
          IsTreeCourse r disk source name place server s
            ((uploadTree r disk source (.ofString name)).transcript server s)
            ((uploadTree r disk source (.ofString name)).run server s).1) ∧
        (¬ disk.OpensAll source.toList place →
          ∃ names fault, disk.StopsAt source.toList place names fault ∧
            (uploadTree r disk source (.ofString name)).run server s =
              (.error (.treeUnreadable source
                (String.ofList (pathBelow source.toList names)) fault), s) ∧
            (uploadTree r disk source (.ofString name)).transcript server s = [])) := by
  unfold Disk.isDirectory
  constructor
  · intro hnot
    split at hnot
    · cases hnot
    · next hother =>
      unfold uploadTree
      split
      · next place hsource => exact absurd hsource (hother place)
      · exact ⟨rfl, rfl⟩
  · intro hdirectory
    split at hdirectory
    · next place hsource =>
      refine ⟨place, hsource, fun hopens => uploadTree_isTreeCourse hsource hopens name s,
        fun hnot => ?_⟩
      have houter := Disk.at?_of_follow hsource
      cases hwalk : disk.walk source.toList place with
      | ok files => exact absurd ((Disk.walk_eq_ok_iff houter).mp hwalk).1 hnot
      | error stop =>
        obtain ⟨names, -, hstop⟩ := (Disk.walk_eq_error_iff houter).mp hwalk
        rw [uploadTree_unlisted r hsource hstop]
        exact ⟨names, stop.2, hstop, rfl, rfl⟩
    · cases hdirectory

/-- A disk with a directory that has an empty directory, and a file below another one whose name
starts the name of a file. A slash comes after the dash. -/
def dashedDisk : Disk where
  entries := [([['d']], .directory), ([['d'], ['e']], .directory), ([['d'], ['x']], .directory),
    ([['d'], ['x'], ['f']], .file [7]), ([['d'], ['x', '-']], .file [8])]
  current := []

theorem uploadTree_course_dashed :
    IsTreeCourse ⟨"http://host".toList, []⟩ dashedDisk "d" "t" [['d']] lateServer []
        ((uploadTree ⟨"http://host".toList, []⟩ dashedDisk "d"
          (.ofString "t")).transcript lateServer []) (.ok 2) ∧
      ((uploadTree ⟨"http://host".toList, []⟩ dashedDisk "d"
          (.ofString "t")).transcript lateServer []).map
        (fun e => (e.1.method, e.1.url)) =
        [(.propfind, "http://host/t/x/"), (.mkcol, "http://host/t"),
          (.mkcol, "http://host/t/x"), (.put, "http://host/t/x/f"),
          (.propfind, "http://host/t/"), (.mkcol, "http://host/t"),
          (.put, "http://host/t/x-")] := by
  have hsource : dashedDisk.follow "d".toList = .ok (.directory [['d']]) := by decide
  have hread : dashedDisk.IsReadable "d".toList [['d']] := by decide
  obtain ⟨place, hplace, hcourse, -⟩ := (uploadTree_course ⟨"http://host".toList, []⟩ dashedDisk
    "d" "t" lateServer []).2 (by decide)
  rw [hsource] at hplace
  cases hplace
  have hresult : ((uploadTree ⟨"http://host".toList, []⟩ dashedDisk "d"
      (.ofString "t")).run lateServer []).1 = .ok 2 := by
    decide +kernel
  rw [hresult] at hcourse
  exact ⟨hcourse ((Disk.isReadable_iff hsource).mp hread).1, by decide +kernel⟩

/-- A disk with a directory that has a file and, after it, a directory that cannot be opened. -/
def closedDisk : Disk where
  entries := [([['d']], .directory), ([['d'], ['a']], .file [7]), ([['d'], ['b']], .directory),
    ([['d'], ['b'], ['f']], .file [8])]
  current := []
  unreadable := [([['d'], ['b']], .denied)]

/-- Nothing is said of the first file, although on its own it would be stored. -/
theorem uploadTree_closed :
    (uploadTree ⟨"http://host".toList, []⟩ closedDisk "d" (.ofString "t")).run lateServer [] =
        (.error (.treeUnreadable "d" "d/b" (.refused .denied)), []) ∧
      (uploadTree ⟨"http://host".toList, []⟩ closedDisk "d" (.ofString "t")).transcript
        lateServer [] = [] ∧
      (closedDisk.filesBelow [['d']]).map Prod.fst = [[['a']], [['b'], ['f']]] ∧
      ((uploadOf ⟨"http://host".toList, []⟩ closedDisk "d" "t" [['a']]).run lateServer []).1 =
        .ok () := by
  decide +kernel

end DavCourier.Transfer
