import DavCourier.Proofs.Local.Walk
import DavCourier.Proofs.Transfer.Course
import DavCourier.Proofs.Transfer.Turns
import DavCourier.Proofs.Transfer.Upload

/-!
# Uploads of whole directories

On a faithful server files are stored one after the other if the tree admits each of them and
none is on the way to another one (`run_stores`). So the files of a directory are stored below
a destination where nothing is. They are its mirror there if and only if everything in the
directory can be read, and no name on the way to a file has a backslash, which a resource name
reads as a slash : `uploadTree_mirrors`.
-/

namespace DavCourier.Transfer

open Http Dav Server

variable {σ : Type} {server : σ → Request → Answer × σ} {tree : σ → Tree} {r : Repository}
  {p : ResourcePath} {content : Bytes}

/-! ## Files one after the other -/

/-- The requests that store files. -/
def storing (log : List (Request × Answer)) : List Request :=
  (log.map Prod.fst).filter fun request => request.method = .put

/-- Files that are to be stored one after the other. -/
def stores (r : Repository) (files : List (ResourcePath × Bytes)) :
    List (Dialogue (Except Failure Unit)) :=
  files.map fun e => store r e.1 e.2

/-- Where files are to be. -/
def locations (files : List (ResourcePath × Bytes)) : List (Location × Bytes) :=
  files.map fun e => (e.1.segments, e.2)

theorem storing_append (log log' : List (Request × Answer)) :
    storing (log ++ log') = storing log ++ storing log' := by
  rw [storing, List.map_append, List.filter_append]
  rfl

theorem filter_storePlan (r : Repository) (p : ResourcePath) (content : Bytes) (nothing : Bool) :
    ((storePlan r p content nothing).filter fun request => request.method = .put) =
      [storeRequest (r.url p) content] := by
  have hprobes : ((probes r p).filter fun request => request.method = .put) = [] := by
    unfold probes
    split <;> rfl
  have hcreations : ((if nothing then creations r p else []).filter fun request =>
      request.method = .put) = [] := by
    split
    · refine List.filter_eq_nil_iff.mpr fun request hmem => ?_
      obtain ⟨q, -, rfl⟩ := mem_creations hmem
      exact nofun
    · rfl
  rw [storePlan, List.filter_append, List.filter_append, hprobes, hcreations]
  rfl

/-- A file that is stored is stored with one request. -/
theorem storing_store (hp : p.isRoot = false) {s : σ}
    (hok : ((store r p content).run server s).1 = .ok ()) :
    storing ((store r p content).transcript server s) = [storeRequest (r.url p) content] := by
  obtain ⟨hfollows, hresult⟩ := store_follows r content hp server s
  rw [storing, hfollows.requests_eq (hresult.mp hok), filter_storePlan]

theorem inOrder_stores_cons (files : List (ResourcePath × Bytes)) :
    inOrder (stores r ((p, content) :: files)) = (store r p content).bind fun result =>
      match result with
      | .error failure => .done (.error failure)
      | .ok () => inOrder (stores r files) := rfl

/-- Files are stored if the tree admits each of them and none is on the way to another one. -/
theorem run_stores (hf : IsFaithful r server tree) {files : List (ResourcePath × Bytes)} {s : σ}
    (hadmits : ∀ e ∈ files, (tree s).Admits e.1.segments)
    (hapart : files.Pairwise fun a b =>
      ¬ a.1.segments <+: b.1.segments ∧ ¬ b.1.segments <+: a.1.segments) :
    ∃ s', (inOrder (stores r files)).run server s = (.ok (), s') ∧
      (tree s).ExtendsAll (locations files) (tree s') ∧
      storing ((inOrder (stores r files)).transcript server s) =
        files.map fun e => storeRequest (r.url e.1) e.2 := by
  induction files generalizing s with
  | nil => exact ⟨s, rfl, (tree s).extendsAll_nil, rfl⟩
  | cons file files ih =>
    obtain ⟨p, content⟩ := file
    obtain ⟨hfirst, hrest⟩ := List.pairwise_cons.mp hapart
    have hadmitsp := hadmits _ List.mem_cons_self
    have hp : p.isRoot = false := isRoot_eq_false hadmitsp.target
    obtain ⟨s₁, hrun, hextends⟩ := Pending.run hf hp hadmitsp (pending_store (tree s) hp)
    have hadmits₁ : ∀ e ∈ files, (tree s₁).Admits e.1.segments := fun e he =>
      (hadmits e (List.mem_cons_of_mem _ he)).of_extends hextends (hfirst e he).1 (hfirst e he).2
    obtain ⟨s', hrun', hextends', hstoring⟩ := ih hadmits₁ hrest
    have hstored := storing_store hp (congrArg Prod.fst hrun)
    refine ⟨s', ?_, hextends.cons hextends' ?_, ?_⟩
    · rw [inOrder_stores_cons, Dialogue.run_bind, hrun]
      exact hrun'
    · intro e he
      obtain ⟨file, hfile, rfl⟩ := List.mem_map.mp he
      exact hfirst file hfile
    · rw [inOrder_stores_cons, Dialogue.transcript_bind, storing_append, hstored, hrun]
      dsimp only
      rw [hstoring]
      rfl

/-- Storing one file changes the tree only where a path can lead. -/
theorem isSegment_of_run_store (hf : IsFaithful r server tree) (p : ResourcePath) (content : Bytes)
    (s : σ) {l : Location}
    (h : (tree ((store r p content).run server s).2).at? l ≠ (tree s).at? l) :
    ∀ name ∈ l, IsSegment name := by
  cases hp : p.isRoot with
  | true =>
    rw [store, if_pos hp] at h
    exact absurd rfl h
  | false =>
    by_cases hadmits : (tree s).Admits p.segments
    · have hpending : Pending r p content (tree s) (store r p content) := pending_store (tree s) hp
      obtain ⟨s', hrun, hextends⟩ := Pending.run hf hp hadmits hpending
      rw [hrun] at h
      have hl : l <+: p.segments := by
        by_contra hl
        exact h (hextends.others l hl)
      exact fun name hname => p.clean name (hl.subset hname)
    · have hfails : ∃ failure s', (store r p content).run server s = (.error failure, s') ∧
          tree s' = tree s := run_store_of_not_admits hf hp hadmits
      obtain ⟨failure, s', hrun, htree⟩ := hfails
      rw [hrun] at h
      exact absurd (congrArg (fun t : Tree => t.at? l) htree) h

/-- So does storing several files. -/
theorem isSegment_of_run_stores (hf : IsFaithful r server tree)
    (files : List (ResourcePath × Bytes)) (s : σ) {l : Location}
    (h : (tree ((inOrder (stores r files)).run server s).2).at? l ≠ (tree s).at? l) :
    ∀ name ∈ l, IsSegment name := by
  induction files generalizing s with
  | nil => exact absurd rfl h
  | cons file files ih =>
    obtain ⟨p, content⟩ := file
    by_cases hfirst : (tree ((store r p content).run server s).2).at? l = (tree s).at? l
    · rw [inOrder_stores_cons, Dialogue.run_bind] at h
      cases hresult : ((store r p content).run server s).1 with
      | error failure =>
        rw [hresult] at h
        exact absurd hfirst h
      | ok _ =>
        rw [hresult, ← hfirst] at h
        exact ih _ h
    · exact isSegment_of_run_store hf p content s hfirst

/-! ## Directories -/

/-- What is below a destination is what is below a place of a disk, and nothing outside the
destination is new but collections on the way to it. -/
structure IsMirror (disk : Local.Disk) (place : Local.Place) (destination : Location)
    (t t' : Tree) : Prop where
  below : ∀ names content, t'.at? (destination ++ names) = some (.file content) ↔
    disk.at? (place ++ names) = some (.file content)
  outside : ∀ l, ¬ destination <+: l →
    t'.at? l = t.at? l ∨ l <+: destination ∧ t'.at? l = some .collection

/-- Every file below a place of a disk is stored once, below a destination, and no address is
used twice. -/
structure StoresBelow (r : Repository) (disk : Local.Disk) (place : Local.Place)
    (destination : Location) (requests : List Request) : Prop where
  stored : requests.map (fun request => (r.namesOf? request.url, request.body)) =
    (disk.filesBelow place).map fun file => (some (destination ++ file.1), some file.2)
  apart : (requests.map Request.url).Nodup

/-- A name of a file without a backslash may stand in a path. -/
theorem isSegment_of_isFileName {name : List Char} (h : Local.IsFileName name)
    (hslash : '\\' ∉ name) : IsSegment name :=
  ⟨h.ne_nil, h.ne_dot, h.ne_dots, h.slash, hslash⟩

/-- What is stored of the files below a place, in the order of a walk. -/
def uploadPlan (disk : Local.Disk) (place : Local.Place) (destination : ResourcePath) :
    List (ResourcePath × Bytes) :=
  (disk.filesBelow place).map fun file => (destination.resolve (Text.join '/' file.1), file.2)

/-- No name on the way to a file below the place has a backslash. -/
def NoBackslash (disk : Local.Disk) (place : Local.Place) : Prop :=
  ∀ file ∈ disk.filesBelow place, ∀ name ∈ file.1, '\\' ∉ name

instance (disk : Local.Disk) (place : Local.Place) : Decidable (NoBackslash disk place) := by
  unfold NoBackslash; infer_instance

section

variable {disk : Local.Disk} {place : Local.Place} {destination : ResourcePath}

theorem isSegment_of_mem_filesBelow (hplace : disk.at? place = some .directory)
    (hslash : NoBackslash disk place) {file : Local.Place × Bytes}
    (h : file ∈ disk.filesBelow place) : ∀ name ∈ file.1, IsSegment name := fun name hname =>
  isSegment_of_isFileName ((Local.Disk.names_of_mem_filesBelow hplace h).2 name hname)
    (hslash file h name hname)

/-- Each file is to be where its names lead from the destination. -/
theorem segments_uploadPlan (hplace : disk.at? place = some .directory)
    (hslash : NoBackslash disk place) {file : Local.Place × Bytes}
    (h : file ∈ disk.filesBelow place) :
    (destination.resolve (Text.join '/' file.1)).segments = destination.segments ++ file.1 :=
  destination.segments_resolve_join (Local.Disk.names_of_mem_filesBelow hplace h).1
    (isSegment_of_mem_filesBelow hplace hslash h)

theorem locations_uploadPlan (hplace : disk.at? place = some .directory)
    (hslash : NoBackslash disk place) : locations (uploadPlan disk place destination) =
      (disk.filesBelow place).map fun file => (destination.segments ++ file.1, file.2) := by
  rw [locations, uploadPlan, List.map_map]
  exact List.map_congr_left fun file h =>
    congrArg (·, file.2) (segments_uploadPlan hplace hslash h)

theorem pairwise_uploadPlan (hplace : disk.at? place = some .directory)
    (hslash : NoBackslash disk place) :
    (uploadPlan disk place destination).Pairwise fun a b =>
      ¬ a.1.segments <+: b.1.segments ∧ ¬ b.1.segments <+: a.1.segments := by
  refine List.pairwise_map.mpr ?_
  have hnames := List.pairwise_map.mp (disk.nodup_filesBelow place)
  refine hnames.imp_of_mem fun {a b} ha hb hne => ?_
  dsimp only
  rw [segments_uploadPlan hplace hslash ha, segments_uploadPlan hplace hslash hb,
    List.prefix_append_right_inj, List.prefix_append_right_inj]
  exact ⟨Local.Disk.not_prefix_of_mem_filesBelow hplace ha hb hne,
    Local.Disk.not_prefix_of_mem_filesBelow hplace hb ha (Ne.symm hne)⟩

/-- Below a destination where nothing is, no file is. -/
theorem ne_file_of_free {t : Tree} {outer : Location}
    (hfree : ∀ l, outer <+: l → l ≠ [] → t.at? l = none) {l : Location} (hl : outer <+: l)
    (content : Bytes) : t.at? l ≠ some (.file content) := by
  by_cases hnil : l = []
  · rw [hnil, t.root]
    exact nofun
  · rw [hfree l hl hnil]
    exact nofun

/-- A tree admits all that is below a destination where it has nothing, with no file on the way. -/
theorem admits_below {t : Tree} {outer names : Location}
    (hfree : ∀ l, outer <+: l → l ≠ [] → t.at? l = none)
    (hway : ∀ l, l <+: outer → ∀ c, t.at? l ≠ some (.file c)) (hne : names ≠ []) :
    t.Admits (outer ++ names) := by
  refine ⟨fun l hl _ => ?_, ?_⟩
  · rcases List.prefix_or_prefix_of_prefix hl (List.prefix_append outer names) with hl | hl
    · exact hway l hl
    · exact ne_file_of_free hfree hl
  · rw [hfree _ (List.prefix_append _ _) (List.append_ne_nil_of_right_ne_nil _ hne)]
    exact (Option.some_ne_none _).symm

/-- Files that are new below a destination where nothing was are its mirror. -/
theorem isMirror_of_extendsAll (hplace : disk.at? place = some .directory) {outer : Location}
    {t t' : Tree}
    (hfree : ∀ l, outer <+: l → l ≠ [] → t.at? l = none)
    (h : t.ExtendsAll ((disk.filesBelow place).map fun file => (outer ++ file.1, file.2)) t') :
    IsMirror disk place outer t t' := by
  refine ⟨fun names content => ⟨fun hfile => ?_, fun hfile => ?_⟩, fun l hl => ?_⟩
  · have hnew := (h.mem_or_at? hfile).resolve_right
      (ne_file_of_free hfree (List.prefix_append _ _) content)
    obtain ⟨⟨names', content'⟩, hmem, heq⟩ := List.mem_map.mp hnew
    obtain ⟨hnames, rfl⟩ := Prod.mk.inj heq
    rw [← List.append_cancel_left hnames]
    exact (Local.Disk.mem_filesBelow hplace).mp hmem
  · have hmem : (names, content) ∈ disk.filesBelow place :=
      (Local.Disk.mem_filesBelow hplace).mpr hfile
    exact h.target (outer ++ names, content) (List.mem_map.mpr ⟨_, hmem, rfl⟩)
  · by_cases hway : ∃ e ∈ (disk.filesBelow place).map fun file => (outer ++ file.1, file.2),
        l <+: e.1
    · obtain ⟨e, he, hle⟩ := hway
      have houter : outer <+: e.1 := by
        obtain ⟨file, -, rfl⟩ := List.mem_map.mp he
        exact List.prefix_append _ _
      have hlouter : l <+: outer :=
        (List.prefix_or_prefix_of_prefix hle houter).resolve_right hl
      exact Or.inr ⟨hlouter, h.onWay e he l hle fun heq => hl (heq ▸ houter)⟩
    · exact Or.inl (h.others l fun e he hle => hway ⟨e, he, hle⟩)

theorem storesBelow_of_storing (hplace : disk.at? place = some .directory)
    (hslash : NoBackslash disk place) {requests : List Request}
    (h : requests = (uploadPlan disk place destination).map fun e =>
      storeRequest (r.url e.1) e.2) :
    StoresBelow r disk place destination.segments requests := by
  rw [h, uploadPlan, List.map_map]
  constructor
  · rw [List.map_map]
    refine List.map_congr_left fun file hmem => ?_
    dsimp only [Function.comp, storeRequest]
    rw [r.namesOf?_url, segments_uploadPlan hplace hslash hmem]
  · rw [List.map_map]
    have hnames := List.pairwise_map.mp (disk.nodup_filesBelow place)
    refine List.pairwise_map.mpr (hnames.imp_of_mem fun {a b} ha hb hne heq => hne ?_)
    have hsegments := congrArg ResourcePath.segments (r.url_injective heq)
    rw [segments_uploadPlan hplace hslash ha, segments_uploadPlan hplace hslash hb]
      at hsegments
    exact List.append_cancel_left hsegments

variable {source : String}

/-- A file that can be read is stored. -/
theorem uploadBelow_eq_store (hsource : disk.follow source.toList = .ok (.directory place))
    {file : Local.Place × Bytes} (hfile : file ∈ disk.filesBelow place)
    (hread : disk.IsReadableAt source.toList place file.1) :
    uploadBelow r disk source destination file.1 =
      store r (destination.resolve (Text.join '/' file.1)) file.2 := by
  have hat := (Local.Disk.mem_filesBelow (Local.Disk.at?_of_follow hsource)).mp hfile
  have hcontent : readSource disk (String.ofList (Local.pathBelow source.toList file.1)) =
      .ok file.2 := by
    rw [readSource, String.toList_ofList,
      (Local.Disk.read_pathBelow hsource hat).mpr ⟨rfl, hread⟩]
  cases hroot : (destination.resolve (Text.join '/' file.1)).isRoot with
  | true => rw [uploadBelow, upload, store, if_pos hroot, if_pos hroot]
  | false => exact upload_eq_store hroot hcontent

/-- An upload of a file that cannot be read fails and says nothing. -/
theorem uploadBelow_of_not_isReadableAt (r : Repository) (destination : ResourcePath)
    (hsource : disk.follow source.toList = .ok (.directory place))
    {file : Local.Place × Bytes} (hfile : file ∈ disk.filesBelow place)
    (hnot : ¬ disk.IsReadableAt source.toList place file.1) :
    ∃ failure, uploadBelow r disk source destination file.1 = .done (.error failure) := by
  have hat := (Local.Disk.mem_filesBelow (Local.Disk.at?_of_follow hsource)).mp hfile
  unfold uploadBelow upload
  split
  · exact ⟨_, rfl⟩
  · split
    · exact ⟨_, rfl⟩
    · next content hcontent =>
      rw [readSource, String.toList_ofList] at hcontent
      split at hcontent
      · next hread => exact absurd ((Local.Disk.read_pathBelow hsource hat).mp hread).2 hnot
      · cases hcontent
      · cases hcontent

/-- A walk that finds the files of a directory leads to uploads of them. -/
theorem uploadTree_of_walk (hsource : disk.follow source.toList = .ok (.directory place))
    {files : List Local.Place} (hwalk : disk.walk source.toList place = .ok files) :
    uploadTree r disk source destination =
      (inOrder (files.map (uploadBelow r disk source destination))).map fun result =>
        result.map fun () => files.length := by
  rw [uploadTree, hsource]
  dsimp only
  rw [hwalk]

/-- Where everything can be read, all files are stored. -/
theorem uploadTree_of_isReadable (hsource : disk.follow source.toList = .ok (.directory place))
    (hread : disk.IsReadable source.toList place) :
    uploadTree r disk source destination =
      (inOrder (stores r (uploadPlan disk place destination))).map fun result =>
        result.map fun () => (disk.filesBelow place).length := by
  obtain ⟨hopens, hfiles⟩ := (Local.Disk.isReadable_iff hsource).mp hread
  have hwalk := (Local.Disk.walk_eq_ok_iff (Local.Disk.at?_of_follow hsource)).mpr ⟨hopens, rfl⟩
  have huploads : ((disk.filesBelow place).map Prod.fst).map
      (uploadBelow r disk source destination) = stores r (uploadPlan disk place destination) := by
    rw [stores, uploadPlan, List.map_map, List.map_map]
    exact List.map_congr_left fun file hfile =>
      uploadBelow_eq_store hsource hfile (hfiles file hfile)
  rw [uploadTree_of_walk hsource hwalk, huploads, List.length_map]

/-- An upload of a directory that succeeds could read everything. -/
theorem isReadable_of_uploadTree (hsource : disk.follow source.toList = .ok (.directory place))
    {s : σ} {n : Nat} (hok : ((uploadTree r disk source destination).run server s).1 = .ok n) :
    disk.IsReadable source.toList place := by
  cases hwalk : disk.walk source.toList place with
  | error stop =>
    rw [uploadTree, hsource] at hok
    dsimp only at hok
    rw [hwalk] at hok
    cases hok
  | ok files =>
    obtain ⟨hopens, rfl⟩ :=
      (Local.Disk.walk_eq_ok_iff (Local.Disk.at?_of_follow hsource)).mp hwalk
    rw [uploadTree_of_walk hsource hwalk, Dialogue.run_map] at hok
    obtain ⟨_, hall, -⟩ := Fallible.map_eq_ok.mp hok
    refine (Local.Disk.isReadable_iff hsource).mpr ⟨hopens, fun file hfile => ?_⟩
    obtain ⟨s', hrun⟩ := (inTurn_inOrder _ s).run_eq_ok hall
      (uploadBelow r disk source destination file.1)
      (List.mem_map_of_mem (List.mem_map_of_mem hfile))
    by_contra hnot
    obtain ⟨failure, hfails⟩ := uploadBelow_of_not_isReadableAt r destination hsource hfile hnot
    rw [hfails] at hrun
    cases hrun

/-- A directory whose files have no backslash in their names is mirrored if all of it can be
read. -/
theorem uploadTree_of_noBackslash (hf : IsFaithful r server tree)
    (hsource : disk.follow source.toList = .ok (.directory place)) {s : σ}
    (hfree : ∀ l, destination.segments <+: l → l ≠ [] → (tree s).at? l = none)
    (hway : ∀ l, l <+: destination.segments → ∀ c, (tree s).at? l ≠ some (.file c))
    (hslash : NoBackslash disk place) (hread : disk.IsReadable source.toList place) :
    ∃ s', (uploadTree r disk source destination).run server s =
        (.ok (disk.filesBelow place).length, s') ∧
      IsMirror disk place destination.segments (tree s) (tree s') ∧
      StoresBelow r disk place destination.segments
        (storing ((uploadTree r disk source destination).transcript server s)) := by
  have hplace := Local.Disk.at?_of_follow hsource
  have hadmits : ∀ e ∈ uploadPlan disk place destination, (tree s).Admits e.1.segments := by
    intro e he
    obtain ⟨file, hmem, rfl⟩ := List.mem_map.mp he
    dsimp only
    rw [segments_uploadPlan hplace hslash hmem]
    exact admits_below hfree hway (Local.Disk.names_of_mem_filesBelow hplace hmem).1
  obtain ⟨s', hrun, hextends, hstoring⟩ :=
    run_stores hf hadmits (pairwise_uploadPlan hplace hslash)
  rw [locations_uploadPlan hplace hslash] at hextends
  rw [uploadTree_of_isReadable hsource hread]
  refine ⟨s', ?_, isMirror_of_extendsAll hplace hfree hextends, ?_⟩
  · rw [Dialogue.run_map, hrun]
    rfl
  · rw [Dialogue.transcript_map]
    exact storesBelow_of_storing hplace hslash hstoring

/-- A file has no backslash in its name if it is where its name leads below a destination where
nothing was. -/
theorem noBackslash_of_isMirror (hf : IsFaithful r server tree)
    (hsource : disk.follow source.toList = .ok (.directory place))
    (hread : disk.IsReadable source.toList place) {s : σ}
    (hfree : ∀ l, destination.segments <+: l → l ≠ [] → (tree s).at? l = none)
    (hmirror : IsMirror disk place destination.segments (tree s)
      (tree ((uploadTree r disk source destination).run server s).2)) :
    NoBackslash disk place := by
  intro file hfile name hname
  have hat := (Local.Disk.mem_filesBelow (Local.Disk.at?_of_follow hsource)).mp hfile
  have hthere := (hmirror.below file.1 file.2).mpr hat
  rw [uploadTree_of_isReadable hsource hread, Dialogue.run_map] at hthere
  have hnew : (tree ((inOrder (stores r (uploadPlan disk place destination))).run
      server s).2).at? (destination.segments ++ file.1) ≠
        (tree s).at? (destination.segments ++ file.1) := by
    rw [hthere]
    exact Ne.symm (ne_file_of_free hfree (List.prefix_append _ _) file.2)
  exact (isSegment_of_run_stores hf _ s hnew name (List.mem_append_right _ hname)).2.2.2.2

end

/-- Below a destination where nothing is, with no file on the way to it, a directory is mirrored
if and only if no file has a backslash in its name and everything can be read. -/
theorem uploadTree_mirrors (hf : IsFaithful r server tree) {disk : Local.Disk}
    {source name : String} {place : Local.Place}
    (hsource : disk.follow source.toList = .ok (.directory place)) {s : σ}
    (hfree : ∀ l, (ResourcePath.ofString name).segments <+: l → l ≠ [] → (tree s).at? l = none)
    (hway : ∀ l, l <+: (ResourcePath.ofString name).segments →
      ∀ c, (tree s).at? l ≠ some (.file c)) :
    (∃ s', (uploadTree r disk source (.ofString name)).run server s =
        (.ok (disk.filesBelow place).length, s') ∧
      IsMirror disk place (ResourcePath.ofString name).segments (tree s) (tree s') ∧
      StoresBelow r disk place (ResourcePath.ofString name).segments
        (storing ((uploadTree r disk source (.ofString name)).transcript server s))) ↔
      NoBackslash disk place ∧ disk.IsReadable source.toList place := by
  constructor
  · rintro ⟨s', hrun, hmirror, -⟩
    have hread := isReadable_of_uploadTree hsource (congrArg Prod.fst hrun)
    refine ⟨noBackslash_of_isMirror hf hsource hread hfree ?_, hread⟩
    rw [hrun]
    exact hmirror
  · rintro ⟨hslash, hread⟩
    exact uploadTree_of_noBackslash hf hsource hfree hway hslash hread

/-- A disk with a directory that has a directory and two files. -/
def nestedDisk : Local.Disk where
  entries := [([['d']], .directory), ([['d'], ['x']], .directory),
    ([['d'], ['x'], ['ö']], .file [7]), ([['d'], ['y']], .file [8])]
  current := []

theorem uploadTree_mirrors_nested : ∃ t,
    (uploadTree ⟨"http://host".toList, []⟩ nestedDisk "d" (.ofString "t//u")).run
        (serve ⟨"http://host".toList, []⟩) Tree.bare = (.ok 2, t) ∧
      t.at? [['t'], ['u'], ['x'], ['ö']] = some (.file [7]) ∧
      t.at? [['t'], ['u'], ['y']] = some (.file [8]) := by
  have hsource : nestedDisk.follow "d".toList = .ok (.directory [['d']]) := by decide
  have hfree : ∀ l, (ResourcePath.ofString "t//u").segments <+: l → l ≠ [] →
      (id Tree.bare).at? l = none := fun l _ hl => Tree.at?_bare hl
  have hway : ∀ l, l <+: (ResourcePath.ofString "t//u").segments →
      ∀ c, (id Tree.bare).at? l ≠ some (.file c) := fun l _ =>
    ne_file_of_free (fun l _ hl => Tree.at?_bare hl) List.nil_prefix
  obtain ⟨t, hrun, hmirror, -⟩ :=
    (uploadTree_mirrors (isFaithful_serve ⟨"http://host".toList, []⟩) hsource hfree hway).mpr
      ⟨by decide, by decide⟩
  have hsegments : (ResourcePath.ofString "t//u").segments = [['t'], ['u']] := by decide
  rw [hsegments] at hmirror
  exact ⟨t, hrun, (hmirror.below [['x'], ['ö']] [7]).mpr (by decide),
    (hmirror.below [['y']] [8]).mpr (by decide)⟩

/-- A disk with a file that has a backslash in its name, after two dots. -/
def slantedDisk : Local.Disk where
  entries := [([['d']], .directory), ([['d'], ['.', '.', '\\', 'c']], .file [7])]
  current := []

/-- Such a file is stored outside the destination, and not where its name leads. -/
theorem uploadTree_slanted :
    ((uploadTree ⟨"http://host".toList, []⟩ slantedDisk "d" (.ofString "t")).run
        (serve ⟨"http://host".toList, []⟩) Tree.bare).1 = .ok 1 ∧
      ((uploadTree ⟨"http://host".toList, []⟩ slantedDisk "d" (.ofString "t")).run
        (serve ⟨"http://host".toList, []⟩) Tree.bare).2.at? [['c']] = some (.file [7]) ∧
      ((uploadTree ⟨"http://host".toList, []⟩ slantedDisk "d" (.ofString "t")).run
        (serve ⟨"http://host".toList, []⟩) Tree.bare).2.at? [['t'], ['.', '.', '\\', 'c']] =
          none := by
  decide +kernel

end DavCourier.Transfer
