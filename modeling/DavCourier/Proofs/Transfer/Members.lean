import DavCourier.Proofs.Local.Below
import DavCourier.Proofs.Transfer.Listing

/-!
# Members in whatever order, under whatever names

A client goes through the entries of a report one by one (`gather`). It stops at a file in the
place of the collection, passes over other entries for the collection or the root, and keeps the
name of every other entry. A report yields its entries in an order of its own, so `listIn` has
this order as a parameter. What is read does not depend on it : an entry that stops the client
does so wherever it stands (`gather_eq`), and the names are sorted in the end (`listIn_order`).

A server may write anything as a reference. It is read as a path of clean segments, and the last
of them is the name. So each name of a listing is that of a step down, with a slash for a
collection, and in a directory it leads to what is in it or nowhere (`list_shows`).
-/

namespace DavCourier

/-! ## Names in a directory -/

namespace Local

/-- The path of a name in a directory. A name that starts with a slash is a path from the root. -/
def join (directory name : List Char) : List Char :=
  if name.head? = some '/' ∨ directory = [] then name else pathBelow directory [name]

/-- The place that a path leads to. -/
def Target.location : Target → Place
  | .directory place => place
  | .file place _ _ => place
  | .absent place _ => place

variable {disk : Disk} {here : Place} {target : Target}

theorem followFrom_blanks (disk : Disk) (here : Place) {blanks : List (List Char)}
    (h : ∀ b ∈ blanks, b = []) : disk.followFrom here blanks = .ok (.directory here) := by
  induction blanks with
  | nil => rfl
  | cons b blanks ih =>
    have hidle : isIdle b = true := by simp [isIdle, h b List.mem_cons_self]
    rw [Disk.followFrom, if_pos hidle]
    exact ih fun c hc => h c (List.mem_cons_of_mem _ hc)

/-- The name of a step leads one step down from a directory, if anywhere. -/
theorem location_of_followFrom {name : List Char} (hname : IsSegment name)
    {blanks : List (List Char)} (hblanks : ∀ b ∈ blanks, b = [])
    (h : disk.followFrom here (name :: blanks) = .ok target) :
    target.location = here ++ [name] := by
  obtain ⟨hempty, hdot, hup, -⟩ := hname
  have hidle : ¬ isIdle name = true := by simp [isIdle, hempty, hdot]
  rw [Disk.followFrom, if_neg hidle, if_neg hup] at h
  split at h
  · cases h
  · split at h
    · rw [followFrom_blanks disk _ hblanks] at h
      cases h
      rfl
    all_goals
      split at h
      · cases h
        rfl
      · cases h

theorem splitAt_append_slashes {name : List Char} (h : '/' ∉ name) (n : ℕ) :
    Text.splitAt '/' (name ++ List.replicate n '/') = name :: List.replicate n [] := by
  induction n with
  | zero => simpa using Text.splitAt_eq_singleton h
  | succ n ih =>
    rw [List.replicate_succ', ← List.append_assoc, Text.splitAt_append, ih]
    simp [Text.splitAt, List.replicate_succ']

/-- In a directory, the name of a step leads to what is in it, whether a slash follows or not. -/
theorem location_of_follow_join {directory name : List Char}
    (hdir : disk.follow directory = .ok (.directory here)) (hname : IsSegment name) {n : ℕ}
    (h : disk.follow (join directory (name ++ List.replicate n '/')) = .ok target) :
    target.location = here ++ [name] := by
  obtain ⟨-, hne, hfollow⟩ := Disk.followFrom_of_follow hdir
  obtain ⟨-, -, htarget⟩ := Disk.followFrom_of_follow h
  obtain ⟨c, cs, rfl⟩ := List.exists_cons_of_ne_nil hname.1
  have hc : c ≠ '/' := fun heq => hname.2.2.2.1 (heq ▸ List.mem_cons_self)
  have hjoin : join directory (c :: cs ++ List.replicate n '/') =
      pathBelow directory [c :: cs ++ List.replicate n '/'] := by
    rw [join, if_neg]
    simp [hne, hc]
  obtain ⟨rest, hrest⟩ := pathBelow_eq_append directory [c :: cs ++ List.replicate n '/']
  obtain ⟨base, hbelow, hbase⟩ := Disk.exists_pathBelow
    (List.cons_ne_nil (c :: cs ++ List.replicate n '/') []) hfollow
  have hstart : disk.start (join directory (c :: cs ++ List.replicate n '/')) =
      disk.start directory := by
    rw [Disk.start, Disk.start, hjoin, hrest, List.head?_append_of_ne_nil _ hne]
  rw [hstart, hjoin, hbelow, Text.splitAt_append, Disk.followFrom_append hbase] at htarget
  have hsingle : Text.join '/' [c :: cs ++ List.replicate n '/'] =
    c :: cs ++ List.replicate n '/' := rfl
  rw [hsingle, splitAt_append_slashes hname.2.2.2.1] at htarget
  exact location_of_followFrom hname (fun b hb => List.eq_of_mem_replicate hb) htarget

end Local

namespace Transfer

open Http Dav

/-! ## Entries in whatever order -/

/-- Reads the entries one by one, with the names so far. A file in the place of the collection
ends the reading. -/
def gather (r : Repository) (p : ResourcePath) (names : List String) :
    List Resource → Option (List String)
  | [] => some names
  | e :: es =>
    let path := r.pathOfHref e.href
    if path = p then
      if e.isCollection then gather r p names es else none
    else if path.name = [] then gather r p names es
    else
      let name := if e.isCollection then path.name ++ ['/'] else path.name
      gather r p (names ++ [String.ofList name]) es

/-- The names of the members of a collection, where a report yields its entries in some order. -/
def listIn (order : MultiStatus → List Resource) (r : Repository) (p : ResourcePath) :
    Dialogue (Except Failure (List String)) :=
  let url := r.collectionUrl p
  (probe url .one).map fun result =>
    match result with
    | .error fault => .error (.exchange fault)
    | .ok finding =>
      if finding.isPresent then
        match finding.report with
        | none => .ok []
        | some report =>
          match gather r p [] (order report) with
          | some names => .ok (names.mergeSort fun a b => a ≤ b)
          | none => .error (.notListable url)
      else .error (.ofStatus finding.status url)

variable {r : Repository} {p : ResourcePath} {entry : Resource}

theorem name_eq_nil_iff {p : ResourcePath} : p.name = [] ↔ p.isRoot = true := by
  rw [ResourcePath.isRoot_iff, ResourcePath.name]
  rcases List.eq_nil_or_concat p.segments with hnil | ⟨init, last, hlast⟩
  · simp [hnil]
  · have hclean := p.clean last (by simp [hlast])
    simp [hlast, hclean.1]

/-- An entry that ends the reading does so after any others, and before any others. -/
theorem gather_eq (r : Repository) (p : ResourcePath) (es : List Resource) (names : List String) :
    gather r p names es = if es.any fun e => isSelf r p e && !e.isCollection then none
      else some (names ++ es.filterMap (memberName? r p)) := by
  induction es generalizing names with
  | nil => simp [gather]
  | cons e es ih =>
    by_cases hself : r.pathOfHref e.href = p
    · cases hcoll : e.isCollection
      · simp [gather, isSelf, hself, hcoll]
      · simp [gather, isSelf, memberName?, hself, hcoll, ih]
    · by_cases hroot : (r.pathOfHref e.href).isRoot = true
      · simp [gather, isSelf, memberName?, hself, name_eq_nil_iff.mpr hroot, hroot, ih]
      · simp [gather, isSelf, memberName?, hself, mt name_eq_nil_iff.mp hroot, hroot, ih]

theorem membersAmong_eq_gather (r : Repository) (p : ResourcePath) (es : List Resource) :
    membersAmong r p es =
      (gather r p [] es).map fun names => names.mergeSort fun a b => a ≤ b := by
  rw [gather_eq, membersAmong]
  split <;> rfl

theorem mergeSort_eq_of_perm {names names' : List String} (h : names.Perm names') :
    (names.mergeSort fun a b => a ≤ b) = names'.mergeSort fun a b => a ≤ b := by
  have hperm : (names.mergeSort fun a b => a ≤ b).Perm (names'.mergeSort fun a b => a ≤ b) :=
    ((List.mergeSort_perm names _).trans h).trans (List.mergeSort_perm names' _).symm
  exact hperm.eq_of_pairwise (fun _ _ _ _ => String.le_antisymm) (pairwise_mergeSort_le names)
    (pairwise_mergeSort_le names')

/-- The entries list the same members in every order. -/
theorem membersAmong_perm {es es' : List Resource} (h : es.Perm es') :
    membersAmong r p es = membersAmong r p es' := by
  have hany : (es.any fun e => isSelf r p e && !e.isCollection) =
      es'.any fun e => isSelf r p e && !e.isCollection := by
    rw [Bool.eq_iff_iff, List.any_eq_true, List.any_eq_true]
    simp only [h.mem_iff]
  rw [membersAmong, membersAmong, hany, mergeSort_eq_of_perm (h.filterMap _)]

theorem membersAmong_eq_some {es : List Resource} {names : List String} :
    membersAmong r p es = some names ↔
      (∀ e ∈ es, isSelf r p e = true → e.isCollection = true) ∧
        names = (es.filterMap (memberName? r p)).mergeSort fun a b => a ≤ b := by
  have hfile : (es.any fun e => isSelf r p e && !e.isCollection) = true ↔
      ¬ ∀ e ∈ es, isSelf r p e = true → e.isCollection = true := by
    simp [List.any_eq_true]
  rw [membersAmong]
  split
  · next hany => simp [hfile.mp hany]
  · next hany =>
    rw [hfile, not_not] at hany
    rw [Option.some.injEq, eq_comm, and_iff_right hany]

theorem listIn_eq_list {order : MultiStatus → List Resource}
    (horder : ∀ report, (order report).Perm report.entries) : listIn order r p = list r p := by
  unfold listIn list
  refine congrArg (Dialogue.map · _) (funext fun result => ?_)
  cases result with
  | error fault => rfl
  | ok finding =>
    dsimp only
    split
    · cases finding.report with
      | none => rfl
      | some report =>
        dsimp only
        rw [← membersAmong_perm (horder report), membersAmong_eq_gather]
        cases gather r p [] (order report) <;> rfl
    · rfl

/-- The listing of a collection that is reported. -/
theorem run_list {σ : Type} {server : σ → Request → Answer × σ} {t : σ} {response : Response}
    {report : MultiStatus}
    (hserve : (server t (probeRequest (r.collectionUrl p) .one)).1 = .ok response)
    (hcode : response.status.code = 207)
    (hbody : MultiStatus.parse response.body = .ok (some report)) :
    ((list r p).run server t).1 = (membersAmong r p report.entries).elim
      (.error (.notListable (r.collectionUrl p))) .ok := by
  have hfinding : findingOf (r.collectionUrl p) (.ok response) =
      .ok ⟨response.status, some report⟩ := by
    rw [findingOf, if_pos hcode, hbody]
  have hpresent : (⟨response.status, some report⟩ : Finding).isPresent = true := by
    simp [Finding.isPresent, hcode]
  have hsend : ((Dialogue.send (probeRequest (r.collectionUrl p) .one)).run server t).1 =
      .ok response := hserve
  rw [list, Dialogue.run_map, probe, Dialogue.run_map, hsend, hfinding]
  refine (if_pos hpresent).trans ?_
  cases membersAmong r p report.entries <;> rfl

theorem run_list_eq_ok {σ : Type} {server : σ → Request → Answer × σ} {t : σ} {response : Response}
    {report : MultiStatus} {names : List String}
    (hserve : (server t (probeRequest (r.collectionUrl p) .one)).1 = .ok response)
    (hcode : response.status.code = 207)
    (hbody : MultiStatus.parse response.body = .ok (some report)) :
    ((list r p).run server t).1 = .ok names ↔ membersAmong r p report.entries = some names := by
  rw [run_list hserve hcode hbody]
  cases membersAmong r p report.entries <;> simp

/-- A client lists a collection in the same way, with the same names or the same failure, in
whatever orders a report yields its entries. -/
theorem listIn_order {order order' : MultiStatus → List Resource}
    (horder : ∀ report, (order report).Perm report.entries)
    (horder' : ∀ report, (order' report).Perm report.entries) (r : Repository)
    (p : ResourcePath) : listIn order r p = listIn order' r p ∧ listIn order r p = list r p := by
  rw [listIn_eq_list horder, listIn_eq_list horder']
  exact ⟨rfl, rfl⟩

/-- The answer with a report. -/
def answered (report : MultiStatus) : Response :=
  { status := ⟨207, none⟩, body := Utf8.encodeString report.render }

theorem parse_answered (report : MultiStatus) (h : report.readBack = report) :
    MultiStatus.parse (answered report).body = .ok (some report) := by
  rw [answered, MultiStatus.parse_render_eq, h]

/-- A place of a repository. -/
def shelf : Repository := ⟨"http://h/r".toList, "/r".toList⟩

/-- A report that has the collection twice, once as a file. -/
def conflictingReport : MultiStatus :=
  .ofList [{ href := "/r/d" }, { href := "/r/d/", isCollection := true }, { href := "/r/d/a" }]

theorem listIn_order_conflicting :
    listIn (fun report => report.entries.reverse) shelf (.ofString "d") =
      listIn (fun report => report.entries) shelf (.ofString "d") ∧
    ((listIn (fun report => report.entries.reverse) shelf (.ofString "d")).run
      (constantServer (.ok (answered conflictingReport))) ()).1 =
        .error (.notListable "http://h/r/d/") := by
  obtain ⟨hsame, hlist⟩ := listIn_order (fun report => report.entries.reverse_perm)
    (fun report => .refl report.entries) shelf (.ofString "d")
  have hbody := parse_answered conflictingReport (by decide +kernel)
  have hmembers : membersAmong shelf (.ofString "d") conflictingReport.entries = none := by
    decide +kernel
  refine ⟨hsame, ?_⟩
  rw [hlist, run_list rfl rfl hbody, hmembers]
  decide +kernel

/-! ## Names that a server may make up -/

/-- The name is that of a member which is a collection if the entry says so. -/
def Shows (entry : Resource) (name : String) : Prop :=
  ∃ m : Member, m.isCollection = entry.isCollection ∧ m.shown = name

/-- The entries of the report that an answer comes with. -/
def reported (url : String) (answer : Answer) : List Resource :=
  match findingOf url answer with
  | .ok ⟨_, some report⟩ => report.entries
  | _ => []

theorem shows_of_memberName? {name : String} (h : memberName? r p entry = some name) :
    Shows entry name := by
  unfold memberName? at h
  dsimp only at h
  split at h
  · cases h
  · next hmember =>
    cases h
    rw [not_or] at hmember
    have hne : (r.pathOfHref entry.href).segments ≠ [] := by
      rw [Ne, ← ResourcePath.isRoot_iff]
      exact hmember.2
    have hname : (r.pathOfHref entry.href).name =
        (r.pathOfHref entry.href).segments.getLast hne := by
      rw [ResourcePath.name, List.getLast?_eq_some_getLast hne]
      rfl
    have hclean := (r.pathOfHref entry.href).clean _ (List.getLast_mem hne)
    refine ⟨⟨String.ofList (r.pathOfHref entry.href).name, entry.isCollection, ?_⟩, rfl, ?_⟩
    · rw [String.toList_ofList, hname]
      exact hclean
    · cases entry.isCollection
      · rfl
      · exact String.ofList_append.symm

theorem exists_member_of_mem {es : List Resource} {names : List String}
    (h : List.Forall₂ Shows es names) : ∀ name ∈ names, ∃ m : Member, m.shown = name := by
  induction h with
  | nil => exact nofun
  | cons hshows _ ih =>
    obtain ⟨m, -, hm⟩ := hshows
    exact List.forall_mem_cons.mpr ⟨⟨m, hm⟩, ih⟩

theorem Member.exists_slashes (m : Member) :
    ∃ n, m.shown.toList = m.name.toList ++ List.replicate n '/' := by
  unfold Member.shown
  split
  · exact ⟨1, String.toList_append⟩
  · exact ⟨0, (List.append_nil _).symm⟩

theorem exists_sublist_filterMap {α β : Type} (f : α → Option β) (l : List α) :
    ∃ kept, kept.Sublist l ∧ List.Forall₂ (fun a b => f a = some b) kept (l.filterMap f) := by
  induction l with
  | nil => exact ⟨[], .slnil, .nil⟩
  | cons a l ih =>
    obtain ⟨kept, hsub, hkept⟩ := ih
    cases ha : f a with
    | none => exact ⟨kept, hsub.cons a, by simpa [ha] using hkept⟩
    | some b => exact ⟨a :: kept, hsub.cons_cons a, by simpa [ha] using hkept⟩

theorem encodeString_le_encodeString {a b : String} (h : a ≤ b) :
    Utf8.encodeString a ≤ Utf8.encodeString b := by
  by_cases heq : a = b
  · rw [heq]
    exact List.le_refl _
  · have hlt : a < b := string_lt_of_not (Ne.symm heq) (String.not_lt.mpr h)
    exact List.le_of_lt (Utf8.encode_lt_encode hlt)

/-- What is listed of the entries of a report, of each of them at most one name. -/
theorem exists_kept_of_membersAmong {es : List Resource} {names : List String}
    (h : membersAmong r p es = some names) :
    names.Pairwise (· ≤ ·) ∧ ∃ kept shown, kept.Sublist es ∧ List.Forall₂ Shows kept shown ∧
      names.Perm shown := by
  obtain ⟨-, rfl⟩ := membersAmong_eq_some.mp h
  obtain ⟨kept, hsub, hkept⟩ := exists_sublist_filterMap (memberName? r p) es
  exact ⟨pairwise_mergeSort_le _, kept, _, hsub, hkept.imp fun _ _ => shows_of_memberName?,
    List.mergeSort_perm _ _⟩

theorem list_eq_ok {σ : Type} {server : σ → Request → Answer × σ} {t : σ} {names : List String}
    (h : ((list r p).run server t).1 = .ok names) : names = [] ∨
      membersAmong r p (reported (r.collectionUrl p)
        (server t (probeRequest (r.collectionUrl p) .one)).1) = some names := by
  rw [list, Dialogue.run_map, probe, Dialogue.run_map] at h
  have hsend : ((Dialogue.send (probeRequest (r.collectionUrl p) .one)).run server t).1 =
      (server t (probeRequest (r.collectionUrl p) .one)).1 := rfl
  rw [hsend] at h
  unfold reported
  generalize findingOf (r.collectionUrl p) (server t (probeRequest (r.collectionUrl p) .one)).1 =
    result at h ⊢
  rcases result with fault | ⟨status, report⟩
  · cases h
  · dsimp only at h
    split at h
    · cases report with
      | none =>
        cases h
        exact Or.inl rfl
      | some report =>
        dsimp only at h ⊢
        cases hmembers : membersAmong r p report.entries with
        | none =>
          rw [hmembers] at h
          cases h
        | some found =>
          rw [hmembers] at h
          cases h
          exact Or.inr rfl
    · cases h

/-- Whatever a server answers, the names that a client lists are in the order of their bytes, at
most one for each entry, and those of steps, with a slash exactly for a collection. In a local
directory, such a name leads to what is in it, if anywhere. -/
theorem list_shows {σ : Type} {server : σ → Request → Answer × σ} {t : σ} {names : List String}
    (h : ((list r p).run server t).1 = .ok names) :
    (names.Pairwise fun a b => Utf8.encodeString a ≤ Utf8.encodeString b) ∧
    (∃ kept shown, kept.Sublist (reported (r.collectionUrl p)
        (server t (probeRequest (r.collectionUrl p) .one)).1) ∧
      List.Forall₂ Shows kept shown ∧ names.Perm shown) ∧
    ∀ name ∈ names, ∀ (disk : Local.Disk) directory place target,
      disk.follow directory = .ok (.directory place) →
      disk.follow (Local.join directory name.toList) = .ok target →
        ∃ step, IsSegment step ∧ target.location = place ++ [step] := by
  obtain ⟨hsorted, kept, shown, hsub, hshown, hperm⟩ : names.Pairwise (· ≤ ·) ∧
      ∃ kept shown, kept.Sublist (reported (r.collectionUrl p)
        (server t (probeRequest (r.collectionUrl p) .one)).1) ∧
      List.Forall₂ Shows kept shown ∧ names.Perm shown := by
    rcases list_eq_ok h with rfl | hmembers
    · exact ⟨.nil, [], [], List.nil_sublist _, .nil, .refl _⟩
    · exact exists_kept_of_membersAmong hmembers
  refine ⟨hsorted.imp encodeString_le_encodeString, ⟨kept, shown, hsub, hshown, hperm⟩, ?_⟩
  intro name hname disk directory place target hdir htarget
  obtain ⟨m, rfl⟩ := exists_member_of_mem hshown _ (hperm.mem_iff.mp hname)
  obtain ⟨n, hn⟩ := m.exists_slashes
  rw [hn] at htarget
  exact ⟨m.name.toList, m.isSegment, Local.location_of_follow_join hdir m.isSegment htarget⟩

/-- A report with references that lead elsewhere. -/
def hostileReport : MultiStatus :=
  .ofList [{ href := "/r/d/%5c..%5Ca/", isCollection := true },
    { href := "/r/d/..%2F..%2Fetc%2Fpasswd" }, { href := "http://x/%FF/z%2f.." },
    { href := "/r/%2e" }]

/-- A disk with one directory. -/
def shelfDisk : Local.Disk :=
  .blank [['x']] (by decide)

theorem list_shows_hostile :
    ((list shelf (.ofString "d")).run (constantServer (.ok (answered hostileReport))) ()).1 =
      .ok ["a/", "passwd", "z%2f.."] ∧
    (∃ kept shown, kept.Sublist hostileReport.entries ∧ List.Forall₂ Shows kept shown ∧
      ["a/", "passwd", "z%2f.."].Perm shown) ∧
    shelfDisk.follow (Local.join "/x".toList "a/".toList) =
      .ok (.absent [['x'], ['a']] true) ∧
    ∃ step, IsSegment step ∧
      (Local.Target.absent [['x'], ['a']] true).location = [['x']] ++ [step] := by
  have hbody := parse_answered hostileReport (by decide +kernel)
  have hmembers : membersAmong shelf (.ofString "d") hostileReport.entries =
      some ["a/", "passwd", "z%2f.."] := by
    have hnames : hostileReport.entries.filterMap (memberName? shelf (.ofString "d")) =
        ["a/", "passwd", "z%2f.."] := by
      decide +kernel
    rw [membersAmong, if_neg (by decide +kernel), hnames,
      List.mergeSort_of_pairwise (by decide +kernel)]
  have hrun : ((list shelf (.ofString "d")).run
      (constantServer (.ok (answered hostileReport))) ()).1 = .ok ["a/", "passwd", "z%2f.."] :=
    (run_list_eq_ok rfl rfl hbody).mpr hmembers
  obtain ⟨-, hkept, hinside⟩ := list_shows hrun
  have hcode : (answered hostileReport).status.code = 207 := rfl
  have hreported : reported (shelf.collectionUrl (.ofString "d")) (.ok (answered hostileReport)) =
      hostileReport.entries := by
    rw [reported, findingOf, if_pos hcode, hbody]
  have hfollow : shelfDisk.follow (Local.join "/x".toList "a/".toList) =
      .ok (.absent [['x'], ['a']] true) := by
    decide +kernel
  refine ⟨hrun, ?_, hfollow,
    hinside "a/" (by decide) shelfDisk "/x".toList [['x']] _ (by decide +kernel) hfollow⟩
  rw [← hreported]
  exact hkept

end Transfer
end DavCourier
