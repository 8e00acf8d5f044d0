import DavCourier.Proofs.Dav.RoundTrip
import DavCourier.Proofs.Repository.Reference
import DavCourier.Proofs.Transfer.Transcript
import DavCourier.Transfer.Listing
import Mathlib.Data.List.Forall2

/-!
# Reading a listing back

A report on a collection has an entry for each of its members, and maybe one for the collection
itself (`Lists`). However their references are spelled, and whatever the other properties are,
its listing has the name of each member once, in the order of the bytes (`list_members`).

A member is told by its reference alone : it is read as the path of the member, which is neither
the collection nor the root, and ends with the name (`memberName?_of_isEntry`).
-/

namespace DavCourier.Transfer

open Http Dav

/-- What a collection has below it. -/
structure Member where
  name : String
  isCollection : Bool
  isSegment : IsSegment name.toList

namespace Member

/-- The name as a listing shows it. -/
def shown (m : Member) : String :=
  if m.isCollection then m.name ++ "/" else m.name

/-- The path of a member of a collection. -/
def path (m : Member) (directory : String) : ResourcePath :=
  .ofString (directory ++ "/" ++ m.name)

theorem segments_path (m : Member) (directory : String) : (m.path directory).segments =
    (ResourcePath.ofString directory).segments ++ [m.name.toList] := by
  rw [path, ResourcePath.ofString, String.toList_append, String.toList_append, List.append_assoc]
  exact ResourcePath.segments_ofChars_append directory.toList m.isSegment

theorem path_ne (m : Member) (directory : String) :
    m.path directory ≠ ResourcePath.ofString directory := by
  intro h
  have hlen := congrArg (fun p => p.segments.length) h
  simp only [segments_path, List.length_append, List.length_singleton] at hlen
  omega

theorem isRoot_path (m : Member) (directory : String) : (m.path directory).isRoot = false := by
  rw [ResourcePath.isRoot, segments_path, List.isEmpty_eq_false_iff]
  exact List.append_ne_nil_of_right_ne_nil _ (List.cons_ne_nil _ _)

theorem name_path (m : Member) (directory : String) :
    (m.path directory).name = m.name.toList := by
  rw [ResourcePath.name, segments_path, List.getLast?_concat]
  rfl

/-- The name that is shown says the name. -/
theorem name_eq_of_shown {m n : Member} (h : m.shown = n.shown) : m.name = n.name := by
  have hslash : ∀ a b : Member, a.name ++ "/" ≠ b.name := by
    intro a b hab
    refine b.isSegment.2.2.2.1 ?_
    rw [← hab, String.toList_append]
    exact List.mem_append_right _ List.mem_cons_self
  unfold shown at h
  split at h <;> split at h
  · have hchars := congrArg String.toList h
    rw [String.toList_append, String.toList_append] at hchars
    exact String.toList_inj.mp (List.append_cancel_right hchars)
  · exact absurd h (hslash m n)
  · exact absurd h.symm (hslash n m)
  · exact h

end Member

/-- The entry is that of a member of a collection, with its reference in any spelling. -/
structure IsEntry (r : Repository) (directory : String) (m : Member) (entry : Resource) : Prop where
  isCollection : entry.isCollection = m.isCollection
  refers : r.Refers (m.path directory) entry.href

/-- A report with one entry for each member of a collection, and at most one for the collection
itself, which says that it is one. -/
def Lists (r : Repository) (directory : String) (members : List Member) (report : MultiStatus) :
    Prop :=
  ∃ (own : Option Resource) (entries : List Resource),
    report.entries.Perm (own.toList ++ entries) ∧
    (∀ e ∈ own, e.isCollection = true ∧ r.Refers (.ofString directory) e.href) ∧
    List.Forall₂ (IsEntry r directory) members entries

variable {r : Repository} {directory : String} {members : List Member} {report : MultiStatus}
  {entry : Resource} {base : List Char}

theorem Lists.entry_cases (h : Lists r directory members report) : ∀ e ∈ report.entries,
    (e.isCollection = true ∧ r.Refers (.ofString directory) e.href) ∨
      ∃ m, IsEntry r directory m e := by
  obtain ⟨own, entries, hperm, hown, hentries⟩ := h
  have hmember : ∀ e ∈ entries, ∃ m, IsEntry r directory m e := by
    clear hperm
    induction hentries with
    | nil => exact nofun
    | @cons m e _ _ he _ ih => exact List.forall_mem_cons.mpr ⟨⟨m, he⟩, ih⟩
  intro e he
  rcases List.mem_append.mp (hperm.mem_iff.mp he) with he | he
  · exact Or.inl (hown e (Option.mem_toList.mp he))
  · exact Or.inr (hmember e he)

/-! ## What comes back with a report -/

theorem Lists.entries_readBack (h : Lists r directory members report) (hrooted : r.IsRooted) :
    report.readBack.entries = report.entries.map Resource.readBack := by
  refine MultiStatus.entries_readBack_of_href fun e he => ?_
  rcases h.entry_cases e he with hown | ⟨m, hm⟩
  · exact Repository.trim_of_refers hrooted hown.2
  · exact Repository.trim_of_refers hrooted hm.refers

theorem refers_readBack {p : ResourcePath} (hrooted : r.IsRooted) (h : r.Refers p entry.href) :
    r.Refers p entry.readBack.href := by
  have htrim : entry.readBack.href = entry.href := (Repository.trim_of_refers hrooted h).1
  rwa [htrim]

section

variable (hrooted : r.IsRooted) (hbase : Percent.Reads r.basePath base)

include hrooted hbase

theorem memberName?_of_self (h : r.Refers (.ofString directory) entry.href) :
    memberName? r (.ofString directory) entry = none := by
  rw [memberName?, Repository.pathOfHref_of_refers hrooted hbase h]
  exact if_pos (Or.inl rfl)

theorem isSelf_of_member {m : Member} (h : r.Refers (m.path directory) entry.href) :
    isSelf r (.ofString directory) entry = false := by
  rw [isSelf, Repository.pathOfHref_of_refers hrooted hbase h]
  exact decide_eq_false (m.path_ne directory)

/-- The entry of a member is listed by the name of the member. -/
theorem memberName?_of_isEntry {m : Member} (h : IsEntry r directory m entry) :
    memberName? r (.ofString directory) entry = some m.shown := by
  have hneither : ¬ (m.path directory = ResourcePath.ofString directory ∨
      (m.path directory).isRoot = true) := by
    rw [m.isRoot_path, not_or]
    exact ⟨m.path_ne directory, Bool.false_ne_true⟩
  rw [memberName?, Repository.pathOfHref_of_refers hrooted hbase h.refers, if_neg hneither,
    m.name_path, h.isCollection, Member.shown]
  split
  · rw [String.ofList_append, String.ofList_toList]
  · rw [String.ofList_toList]

theorem filterMap_memberName? {entries : List Resource}
    (h : List.Forall₂ (IsEntry r directory) members entries) :
    entries.filterMap (fun e => memberName? r (.ofString directory) e.readBack) =
      members.map Member.shown := by
  induction h with
  | nil => rfl
  | @cons m e members entries he _ ih =>
    rw [List.map_cons, ← ih]
    exact List.filterMap_cons_some (memberName?_of_isEntry hrooted hbase
      ⟨he.isCollection, refers_readBack hrooted he.refers⟩)

/-- No file is reported in the place of the collection. -/
theorem not_file_of_lists (h : Lists r directory members report) : ∀ e ∈ report.entries,
    (isSelf r (.ofString directory) e.readBack && !e.isCollection) = false := by
  intro e he
  rcases h.entry_cases e he with hown | ⟨m, hm⟩
  · rw [hown.1]
    exact Bool.and_false _
  · rw [isSelf_of_member hrooted hbase (refers_readBack hrooted hm.refers)]
    rfl

theorem perm_shown_of_lists (h : Lists r directory members report) :
    (report.entries.filterMap fun e => memberName? r (.ofString directory) e.readBack).Perm
      (members.map Member.shown) := by
  obtain ⟨own, entries, hperm, hown, hentries⟩ := h
  have hself : own.toList.filterMap
      (fun e => memberName? r (.ofString directory) e.readBack) = [] := by
    refine List.filterMap_eq_nil_iff.mpr fun e he => ?_
    exact memberName?_of_self hrooted hbase
      (refers_readBack hrooted (hown e (Option.mem_toList.mp he)).2)
  have hall := hperm.filterMap fun e => memberName? r (.ofString directory) e.readBack
  rwa [List.filterMap_append, hself, List.nil_append,
    filterMap_memberName? hrooted hbase hentries] at hall

end

/-! ## The order of a listing -/

theorem pairwise_mergeSort_le (names : List String) :
    (names.mergeSort fun a b => a ≤ b).Pairwise (· ≤ ·) := by
  have hsorted : (names.mergeSort fun a b => a ≤ b).Pairwise fun a b => decide (a ≤ b) = true := by
    refine List.pairwise_mergeSort (fun a b c hab hbc => ?_) (fun a b => ?_) names
    · exact decide_eq_true (String.le_trans (of_decide_eq_true hab) (of_decide_eq_true hbc))
    · simpa using String.le_total a b
  exact hsorted.imp fun h => of_decide_eq_true h

theorem nodup_shown (h : (members.map Member.name).Nodup) : (members.map Member.shown).Nodup := by
  rw [List.Nodup, List.pairwise_map] at h ⊢
  exact h.imp fun hne heq => hne (Member.name_eq_of_shown heq)

/-- Different names in order are in the order of their bytes, none of them twice. -/
theorem pairwise_bytes {names : List String} (hsorted : names.Pairwise (· ≤ ·))
    (hnodup : names.Nodup) :
    names.Pairwise fun a b => Utf8.encodeString a < Utf8.encodeString b := by
  refine (hsorted.and hnodup).imp fun ⟨hle, hne⟩ => Utf8.encode_lt_encode ?_
  exact string_lt_of_not hne.symm (String.not_lt.mpr hle)

/-! ## Listings -/

/-- What a report lists, in whatever order its entries come. -/
theorem membersAmong_of_lists (hrooted : r.IsRooted) (hbase : Percent.Reads r.basePath base)
    (hnames : (members.map Member.name).Nodup) (h : Lists r directory members report) :
    ∃ names, membersAmong r (.ofString directory) report.readBack.entries = some names ∧
      names.Perm (members.map Member.shown) ∧
      names.Pairwise fun a b => Utf8.encodeString a < Utf8.encodeString b := by
  have hperm := perm_shown_of_lists hrooted hbase h
  have hany : ((report.entries.map Resource.readBack).any fun e =>
      isSelf r (.ofString directory) e && !e.isCollection) = false := by
    rw [List.any_map, List.any_eq_false]
    exact fun e he => Bool.eq_false_iff.mp (not_file_of_lists hrooted hbase h e he)
  rw [membersAmong, h.entries_readBack hrooted, hany, if_neg Bool.false_ne_true, List.filterMap_map]
  have hsort := (List.mergeSort_perm _ fun a b => decide (a ≤ b)).trans hperm
  exact ⟨_, rfl, hsort, pairwise_bytes (pairwise_mergeSort_le _)
    (hsort.nodup_iff.mpr (nodup_shown hnames))⟩

/-- A collection whose members are reported is listed by their names, each of them once, in the
order of the bytes. -/
theorem list_members {s : Settings} (hopen : openSession s = .ok r)
    (hbase : ∃ base, Percent.Reads r.basePath base)
    (hnames : (members.map Member.name).Nodup) (hlists : Lists r directory members report)
    {σ : Type} (server : σ → Request → Answer × σ) (t : σ) {response : Response}
    (hserve : (server t (probeRequest (r.collectionUrl (.ofString directory)) .one)).1 =
      .ok response)
    (hcode : response.status.code = 207)
    (hbody : response.body = Utf8.encodeString report.render) :
    ∃ names, ((list r (.ofString directory)).run server t).1 = .ok names ∧
      names.Perm (members.map Member.shown) ∧
      names.Pairwise fun a b => Utf8.encodeString a < Utf8.encodeString b := by
  obtain ⟨base, hbase⟩ := hbase
  obtain ⟨names, hmembers, hperm, hsorted⟩ :=
    membersAmong_of_lists (Repository.isRooted_of_openSession hopen) hbase hnames hlists
  have hfinding : findingOf (r.collectionUrl (.ofString directory)) (.ok response) =
      .ok ⟨response.status, some report.readBack⟩ := by
    rw [findingOf, if_pos hcode, hbody, MultiStatus.parse_render_eq]
  have hpresent : (⟨response.status, some report.readBack⟩ : Finding).isPresent = true := by
    simp [Finding.isPresent, hcode]
  refine ⟨names, ?_, hperm, hsorted⟩
  rw [list, Dialogue.run_map, probe, Dialogue.run_map]
  have hsend : ((Dialogue.send (probeRequest (r.collectionUrl (.ofString directory)) .one)).run
      server t).1 = .ok response := hserve
  rw [hsend, hfinding]
  dsimp only
  rw [if_pos hpresent, hmembers]

/-- A repository whose path on the server has an escape. -/
def accentedSettings : Settings := { repositoryUrl := "http://h/r%C3%A9/" }

/-- Two members with characters that are escaped in a reference, or in a report. -/
def spelledMembers : List Member :=
  [⟨"ü &b", false, by decide⟩, ⟨"a%2f", true, by decide⟩]

/-- A report on them, each reference spelled in another way. -/
def spelledReport : MultiStatus :=
  .ofList [{ href := "/r%C3%A9/d/%C3%BC%20%26b", etag := some "" },
    { href := "https://x:1/r%C3%A9/d/a%252f/", isCollection := true },
    { href := "http://h/r%C3%A9/d", isCollection := true, status := 500 }]

/-- The answer with that report. -/
def spelledResponse : Response :=
  { status := ⟨207, none⟩, body := Utf8.encodeString spelledReport.render }

theorem list_members_spelled :
    ∃ r names, openSession accentedSettings = .ok r ∧
      ((list r (.ofString "d")).run (constantServer (.ok spelledResponse)) ()).1 = .ok names ∧
      names.Perm (spelledMembers.map Member.shown) ∧
      names.Pairwise fun a b => Utf8.encodeString a < Utf8.encodeString b := by
  have hopen : openSession accentedSettings =
      .ok ⟨"http://h/r%C3%A9".toList, "/r%C3%A9".toList⟩ := by
    decide +kernel
  have hnames : (spelledMembers.map Member.name).Nodup := by decide +kernel
  have hlists : Lists ⟨"http://h/r%C3%A9".toList, "/r%C3%A9".toList⟩ "d" spelledMembers
      spelledReport := by
    refine ⟨some { href := "http://h/r%C3%A9/d", isCollection := true, status := 500 },
      [{ href := "/r%C3%A9/d/%C3%BC%20%26b", etag := some "" },
        { href := "https://x:1/r%C3%A9/d/a%252f/", isCollection := true }],
      by decide +kernel, ?_, ?_⟩
    · rintro e ⟨⟩
      exact ⟨rfl, "http://h".toList, [], Or.inr ⟨['h'], by decide, Or.inl rfl⟩, Or.inl rfl,
        by decide +kernel⟩
    · exact .cons ⟨rfl, [], [], Or.inl rfl, Or.inl rfl, by decide +kernel⟩
        (.cons ⟨rfl, "https://x:1".toList, ['/'], Or.inr ⟨"x:1".toList, by decide, Or.inr rfl⟩,
          Or.inr rfl, by decide +kernel⟩ .nil)
  have hbody : spelledResponse.body = Utf8.encodeString spelledReport.render := by
    rw [spelledResponse]
  obtain ⟨names, hresult, hperm, hsorted⟩ := list_members hopen ⟨"/ré".toList, by decide +kernel⟩
    hnames hlists (constantServer (.ok spelledResponse)) () rfl rfl hbody
  exact ⟨_, names, hopen, hresult, hperm, hsorted⟩

end DavCourier.Transfer
