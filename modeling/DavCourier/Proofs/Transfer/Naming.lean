import DavCourier.Proofs.Repository.Recognition
import DavCourier.Proofs.Transfer.Members
import Mathlib.Algebra.Order.BigOperators.Group.List
import Mathlib.Algebra.Order.Group.Nat

/-!
# Names with escapes

A report on a collection names each member by the last segment of its reference, with escapes
(`IsMemberEntry`). A client reads the escapes of the whole reference and takes it apart then. So
what it lists is that segment with its escapes read (`decodedName`) if and only if each segment,
read by itself, is that of a step, and the path of the repository on the server spells a text or
nothing is escaped at all (`list_decoded_iff`).

An escape that spells a slash, a backslash or dots makes another path of a reference. If the path
of the repository spells no text, no reference below it is read, and the collection itself may be
taken for a member. In every other case the segments are listed with their escapes read, whatever
else is in them : one that spells no text keeps its own escapes.

For the way back, the names that are listed are those that are expected, in some order. None of
them is longer than the one that is expected of its entry, if the path on the server spells a
text, and none is shorter, if it does not. So each of them is the one that is expected.
-/

namespace DavCourier

open Percent
open Url (joinSegments joinSegments_append joinSegments_concat escaped_eq)

/-- A permutation of a list that weighs more at no place weighs the same at every place. -/
theorem map_eq_of_perm_of_le {α β : Type} {f g : α → β} (weight : β → ℕ) {l : List α}
    (hperm : (l.map f).Perm (l.map g)) (hle : ∀ a ∈ l, weight (f a) ≤ weight (g a)) :
    ∀ a ∈ l, weight (f a) = weight (g a) := by
  intro a ha
  by_contra hne
  have hlt : (l.map fun a => weight (f a)).sum < (l.map fun a => weight (g a)).sum :=
    List.sum_lt_sum _ _ hle ⟨a, ha, lt_of_le_of_ne (hle a ha) hne⟩
  have hsum := (hperm.map weight).sum_eq
  rw [List.map_map, List.map_map] at hsum
  exact hlt.ne hsum

namespace Repository

variable {r : Repository} {href : String}

/-- Names stay at the end of what is below a path. -/
theorem exists_below_eq (base : List Char) (names : List (List Char)) :
    ∃ cs, below (decode base) (base ++ joinSegments names) = cs ++ joinSegments names := by
  have hcut : ∀ rest, base ++ joinSegments names = decode base ++ rest →
      ∃ cs, rest = cs ++ joinSegments names := by
    intro rest hrest
    rcases List.append_eq_append_iff.mp hrest with ⟨excess, hdecode, -⟩ | ⟨cs, -, rfl⟩
    · -- reading makes nothing longer, so it changes nothing here
      obtain ⟨hle, hself⟩ := length_decode base
      have hlen := congrArg (fun cs => (Utf8.encode cs).length) hdecode
      rw [Utf8.encode_append, List.length_append] at hlen
      rw [hself (by omega)] at hrest
      exact ⟨[], (List.append_cancel_left hrest).symm⟩
    · exact ⟨cs, rfl⟩
  unfold below
  split
  · next hdrop => exact hcut [] (eq_append_of_dropStart? hdrop)
  · next rest hdrop => exact hcut _ (eq_append_of_dropStart? hdrop)
  · exact ⟨base, rfl⟩

/-- Where names are not read, they are what the path ends with. -/
theorem exists_pathOfHref_eq (hrooted : r.IsRooted) {site : List Char} (hsite : IsSite site)
    {names : List (List Char)} (hnames : ¬ ∀ name ∈ names, ∃ b, Reads name b)
    (hhref : href.toList = site ++ (r.basePath ++ joinSegments names)) :
    ∃ cs, r.pathOfHref href = .ofChars (cs ++ joinSegments names) := by
  have hself : decode (r.basePath ++ joinSegments names) = r.basePath ++ joinSegments names :=
    decode_eq_self fun ⟨_, hds⟩ => hnames (reads_of_joinSegments hds).2
  obtain ⟨cs, hcs⟩ := exists_below_eq r.basePath names
  exact ⟨cs, by rw [pathOfHref_of_names hrooted hsite hhref, hself, hcs]⟩

end Repository

namespace Transfer

open Http Dav

/-! ## Entries by their names -/

/-- The entry is that of the collection itself. -/
def IsOwnEntry (r : Repository) (p : ResourcePath) (entry : Resource) : Prop :=
  entry.isCollection = true ∧ ∃ site n, IsSite site ∧
    entry.href.toList = site ++ (r.basePath ++ Repository.escaped p ++ List.replicate n '/')

/-- The entry has the reference of the collection with one more segment, whatever it is. -/
def IsMemberEntry (r : Repository) (p : ResourcePath) (entry : Resource) : Prop :=
  ∃ site segment n, IsSite site ∧ segment ≠ [] ∧ '/' ∉ segment ∧
    entry.href.toList = site ++
      (r.basePath ++ Repository.escaped p ++ '/' :: (segment ++ List.replicate n '/'))

/-- The name as a listing shows it for an entry. -/
def shownAs (entry : Resource) (name : List Char) : String :=
  String.ofList (if entry.isCollection then name ++ ['/'] else name)

/-- The last segment of the reference with its escapes read, as a listing shows it. -/
def decodedName (entry : Resource) : String :=
  shownAs entry (decode entry.name.toList)

variable {r : Repository} {p : ResourcePath} {entry own : Resource} {members : List Resource}

theorem toList_shownAs (entry : Resource) (name : List Char) :
    (shownAs entry name).toList = name ++ List.replicate entry.isCollection.toNat '/' := by
  rw [shownAs, String.toList_ofList]
  cases entry.isCollection
  · exact (List.append_nil name).symm
  · rfl

/-- What is shown as a member is the name of a step, slashes at its end apart. -/
theorem isSegment_of_shown {m : Member} {name : List Char} (h : m.shown = shownAs entry name) :
    IsSegment (dropSlashes name) := by
  obtain ⟨n, hn⟩ := m.exists_slashes
  have hslash : m.name.toList.getLast? ≠ some '/' := fun hlast =>
    m.isSegment.2.2.2.1 (List.mem_of_getLast? hlast)
  have hname : dropSlashes name = m.name.toList := by
    rw [← dropSlashes_append_replicate name entry.isCollection.toNat, ← toList_shownAs, ← h, hn,
      dropSlashes_append_replicate, dropSlashes_eq_self.mpr hslash]
  rw [hname]
  exact m.isSegment

theorem joinSegments_concat_blanks (names : List (List Char)) (segment : List Char) (n : ℕ) :
    joinSegments (names ++ segment :: List.replicate n []) =
      joinSegments names ++ '/' :: (segment ++ List.replicate n '/') := by
  rw [List.append_cons, joinSegments_append, Repository.joinSegments_replicate,
    joinSegments_concat, List.append_assoc, List.cons_append]

/-- The last segment of a reference, slashes at its end apart. -/
theorem name_of_href {front segment : List Char} (hne : segment ≠ []) (hslash : '/' ∉ segment)
    {n : ℕ} (hhref : entry.href.toList = front ++ '/' :: (segment ++ List.replicate n '/')) :
    entry.name.toList = segment := by
  have hcut : entry.href.toList = front ++ '/' :: segment ++ List.replicate n '/' := by
    rw [hhref, List.append_assoc, List.cons_append]
  have hlast : (front ++ '/' :: segment).getLast? ≠ some '/' := by
    rw [List.append_cons, List.getLast?_append_of_ne_nil _ hne]
    exact fun hlast => hslash (List.mem_of_getLast? hlast)
  have hdrop : Text.dropTrailing (· = '/') entry.href.toList = front ++ '/' :: segment := by
    rw [hcut]
    exact (dropSlashes_append_replicate _ n).trans (dropSlashes_eq_self.mpr hlast)
  rw [Resource.name, String.toList_ofList, hdrop, Text.splitAt_append,
    Text.splitAt_eq_singleton hslash, List.getLast?_concat]
  rfl

theorem IsMemberEntry.spelled (h : IsMemberEntry r p entry) :
    entry.name.toList ≠ [] ∧ '/' ∉ entry.name.toList ∧ ∃ site n, IsSite site ∧
      entry.href.toList = site ++ (r.basePath ++ joinSegments
        (p.segments.map encode ++ entry.name.toList :: List.replicate n [])) := by
  obtain ⟨site, segment, n, hsite, hne, hslash, hhref⟩ := h
  rw [← List.append_assoc] at hhref
  have hname := name_of_href hne hslash hhref
  refine ⟨hname ▸ hne, hname ▸ hslash, site, n, hsite, ?_⟩
  rw [hhref, hname, escaped_eq, joinSegments_concat_blanks]
  simp only [List.append_assoc]

theorem IsOwnEntry.spelled (h : IsOwnEntry r p own) : ∃ site n, IsSite site ∧
    own.href.toList = site ++
      (r.basePath ++ joinSegments ((p.segments ++ List.replicate n []).map encode)) := by
  obtain ⟨-, site, n, hsite, hhref⟩ := h
  have hblanks : (List.replicate n ([] : List Char)).map encode = List.replicate n [] :=
    List.map_replicate
  refine ⟨site, n, hsite, ?_⟩
  rw [hhref, escaped_eq, List.map_append, hblanks, joinSegments_append,
    Repository.joinSegments_replicate, List.append_assoc]

/-! ## What entries are read as -/

/-- The collection is read with its escapes, or the names in its reference keep them. -/
theorem segments_pathOfHref_own (hrooted : r.IsRooted) (h : IsOwnEntry r p own) :
    (r.pathOfHref own.href).segments = r.namesBack p := by
  obtain ⟨site, n, hsite, hhref⟩ := h.spelled
  have hblanks : ∀ b ∈ List.replicate n ([] : List Char), b = [] := fun b hb =>
    List.eq_of_mem_replicate hb
  rw [Repository.namesBack]
  split
  · next hreads =>
    obtain ⟨base, hbase⟩ := hreads
    rw [Repository.pathOfHref_of_blanks hrooted hbase hsite hblanks hhref]
  · next hreads =>
    have hnames : (p.segments ++ List.replicate n []).map encode =
        p.segments.map encode ++ List.replicate n [] := by
      rw [List.map_append, List.map_replicate]
      rfl
    rw [Repository.pathOfHref_of_not_reads hrooted hreads hsite hhref, hnames]
    exact ResourcePath.segments_ofChars_joinSegments [] p.isSegment_of_mem_map_encode hblanks

/-- If the collection is not listed among its members, it is known. -/
theorem IsOwnEntry.pathOfHref_eq (hrooted : r.IsRooted) (h : IsOwnEntry r p own)
    (hskip : memberName? r p own = none) : r.pathOfHref own.href = p := by
  by_contra hother
  rw [memberName?] at hskip
  have hroot : (r.pathOfHref own.href).isRoot = true := by
    by_contra hroot
    rw [if_neg (not_or.mpr ⟨hother, hroot⟩)] at hskip
    cases hskip
  have hnil := ResourcePath.isRoot_iff.mp hroot
  have hback : r.namesBack p = r.namesBack .root := by
    rw [← segments_pathOfHref_own hrooted h, hnil, Repository.namesBack]
    split <;> rfl
  refine hother (ResourcePath.ext_segments ?_)
  rw [hnil, Repository.namesBack_injective hback]
  rfl

/-- What is read for the last segment of a reference below the repository. -/
def readName (r : Repository) (entry : Resource) : List Char :=
  if ∃ base, Reads r.basePath base then decode entry.name.toList else entry.name.toList

/-- The path of a member goes on, after as many names as the collection has, with what is read
for its last segment. -/
theorem IsMemberEntry.exists_names (hrooted : r.IsRooted) (h : IsMemberEntry r p entry) :
    ∃ front names n, (∀ name ∈ names, IsSegment name) ∧ names.length = p.segments.length ∧
      r.pathOfHref entry.href =
        .ofChars (front ++ joinSegments (names ++ readName r entry :: List.replicate n [])) := by
  obtain ⟨-, -, site, n, hsite, hhref⟩ := h.spelled
  have hencoded := p.isSegment_of_mem_map_encode
  have hlength : (p.segments.map encode).length = p.segments.length := List.length_map _
  unfold readName
  split
  · next hreads =>
    obtain ⟨base, hbase⟩ := hreads
    by_cases hname : ∃ b, Reads entry.name.toList b
    · have hall : ∀ name ∈ p.segments.map encode ++ entry.name.toList :: List.replicate n [],
          ∃ b, Reads name b := by
        refine List.forall_mem_append.mpr ⟨Repository.exists_reads_of_mem_map_encode _,
          List.forall_mem_cons.mpr ⟨hname, fun b hb => ?_⟩⟩
        rw [List.eq_of_mem_replicate hb]
        exact ⟨[], .nil⟩
      refine ⟨[], p.segments, n, p.clean, rfl, ?_⟩
      rw [Repository.pathOfHref_of_reads hrooted hbase hsite hall hhref, List.map_append,
        Repository.map_decode_encode, List.map_cons, List.map_replicate, Reads.nil.decode_eq]
      rfl
    · have hnot : ¬ ∀ name ∈ p.segments.map encode ++ entry.name.toList :: List.replicate n [],
          ∃ b, Reads name b :=
        fun hall => hname (hall _ (List.mem_append_right _ List.mem_cons_self))
      obtain ⟨front, hfront⟩ := Repository.exists_pathOfHref_eq hrooted hsite hnot hhref
      rw [decode_eq_self hname]
      exact ⟨front, _, n, hencoded, hlength, hfront⟩
  · next hreads =>
    exact ⟨[], _, n, hencoded, hlength,
      Repository.pathOfHref_of_not_reads hrooted hreads hsite hhref⟩

/-- A member whose last segment is read as the name of a step, slashes at its end apart, is listed
by this name. -/
theorem IsMemberEntry.memberName?_eq (hrooted : r.IsRooted) (h : IsMemberEntry r p entry)
    (hname : IsSegment (dropSlashes (readName r entry))) :
    memberName? r p entry = some (shownAs entry (dropSlashes (readName r entry))) ∧
      isSelf r p entry = false := by
  obtain ⟨front, names, n, hnames, hlength, hpath⟩ := h.exists_names hrooted
  obtain ⟨k, hk⟩ := exists_eq_append_slashes (readName r entry)
  have hclean : ∀ name ∈ names ++ [dropSlashes (readName r entry)], IsSegment name :=
    List.forall_mem_append.mpr ⟨hnames, List.forall_mem_singleton.mpr hname⟩
  have hjoin : joinSegments (names ++ readName r entry :: List.replicate n []) = joinSegments
      (names ++ [dropSlashes (readName r entry)] ++ List.replicate (k + n) []) := by
    rw [← List.append_cons, joinSegments_concat_blanks, joinSegments_concat_blanks]
    nth_rewrite 1 [hk]
    rw [List.append_assoc, List.replicate_append_replicate]
  have hsegments : (r.pathOfHref entry.href).segments = (ResourcePath.ofChars front).segments ++
      (names ++ [dropSlashes (readName r entry)]) := by
    rw [hpath, hjoin]
    exact ResourcePath.segments_ofChars_joinSegments front hclean fun b hb =>
      List.eq_of_mem_replicate hb
  have hother : r.pathOfHref entry.href ≠ p := by
    intro heq
    have hlen := congrArg (fun q => q.segments.length) heq
    simp only [hsegments, List.length_append, List.length_singleton] at hlen
    omega
  have hroot : ¬ (r.pathOfHref entry.href).isRoot = true := by
    rw [ResourcePath.isRoot_iff, hsegments]
    simp
  have hlast : (r.pathOfHref entry.href).name = dropSlashes (readName r entry) := by
    rw [ResourcePath.name, hsegments, ← List.append_assoc, List.getLast?_concat]
    rfl
  constructor
  · rw [memberName?, if_neg (not_or.mpr ⟨hother, hroot⟩), hlast, shownAs]
  · exact decide_eq_false hother

/-! ## Listings by the last segments -/

theorem filterMap_eq_map_of_some {α β : Type} {f : α → Option β} {g : α → β} {l : List α}
    (h : ∀ a ∈ l, f a = some (g a)) : l.filterMap f = l.map g :=
  (List.filterMap_congr h).trans (congrFun (List.filterMap_eq_map (f := g)) l)

/-- If nothing is read in a way of its own, the members are listed by their last segments. -/
theorem membersAmong_of_isSegment (hrooted : r.IsRooted) {entries : List Resource}
    (hentries : entries.Perm (own :: members)) (hown : IsOwnEntry r p own)
    (hself : r.pathOfHref own.href = p) (hmembers : ∀ e ∈ members, IsMemberEntry r p e)
    (hnames : ∀ e ∈ members,
      readName r e = decode e.name.toList ∧ IsSegment (decode e.name.toList)) :
    ∃ names, membersAmong r p entries = some names ∧ names.Perm (members.map decodedName) := by
  have hlisted : ∀ e ∈ members, memberName? r p e = some (decodedName e) ∧
      isSelf r p e = false := by
    intro e he
    obtain ⟨hread, hsegment⟩ := hnames e he
    have hdrop : dropSlashes (readName r e) = decode e.name.toList := by
      rw [hread, dropSlashes_eq_self]
      exact fun hlast => hsegment.2.2.2.1 (List.mem_of_getLast? hlast)
    rw [← hdrop] at hsegment
    have heq := (hmembers e he).memberName?_eq hrooted hsegment
    rw [hdrop] at heq
    exact heq
  have hfile : ∀ e ∈ entries, isSelf r p e = true → e.isCollection = true := by
    intro e he hself
    rcases List.mem_cons.mp (hentries.mem_iff.mp he) with rfl | he
    · exact hown.1
    · rw [(hlisted e he).2] at hself
      cases hself
  have hskip : memberName? r p own = none := if_pos (Or.inl hself)
  have hperm := hentries.filterMap (memberName? r p)
  have hmap := filterMap_eq_map_of_some fun e he => (hlisted e he).1
  rw [List.filterMap_cons_none hskip, hmap] at hperm
  exact ⟨_, membersAmong_eq_some.mpr ⟨hfile, rfl⟩, (List.mergeSort_perm _ _).trans hperm⟩

/-- What spells the name of a step, slashes at its end apart, is the name of one. -/
theorem isSegment_of_decode {name : List Char} (hne : name ≠ []) (hslash : '/' ∉ name)
    (h : IsSegment (dropSlashes (decode name))) : IsSegment name := by
  have hback : '\\' ∉ name := by
    intro hmem
    obtain ⟨n, hn⟩ := exists_eq_append_slashes (decode name)
    have hdecode := mem_decode isBarrier_backslash hmem
    rw [hn] at hdecode
    rcases List.mem_append.mp hdecode with hmem | hmem
    · exact h.2.2.2.2 hmem
    · cases List.eq_of_mem_replicate hmem
  have hdot : ¬ IsSegment (dropSlashes (decode ['.'])) := by decide +kernel
  have hdots : ¬ IsSegment (dropSlashes (decode ['.', '.'])) := by decide +kernel
  exact ⟨hne, fun heq => hdot (heq ▸ h), fun heq => hdots (heq ▸ h), hslash, hback⟩

/-- The names that are listed are not longer than those of the segments, or not shorter. -/
theorem readName_eq_of_perm (hmembers : ∀ e ∈ members, IsMemberEntry r p e)
    (hperm : (members.map fun e => shownAs e (dropSlashes (readName r e))).Perm
      (members.map decodedName)) :
    ∀ e ∈ members, readName r e = decode e.name.toList ∧
      dropSlashes (readName r e) = readName r e := by
  intro e he
  by_cases hreads : ∃ base, Reads r.basePath base
  · have hlength : ∀ a name, (shownAs a name).toList.length = name.length + a.isCollection.toNat :=
      fun a name => by rw [toList_shownAs, List.length_append, List.length_replicate]
    have hread : ∀ a, readName r a = decode a.name.toList := fun a => if_pos hreads
    have hsame := map_eq_of_perm_of_le (fun s => s.toList.length) hperm (fun a _ => by
      simp only [decodedName, hlength, hread]
      exact Nat.add_le_add_right (length_dropSlashes_le _) _) e he
    simp only [decodedName, hlength, hread, Nat.add_right_cancel_iff] at hsame
    rw [hread]
    exact ⟨rfl, (List.rdropWhile_prefix _ _).eq_of_length hsame⟩
  · have hlength : ∀ a name, (Utf8.encodeString (shownAs a name)).length =
        (Utf8.encode name).length +
          (Utf8.encode (List.replicate a.isCollection.toNat '/')).length := fun a name => by
      rw [Utf8.encodeString, toList_shownAs, Utf8.encode_append, List.length_append]
    have hread : ∀ a, readName r a = a.name.toList := fun a => if_neg hreads
    have hdrop : ∀ a ∈ members, dropSlashes a.name.toList = a.name.toList := by
      intro a ha
      obtain ⟨-, hslash, -⟩ := (hmembers a ha).spelled
      exact dropSlashes_eq_self.mpr fun hlast => hslash (List.mem_of_getLast? hlast)
    have hsame := map_eq_of_perm_of_le (fun s => (Utf8.encodeString s).length) hperm.symm
      (fun a ha => by
        simp only [decodedName, hlength, hread, hdrop a ha]
        exact Nat.add_le_add_right (length_decode _).1 _) e he
    simp only [decodedName, hlength, hread, hdrop e he, Nat.add_right_cancel_iff] at hsame
    rw [hread, (length_decode _).2 hsame]
    exact ⟨rfl, hdrop e he⟩

/-- If the members are listed by their last segments, nothing is read in a way of its own. -/
theorem isSegment_of_membersAmong (hrooted : r.IsRooted) {entries : List Resource}
    (hentries : entries.Perm (own :: members)) (hown : IsOwnEntry r p own)
    (hmembers : ∀ e ∈ members, IsMemberEntry r p e) {names : List String}
    (hlisted : membersAmong r p entries = some names)
    (hperm : names.Perm (members.map decodedName)) :
    r.pathOfHref own.href = p ∧ ∀ e ∈ members,
      readName r e = decode e.name.toList ∧ IsSegment (decode e.name.toList) := by
  obtain ⟨-, rfl⟩ := membersAmong_eq_some.mp hlisted
  have hfound := (List.mergeSort_perm (entries.filterMap (memberName? r p)) _).symm.trans hperm
  have hclean : ∀ e ∈ members, IsSegment (dropSlashes (decode e.name.toList)) := by
    intro e he
    obtain ⟨entry, -, hname⟩ := List.mem_filterMap.mp
      (hfound.mem_iff.mpr (List.mem_map_of_mem (f := decodedName) he))
    obtain ⟨m, -, hm⟩ := shows_of_memberName? hname
    exact isSegment_of_shown hm
  have hread : ∀ e ∈ members, IsSegment (dropSlashes (readName r e)) := by
    intro e he
    unfold readName
    split
    · exact hclean e he
    · obtain ⟨hne, hslash, -⟩ := (hmembers e he).spelled
      have hself : dropSlashes e.name.toList = e.name.toList :=
        dropSlashes_eq_self.mpr fun hlast => hslash (List.mem_of_getLast? hlast)
      rw [hself]
      exact isSegment_of_decode hne hslash (hclean e he)
  have hall := (hentries.filterMap (memberName? r p)).symm.trans hfound
  have hmap : members.filterMap (memberName? r p) =
      members.map fun e => shownAs e (dropSlashes (readName r e)) :=
    filterMap_eq_map_of_some fun e he => ((hmembers e he).memberName?_eq hrooted (hread e he)).1
  have hskip : memberName? r p own = none := by
    cases hname : memberName? r p own with
    | none => rfl
    | some name =>
      rw [List.filterMap_cons_some hname, hmap] at hall
      simpa using hall.length_eq
  rw [List.filterMap_cons_none hskip, hmap] at hall
  refine ⟨hown.pathOfHref_eq hrooted hskip, fun e he => ?_⟩
  obtain ⟨hsame, hdrop⟩ := readName_eq_of_perm hmembers hall e he
  have hsegment := hread e he
  rw [hdrop, hsame] at hsegment
  exact ⟨hsame, hsegment⟩

/-- The collection is known, and its members by their last segments, if these are those of steps
and either the path on the server spells a text, or nothing is escaped at all. -/
theorem read_iff (hrooted : r.IsRooted) (hown : IsOwnEntry r p own) :
    (r.pathOfHref own.href = p ∧ ∀ e ∈ members,
      readName r e = decode e.name.toList ∧ IsSegment (decode e.name.toList)) ↔
    (∀ e ∈ members, IsSegment (decode e.name.toList)) ∧
      ((∃ base, Reads r.basePath base) ∨ p.segments.map encode = p.segments ∧
        ∀ e ∈ members, decode e.name.toList = e.name.toList) := by
  have hback : r.pathOfHref own.href = p ↔ r.namesBack p = p.segments := by
    rw [← segments_pathOfHref_own hrooted hown]
    exact ⟨congrArg _, ResourcePath.ext_segments⟩
  rw [hback]
  by_cases hreads : ∃ base, Reads r.basePath base
  · simp [Repository.namesBack, readName, hreads]
  · simp only [Repository.namesBack, readName, if_neg hreads]
    rw [or_iff_right hreads]
    constructor
    · rintro ⟨hnames, hall⟩
      exact ⟨fun e he => (hall e he).2, hnames, fun e he => (hall e he).1.symm⟩
    · rintro ⟨hsegments, hnames, hall⟩
      exact ⟨hnames, fun e he => ⟨(hall e he).symm, hsegments e he⟩⟩

/-- What a client lists of a report on a collection is the last segment of each member's reference
with its escapes read, in the order of the bytes, if and only if each segment is that of a step when
it is read by itself, and either the path of the repository on the server spells a text, or no name
is changed by writing or reading escapes. -/
theorem list_decoded_iff {s : Settings} (hopen : openSession s = .ok r) {report : MultiStatus}
    (hentries : report.entries.Perm (own :: members)) (hown : IsOwnEntry r p own)
    (hmembers : ∀ e ∈ members, IsMemberEntry r p e) {σ : Type}
    {server : σ → Request → Answer × σ} {t : σ} {response : Response}
    (hserve : (server t (probeRequest (r.collectionUrl p) .one)).1 = .ok response)
    (hcode : response.status.code = 207)
    (hbody : MultiStatus.parse response.body = .ok (some report)) :
    (∃ names, ((list r p).run server t).1 = .ok names ∧ names.Perm (members.map decodedName) ∧
      names.Pairwise fun a b => Utf8.encodeString a ≤ Utf8.encodeString b) ↔
    (∀ e ∈ members, IsSegment (decode e.name.toList)) ∧
      ((∃ base, Reads r.basePath base) ∨ p.segments.map encode = p.segments ∧
        ∀ e ∈ members, decode e.name.toList = e.name.toList) := by
  have hrooted := Repository.isRooted_of_openSession hopen
  have hrun : ∀ {names}, ((list r p).run server t).1 = .ok names ↔
      membersAmong r p report.entries = some names :=
    run_list_eq_ok hserve hcode hbody
  rw [← read_iff hrooted hown]
  constructor
  · rintro ⟨names, hnames, hperm, -⟩
    exact isSegment_of_membersAmong hrooted hentries hown hmembers (hrun.mp hnames) hperm
  · rintro ⟨hself, hnames⟩
    obtain ⟨names, hlisted, hperm⟩ :=
      membersAmong_of_isSegment hrooted hentries hown hself hmembers hnames
    obtain ⟨hsorted, -⟩ := exists_kept_of_membersAmong hlisted
    exact ⟨names, hrun.mpr hlisted, hperm, hsorted.imp encodeString_le_encodeString⟩

/-- A place whose path on the server spells a letter with an accent. -/
def accentedShelf : Repository := ⟨"http://h/r%C3%A9".toList, "/r%C3%A9".toList⟩

/-- Members of a collection with a blank in its name. The name of one of them spells no text. -/
def blankMembers : List Resource :=
  [{ href := "http://x/r%C3%A9/d%20e/a%2520b//", isCollection := true },
    { href := "/r%C3%A9/d%20e/%FF%20" }]

/-- A report on that collection. -/
def blankReport : MultiStatus :=
  .ofList ({ href := "/r%C3%A9/d%20e/", isCollection := true } :: blankMembers)

theorem list_decoded_iff_blank : openSession accentedSettings = .ok accentedShelf ∧ ∃ names,
    ((list accentedShelf (.ofString "d e")).run
      (constantServer (.ok (answered blankReport))) ()).1 = .ok names ∧
    names.Perm ["a%20b/", "%FF%20"] ∧
    names.Pairwise fun a b => Utf8.encodeString a ≤ Utf8.encodeString b := by
  have hopen : openSession accentedSettings = .ok accentedShelf := by decide +kernel
  have hentries : blankReport.entries.Perm
      ({ href := "/r%C3%A9/d%20e/", isCollection := true } :: blankMembers) := by
    decide +kernel
  have hown : IsOwnEntry accentedShelf (.ofString "d e")
      { href := "/r%C3%A9/d%20e/", isCollection := true } :=
    ⟨rfl, [], 1, Or.inl rfl, by decide +kernel⟩
  have hmembers : ∀ e ∈ blankMembers,
      IsMemberEntry accentedShelf (.ofString "d e") e := by
    refine List.forall_mem_cons.mpr ⟨?_, List.forall_mem_singleton.mpr ?_⟩
    · exact ⟨"http://x".toList, "a%2520b".toList, 2, Or.inr ⟨['x'], by decide, Or.inl rfl⟩,
        by decide, by decide, by decide +kernel⟩
    · exact ⟨[], "%FF%20".toList, 0, Or.inl rfl, by decide, by decide, by decide +kernel⟩
  have hserve : (constantServer (.ok (answered blankReport)) ()
      (probeRequest (accentedShelf.collectionUrl (.ofString "d e")) .one)).1 =
        .ok (answered blankReport) := rfl
  have hbase : ∃ base, Reads accentedShelf.basePath base := by decide +kernel
  have hnames : blankMembers.map decodedName = ["a%20b/", "%FF%20"] := by decide +kernel
  obtain ⟨names, hrun, hperm, hsorted⟩ := (list_decoded_iff hopen hentries hown hmembers hserve rfl
    (parse_answered blankReport (by decide +kernel))).mpr ⟨by decide +kernel, Or.inl hbase⟩
  exact ⟨hopen, names, hrun, hnames ▸ hperm, hsorted⟩

/-- A report on a collection with one member, which is a file. -/
def loneReport (own member : String) : MultiStatus :=
  .ofList [{ href := own, isCollection := true }, { href := member }]

/-- A place whose path on the server spells no text. -/
def unreadShelf : Repository := ⟨"http://h/%FF".toList, "/%FF".toList⟩

/-- What an escape spells is taken for the way to another resource, and below a path that spells no
text a name is listed with its escapes. -/
theorem list_not_decoded :
    (openSession { repositoryUrl := "http://h/r" } = .ok shelf ∧
      IsOwnEntry shelf (.ofString "d") { href := "/r/d/", isCollection := true } ∧
      IsMemberEntry shelf (.ofString "d") { href := "/r/d/a%2Fb" } ∧
      decodedName { href := "/r/d/a%2Fb" } = "a/b" ∧
      ((list shelf (.ofString "d")).run
        (constantServer (.ok (answered (loneReport "/r/d/" "/r/d/a%2Fb")))) ()).1 = .ok ["b"]) ∧
    openSession { repositoryUrl := "http://h/%FF" } = .ok unreadShelf ∧
    IsOwnEntry unreadShelf (.ofString "d") { href := "/%FF/d/", isCollection := true } ∧
    IsMemberEntry unreadShelf (.ofString "d") { href := "/%FF/d/a%20b" } ∧
    decodedName { href := "/%FF/d/a%20b" } = "a b" ∧
    ((list unreadShelf (.ofString "d")).run
      (constantServer (.ok (answered (loneReport "/%FF/d/" "/%FF/d/a%20b")))) ()).1 =
        .ok ["a%20b"] := by
  have hlisted : ∀ (r : Repository) (es : List Resource) (name : String),
      (es.any fun e => isSelf r (.ofString "d") e && !e.isCollection) = false →
      es.filterMap (memberName? r (.ofString "d")) = [name] →
      membersAmong r (.ofString "d") es = some [name] := by
    intro r es name hany hnames
    rw [membersAmong, hany, if_neg Bool.false_ne_true, hnames, List.mergeSort_singleton]
  refine ⟨⟨by decide +kernel, ⟨rfl, [], 1, Or.inl rfl, by decide +kernel⟩,
    ⟨[], "a%2Fb".toList, 0, Or.inl rfl, by decide, by decide, by decide +kernel⟩,
    by decide +kernel, (run_list_eq_ok rfl rfl (parse_answered _ (by decide +kernel))).mpr
      (hlisted _ _ "b" (by decide +kernel) (by decide +kernel))⟩, by decide +kernel,
    ⟨rfl, [], 1, Or.inl rfl, by decide +kernel⟩,
    ⟨[], "a%20b".toList, 0, Or.inl rfl, by decide, by decide, by decide +kernel⟩,
    by decide +kernel, (run_list_eq_ok rfl rfl (parse_answered _ (by decide +kernel))).mpr
      (hlisted _ _ "a%20b" (by decide +kernel) (by decide +kernel))⟩

end Transfer

end DavCourier
