import DavCourier.Proofs.Repository.Inverse

/-!
# Two ways to recognise a resource

A listing takes an entry for that of a resource if its reference is read as the path of the
resource, and a probe does so if its reference has the comparable form of the one that the client
writes. The first way forgives empty and dot segments, backslashes and places outside the
repository, the second does not. So the two agree on a reference, whatever resource is asked
for, if and only if the reference is written out, as the path of the repository with names after it
(`IsWrittenOut`) : `recognised_iff`.

A repository whose own path on the server spells no text reads back names with their escapes
(`namesBack`). Apart from that, and from slashes at the end of the path that it spells, what the
probe recognises is recognised by the listing.
-/

namespace DavCourier

open Percent
open Url (joinSegments joinSegments_append joinSegments_concat escaped_eq)

/-! ## Slashes at the end of a path -/

theorem exists_eq_append_slashes (cs : List Char) :
    ∃ n, cs = dropSlashes cs ++ List.replicate n '/' := by
  induction cs using List.reverseRecOn with
  | nil => exact ⟨0, rfl⟩
  | append_singleton cs c ih =>
    by_cases hc : c = '/'
    · obtain ⟨n, hn⟩ := ih
      have hdrop : dropSlashes (cs ++ [c]) = dropSlashes cs := by
        rw [hc]
        exact dropSlashes_append_replicate cs 1
      refine ⟨n + 1, ?_⟩
      rw [hdrop, List.replicate_succ', ← List.append_assoc, ← hn, hc]
    · refine ⟨0, ?_⟩
      have hself : dropSlashes (cs ++ [c]) = cs ++ [c] :=
        dropSlashes_eq_self.mpr (by simpa using hc)
      rw [hself, List.replicate_zero, List.append_nil]

theorem length_dropSlashes_lt {cs : List Char} (h : cs.getLast? = some '/') :
    (dropSlashes cs).length < cs.length := by
  refine lt_of_le_of_ne (length_dropSlashes_le cs) fun hlength => ?_
  exact dropSlashes_eq_self.mp ((List.rdropWhile_prefix _ _).eq_of_length hlength) h

theorem dropSlashes_append_blanks (cs : List Char) (names : List (List Char))
    {blanks : List (List Char)} (h : ∀ b ∈ blanks, b = []) :
    dropSlashes (cs ++ joinSegments (names ++ blanks)) =
      dropSlashes (cs ++ joinSegments names) := by
  rw [joinSegments_append, ← List.append_assoc, List.eq_replicate_of_mem h,
    Repository.joinSegments_replicate, dropSlashes_append_replicate]

theorem dropSlashes_append_names (cs : List Char) {names : List (List Char)} (hne : names ≠ [])
    (h : ∀ name ∈ names, IsSegment name) :
    dropSlashes (cs ++ joinSegments names) = cs ++ joinSegments names := by
  obtain ⟨init, last, rfl⟩ := (List.eq_nil_or_concat' names).resolve_left hne
  obtain ⟨hempty, -, -, hslash, -⟩ := h last (by simp)
  rw [dropSlashes_eq_self, joinSegments_concat, ← List.append_assoc, List.append_cons,
    List.getLast?_append_of_ne_nil _ hempty]
  exact fun hlast => hslash (List.mem_of_getLast? hlast)

/-- A path that is one with names at its end, slashes apart, has them at its end itself. -/
theorem eq_append_names {ds cs : List Char} {names : List (List Char)} (hne : names ≠ [])
    (h : ∀ name ∈ names, IsSegment name)
    (heq : dropSlashes ds = dropSlashes (cs ++ joinSegments names)) :
    ∃ blanks, (∀ b ∈ blanks, b = []) ∧ ds = cs ++ joinSegments (names ++ blanks) := by
  obtain ⟨n, hn⟩ := exists_eq_append_slashes ds
  refine ⟨List.replicate n [], fun b hb => List.eq_of_mem_replicate hb, ?_⟩
  rw [hn, heq, dropSlashes_append_names cs hne h, joinSegments_append,
    Repository.joinSegments_replicate, List.append_assoc]

theorem names_eq_of_dropSlashes_eq {cs : List Char} {names names' : List (List Char)}
    (h : ∀ name ∈ names, IsSegment name) (h' : ∀ name ∈ names', IsSegment name)
    (heq : dropSlashes (cs ++ joinSegments names) = dropSlashes (cs ++ joinSegments names')) :
    names = names' := by
  have hlength : ∀ ns : List (List Char), ns ≠ [] →
      (dropSlashes (cs ++ joinSegments [])).length < (cs ++ joinSegments ns).length := by
    intro ns hne
    obtain ⟨name, ns, rfl⟩ := List.exists_cons_of_ne_nil hne
    have hle := length_dropSlashes_le (cs ++ joinSegments [])
    simp only [joinSegments, List.flatMap_nil, List.append_nil, List.flatMap_cons,
      List.length_append, List.length_cons] at hle ⊢
    omega
  by_cases hne : names = []
  · by_cases hne' : names' = []
    · rw [hne, hne']
    · rw [dropSlashes_append_names cs hne' h', hne] at heq
      exact absurd (congrArg List.length heq) (hlength names' hne').ne
  · by_cases hne' : names' = []
    · rw [dropSlashes_append_names cs hne h, hne'] at heq
      exact absurd (congrArg List.length heq) (hlength names hne).ne'
    · rw [dropSlashes_append_names cs hne h, dropSlashes_append_names cs hne' h'] at heq
      have hsegments := ResourcePath.segments_ofChars_names [] h'
      rw [← List.append_cancel_left heq, ResourcePath.segments_ofChars_names [] h] at hsegments
      exact List.append_cancel_left hsegments

namespace ResourcePath

theorem ofChars_append_slashes (cs : List Char) (n : ℕ) :
    ofChars (cs ++ List.replicate n '/') = ofChars cs := by
  have hblanks : ∀ b ∈ List.replicate n ([] : List Char), b = [] := fun b hb =>
    List.eq_of_mem_replicate hb
  have hsegments := segments_ofChars_joinSegments cs (List.forall_mem_nil IsSegment) hblanks
  rw [List.nil_append, Repository.joinSegments_replicate, List.append_nil] at hsegments
  exact ext_segments hsegments

theorem ofChars_dropSlashes (cs : List Char) : ofChars (dropSlashes cs) = ofChars cs := by
  obtain ⟨n, hn⟩ := exists_eq_append_slashes cs
  have happend := ofChars_append_slashes (dropSlashes cs) n
  rw [← hn] at happend
  exact happend.symm

theorem exists_eq_ofString (p : ResourcePath) : ∃ name, p = ofString name := by
  have hchars := p.ofChars_joinSegments (List.forall_mem_nil (· = []))
  refine ⟨String.ofList (joinSegments (p.segments ++ [])), ?_⟩
  rw [ofString, String.toList_ofList, hchars]

end ResourcePath

namespace Repository

variable {r : Repository} {p : ResourcePath} {href : String}

/-- The names of a path that are read from the reference that is written for it. -/
def namesBack (r : Repository) (p : ResourcePath) : List (List Char) :=
  if ∃ base, Reads r.basePath base then p.segments else p.segments.map encode

theorem isSegment_of_mem_namesBack (r : Repository) (p : ResourcePath) :
    ∀ name ∈ r.namesBack p, IsSegment name := by
  unfold namesBack
  split
  · exact p.clean
  · exact p.isSegment_of_mem_map_encode

theorem namesBack_injective {q : ResourcePath} (h : r.namesBack p = r.namesBack q) : p = q := by
  unfold namesBack at h
  split at h
  · exact ResourcePath.ext_segments h
  · exact ResourcePath.ext_segments (List.map_injective_iff.mpr (fun _ _ => encode_injective) h)

/-- The comparable form of the reference that is written for a path. -/
theorem comparable_href_eq (hrooted : r.IsRooted) (p : ResourcePath) :
    Href.comparable (r.href p).toList =
      dropSlashes (decode r.basePath ++ joinSegments (r.namesBack p)) := by
  obtain ⟨blanks, hblanks, hne, hchars⟩ := r.hrefChars_append p 0
  have hhref : (r.href p).toList =
      [] ++ (r.basePath ++ joinSegments ((p.segments ++ blanks).map encode)) := by
    rw [← hchars, List.replicate_zero, List.append_nil, href, String.toList_ofList]
    rfl
  have hpath := path_of_names hrooted (Or.inl rfl) (mt List.map_eq_nil_iff.mp hne) hhref
  rw [Href.comparable, hpath, namesBack]
  split
  · next hreads =>
    obtain ⟨base, hbase⟩ := hreads
    rw [(reads_joinSegments hbase _).decode_eq, hbase.decode_eq, dropSlashes_append_blanks]
    exact hblanks
  · next hreads =>
    have hempty : ∀ b ∈ blanks.map encode, b = [] := by
      intro b hb
      obtain ⟨c, hc, rfl⟩ := List.mem_map.mp hb
      rw [hblanks c hc]
      rfl
    rw [decode_joinSegments_of_not_reads hreads, decode_eq_self hreads, List.map_append,
      dropSlashes_append_blanks _ _ hempty]

/-! ## What a comparable form is read as -/

theorem below_eq_self {base ds : List Char} (h : ¬ base <+: ds) : below base ds = ds := by
  rw [below, dropStart?, if_neg (mt List.isPrefixOf_iff_prefix.mp h)]

theorem below_append_slashes (base : List Char) (n : ℕ) :
    below base (base ++ List.replicate n '/') = List.replicate n '/' := by
  rw [← joinSegments_replicate, below_append]

/-- What has the comparable form of the root is read as the root, unless it stands before slashes
at the end of the path on the server. -/
theorem isRoot_below_iff {base ds : List Char} (h : dropSlashes ds = dropSlashes base) :
    (ResourcePath.ofChars (below base ds)).isRoot = true ↔
      base <+: ds ∨ (ResourcePath.ofChars base).isRoot = true := by
  by_cases hprefix : base <+: ds
  · obtain ⟨rest, rfl⟩ := hprefix
    obtain ⟨n, hn⟩ := exists_eq_append_slashes (base ++ rest)
    obtain ⟨m, hm⟩ := exists_eq_append_slashes base
    have hslashes : List.replicate m '/' ++ rest = List.replicate n '/' := by
      rw [h] at hn
      nth_rewrite 1 [hm] at hn
      rw [List.append_assoc] at hn
      exact List.append_cancel_left hn
    have hrest : rest = List.replicate rest.length '/' := List.eq_replicate_of_mem fun c hc =>
      List.eq_of_mem_replicate (hslashes ▸ List.mem_append_right _ hc)
    have hroot := ResourcePath.ofChars_append_slashes [] rest.length
    rw [List.nil_append] at hroot
    rw [hrest, below_append_slashes, hroot]
    exact iff_of_true rfl (Or.inl (List.prefix_append _ _))
  · rw [below_eq_self hprefix, or_iff_right hprefix, ← ResourcePath.ofChars_dropSlashes ds, h,
      ResourcePath.ofChars_dropSlashes]

/-- What spells names after the path on the server is read as these names, if there are any. -/
theorem segments_pathOfHref_iff {names : List (List Char)} (h : ∀ name ∈ names, IsSegment name)
    (heq : Href.comparable href.toList = dropSlashes (decode r.basePath ++ joinSegments names)) :
    (r.pathOfHref href).segments = names ↔
      (names = [] → decode r.basePath <+: decode (Href.path href.toList) ∨
        (ResourcePath.ofChars (decode r.basePath)).isRoot = true) := by
  by_cases hne : names = []
  · rw [hne, joinSegments, List.flatMap_nil, List.append_nil] at heq
    rw [hne, ← ResourcePath.isRoot_iff, pathOfHref, isRoot_below_iff heq]
    exact ⟨fun hroot _ => hroot, fun hroot => hroot rfl⟩
  · refine iff_of_true ?_ fun hnil => absurd hnil hne
    obtain ⟨blanks, hblanks, hpath⟩ := eq_append_names hne h heq
    rw [pathOfHref, hpath, below_append]
    exact ResourcePath.segments_ofChars_joinSegments [] h hblanks

/-! ## References that are written out -/

/-- The reference is written out below the repository : slashes at its end apart, it spells the
path on the server and after it the names of steps. Below a path that spells no text, these need no
escapes. Without names, the reference does not stand before slashes at the end of the path, unless
that only leads to the root. -/
def IsWrittenOut (r : Repository) (href : String) : Prop :=
  ∃ names, (∀ name ∈ names, IsSegment name) ∧
    ((∃ base, Reads r.basePath base) ∨ ∀ name ∈ names, encode name = name) ∧
    Href.comparable href.toList = dropSlashes (decode r.basePath ++ joinSegments names) ∧
    (names = [] → decode r.basePath <+: decode (Href.path href.toList) ∨
      (ResourcePath.ofChars (decode r.basePath)).isRoot = true)

theorem isWrittenOut_iff (hrooted : r.IsRooted) :
    r.IsWrittenOut href ↔
      Href.comparable href.toList = Href.comparable (r.href (r.pathOfHref href)).toList := by
  rw [comparable_href_eq hrooted]
  constructor
  · rintro ⟨names, hclean, hplain, heq, hend⟩
    have hsegments := (segments_pathOfHref_iff hclean heq).mpr hend
    have hback : r.namesBack (r.pathOfHref href) = names := by
      rw [namesBack, hsegments]
      split
      · rfl
      · next hreads =>
        exact (List.map_congr_left (hplain.resolve_left hreads)).trans (List.map_id _)
    rw [hback, heq]
  · intro heq
    have hclean := isSegment_of_mem_namesBack r (r.pathOfHref href)
    have hsegments : (r.pathOfHref href).segments = r.namesBack (r.pathOfHref href) := by
      by_cases hne : r.namesBack (r.pathOfHref href) = []
      · have hroot : r.namesBack .root = [] := by
          unfold namesBack
          split <;> rfl
        have hpath : r.pathOfHref href = .root := namesBack_injective (hne.trans hroot.symm)
        rw [hne, hpath]
        rfl
      · exact (segments_pathOfHref_iff hclean heq).mpr fun hnil => absurd hnil hne
    refine ⟨_, hclean, ?_, heq, (segments_pathOfHref_iff hclean heq).mp hsegments⟩
    by_cases hreads : ∃ base, Reads r.basePath base
    · exact Or.inl hreads
    · rw [namesBack, if_neg hreads] at hsegments ⊢
      rw [← hsegments]
      exact Or.inr (List.map_inj_left.mp (hsegments.symm.trans (List.map_id _).symm))

/-- The two ways agree on a reference that is written out, and on no other. -/
theorem recognised_iff_isWrittenOut (hrooted : r.IsRooted) :
    (∀ p, r.pathOfHref href = p ↔
      Href.comparable href.toList = Href.comparable (r.href p).toList) ↔ r.IsWrittenOut href := by
  rw [isWrittenOut_iff hrooted]
  refine ⟨fun hall => (hall _).mp rfl, fun hself p => ⟨fun heq => heq ▸ hself, fun heq => ?_⟩⟩
  rw [hself, comparable_href_eq hrooted, comparable_href_eq hrooted] at heq
  exact namesBack_injective (names_eq_of_dropSlashes_eq (isSegment_of_mem_namesBack r _)
    (isSegment_of_mem_namesBack r _) heq)

/-- No slashes at the end of a path on the server make it look like another place. -/
def EndsInName (base : List Char) : Prop :=
  base.getLast? ≠ some '/' ∨ (ResourcePath.ofChars base).isRoot = true

instance (base : List Char) : Decidable (EndsInName base) := by
  unfold EndsInName; infer_instance

theorem EndsInName.isPrefix_or_isRoot {base ds : List Char} (h : EndsInName base)
    (heq : dropSlashes ds = dropSlashes base) :
    base <+: ds ∨ (ResourcePath.ofChars base).isRoot = true := by
  refine h.imp (fun hlast => ?_) id
  rw [dropSlashes_eq_self.mpr hlast] at heq
  rw [← heq]
  exact List.rdropWhile_prefix _ _

/-- Below a path on the server that spells a text, and does not end with slashes, what has the
comparable form of the reference of a resource is read as its path. -/
theorem pathOfHref_of_comparable (hrooted : r.IsRooted) {base : List Char}
    (hbase : Reads r.basePath base) (hend : EndsInName base)
    (h : Href.comparable href.toList = Href.comparable (r.href p).toList) :
    r.pathOfHref href = p := by
  rw [comparable_href_eq hrooted, namesBack, if_pos ⟨base, hbase⟩] at h
  refine ResourcePath.ext_segments ((segments_pathOfHref_iff p.clean h).mpr fun hnil => ?_)
  rw [hnil, joinSegments, List.flatMap_nil, List.append_nil, hbase.decode_eq] at h
  rw [hbase.decode_eq]
  exact hend.isPrefix_or_isRoot h

theorem exists_cons_of_dropSlashes (hrooted : r.IsRooted) {base : List Char}
    (hbase : Reads r.basePath base) (hne : dropSlashes base ≠ []) :
    ∃ rest, dropSlashes base = '/' :: rest := by
  obtain ⟨c, rest, hshort⟩ := List.exists_cons_of_ne_nil hne
  obtain ⟨tail, htail⟩ := exists_cons_of_reads hrooted hbase []
  have hhead : base.head? = some c := head?_dropSlashes c (by rw [hshort]; rfl)
  have hfront : (base ++ '/' :: []).head? = some c := by
    rw [List.head?_append, hhead]
    rfl
  rw [htail] at hfront
  exact ⟨rest, by rw [hshort, Option.some.inj hfront]⟩

/-- If the path on the server spells a slash at its end, what stands before it has the comparable
form of the root, and is read as another place. -/
theorem exists_of_not_endsInName (hrooted : r.IsRooted) {base : List Char}
    (hbase : Reads r.basePath base) (hend : ¬ EndsInName base) :
    ∃ href : String, Href.comparable href.toList = Href.comparable (r.href .root).toList ∧
      r.pathOfHref href ≠ .root := by
  rw [EndsInName, not_or, not_not] at hend
  obtain ⟨hlast, hroot⟩ := hend
  have hne : dropSlashes base ≠ [] := by
    intro hnil
    rw [← ResourcePath.ofChars_dropSlashes, hnil] at hroot
    exact hroot rfl
  obtain ⟨rest, hshort⟩ := exists_cons_of_dropSlashes hrooted hbase hne
  have hdecode : decode (Href.path (encode (dropSlashes base))) = dropSlashes base := by
    rw [Href.path_eq_self, decode_encode]
    intro d hd
    rw [hshort] at hd
    cases hd
    decide
  have hself : dropSlashes (dropSlashes base) = dropSlashes base :=
    List.rdropWhile_idempotent _ _
  refine ⟨String.ofList (encode (dropSlashes base)), ?_, ?_⟩
  · rw [comparable_href_eq hrooted, namesBack, if_pos ⟨base, hbase⟩, hbase.decode_eq,
      String.toList_ofList, Href.comparable, hdecode, hself]
    exact congrArg dropSlashes (List.append_nil base).symm
  · intro heq
    have hread : (ResourcePath.ofChars (below base (dropSlashes base))).isRoot = true := by
      rw [pathOfHref, String.toList_ofList, hdecode, hbase.decode_eq] at heq
      rw [heq]
      rfl
    rcases (isRoot_below_iff hself).mp hread with hprefix | hroot'
    · exact absurd hprefix.length_le (Nat.not_le.mpr (length_dropSlashes_lt hlast))
    · exact hroot hroot'

/-- The two ways of recognising a resource agree on a reference, whatever the resource is, if and
only if the reference is written out. What has the comparable form of the reference of a resource
is read as its path, for all references and resources, if and only if the path on the server spells
a text that does not end with slashes, or only leads to the root. -/
theorem recognised_iff {s : Settings} (h : s.validate = .ok ()) :
    (∀ href, (∀ name, (ofSettings s).pathOfHref href = .ofString name ↔
      Href.comparable href.toList =
        Href.comparable ((ofSettings s).href (.ofString name)).toList) ↔
          (ofSettings s).IsWrittenOut href) ∧
    ((∀ href name, Href.comparable href.toList =
      Href.comparable ((ofSettings s).href (.ofString name)).toList →
        (ofSettings s).pathOfHref href = .ofString name) ↔
          ∃ base, Reads (ofSettings s).basePath base ∧ EndsInName base) := by
  have hrooted : (ofSettings s).IsRooted :=
    isRooted_of_openSession (Transfer.openSession_eq_ok.mpr ⟨h, rfl⟩)
  refine ⟨fun href => ?_, fun hall => ?_, fun ⟨base, hbase, hend⟩ href name hsame =>
    pathOfHref_of_comparable hrooted hbase hend hsame⟩
  · rw [← recognised_iff_isWrittenOut hrooted]
    refine ⟨fun hall p => ?_, fun hall name => hall _⟩
    obtain ⟨name, rfl⟩ := p.exists_eq_ofString
    exact hall name
  · obtain ⟨base, hbase⟩ : ∃ base, Reads (ofSettings s).basePath base := by
      by_contra hreads
      -- the blank in a name is read as its escape
      have hblank := hall _ " " rfl
      rw [pathOfHref_href_of_not_reads hrooted hreads (by decide)] at hblank
      exact absurd hblank (by decide)
    refine ⟨base, hbase, ?_⟩
    by_contra hend
    obtain ⟨href, hsame, hne⟩ := exists_of_not_endsInName hrooted hbase hend
    exact hne (hall href "" hsame)

/-- Settings with a letter in their path that is escaped. -/
def graveSettings : Settings := { repositoryUrl := "http://h/%C3%A8" }

theorem recognised_iff_grave :
    (∀ name, (ofSettings graveSettings).pathOfHref "https://x:1/%c3%a8/a%20b//" = .ofString name ↔
      Href.comparable "https://x:1/%c3%a8/a%20b//".toList =
        Href.comparable ((ofSettings graveSettings).href (.ofString name)).toList) ∧
    (Href.comparable "/è/%61".toList =
      Href.comparable ((ofSettings graveSettings).href (.ofString "./a")).toList →
        (ofSettings graveSettings).pathOfHref "/è/%61" = .ofString "./a") := by
  obtain ⟨hagree, hread⟩ := recognised_iff (s := graveSettings) (by decide +kernel)
  have hreads : ∃ base, Reads (ofSettings graveSettings).basePath base := by decide +kernel
  have hwritten : (ofSettings graveSettings).IsWrittenOut "https://x:1/%c3%a8/a%20b//" :=
    ⟨["a b".toList], by decide, Or.inl hreads, by decide +kernel,
      fun hnil => absurd hnil (List.cons_ne_nil _ _)⟩
  have hbase : Reads (ofSettings graveSettings).basePath "/è".toList := by decide +kernel
  exact ⟨(hagree _).mpr hwritten, hread.mpr ⟨_, hbase, Or.inl (by decide)⟩ _ _⟩

/-- The two ways differ on an empty or a dot segment, a backslash, and a path outside the
repository. The first does not know its own references if the path on the server spells no text,
and the second takes another place for the root if that path spells a slash at its end. -/
theorem recognised_apart :
    (∀ href ∈ ["/r//a", "/r/./a", "/r/b/../a", "/r/\\a", "/a"],
      (ofSettings { repositoryUrl := "http://h/r" }).pathOfHref href = .ofString "a" ∧
        Href.comparable href.toList ≠ Href.comparable
          ((ofSettings { repositoryUrl := "http://h/r" }).href (.ofString "a")).toList) ∧
    ((ofSettings { repositoryUrl := "http://h/%FF" }).pathOfHref "/%FF/%20" ≠ .ofString " " ∧
      Href.comparable "/%FF/%20".toList = Href.comparable
        ((ofSettings { repositoryUrl := "http://h/%FF" }).href (.ofString " ")).toList) ∧
    ((ofSettings { repositoryUrl := "http://h/r%2F" }).pathOfHref "/r" ≠ .ofString "" ∧
      Href.comparable "/r".toList = Href.comparable
        ((ofSettings { repositoryUrl := "http://h/r%2F" }).href (.ofString "")).toList) ∧
    ∀ url ∈ ["http://h/r", "http://h/%FF", "http://h/r%2F"],
      Settings.validate { repositoryUrl := url } = .ok () := by
  decide +kernel

end Repository

end DavCourier
