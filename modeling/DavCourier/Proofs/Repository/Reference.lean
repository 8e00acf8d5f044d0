import DavCourier.Proofs.Repository.Agreement
import DavCourier.Proofs.ResourcePath
import DavCourier.Proofs.Text.Blank
import DavCourier.Transfer.Session

/-!
# Reading references back

A server may spell the reference of a resource as a whole address, and with one more slash at its
end (`Repository.Refers`). However it is spelled, it is read as the path of the resource
(`pathOfHref_of_refers`). That takes a repository whose own path on the server starts with a slash,
if it is not empty (`IsRooted`), and spells a text : what comes before and after the slash between
the two is then read by itself.

The reference of the root ends with a slash, and a server may add one to any reference. Either way
it is as if the path had empty names at its end (`hrefChars_append`), which say nothing.
-/

namespace DavCourier

open Percent
open Url (joinSegments joinSegments_append escaped_eq)

theorem Transfer.openSession_eq_ok {s : Settings} {r : Repository} :
    openSession s = .ok r ↔ s.validate = .ok () ∧ r = .ofSettings s := by
  unfold openSession
  split
  · next hvalid => simp [hvalid, eq_comm]
  · next hvalid => simp [hvalid]

/-! ## Paths with empty names -/

namespace ResourcePath

theorem not_mem_of_blank {p : ResourcePath} {blanks : List (List Char)}
    (h : ∀ b ∈ blanks, b = []) : ∀ name ∈ p.segments ++ blanks, '/' ∉ name ∧ '\\' ∉ name := by
  intro name hname
  rcases List.mem_append.mp hname with hmem | hmem
  · exact (p.clean name hmem).2.2.2
  · rw [h name hmem]
    exact ⟨List.not_mem_nil, List.not_mem_nil⟩

theorem backslash_not_mem_joinSegments {names : List (List Char)}
    (h : ∀ name ∈ names, '\\' ∉ name) : '\\' ∉ joinSegments names := by
  intro hmem
  obtain ⟨name, hname, hc⟩ := List.mem_flatMap.mp hmem
  rcases List.mem_cons.mp hc with heq | hc
  · cases heq
  · exact h name hname hc

theorem foldl_step_blanks {blanks stack : List (List Char)} (h : ∀ b ∈ blanks, b = []) :
    blanks.foldl step stack = stack := by
  induction blanks with
  | nil => rfl
  | cons b blanks ih =>
    rw [List.foldl_cons, step, if_pos (Or.inl (h b List.mem_cons_self))]
    exact ih fun c hc => h c (List.mem_cons_of_mem _ hc)

theorem pieces_append_joinSegments (cs : List Char) {names : List (List Char)}
    (h : ∀ name ∈ names, '/' ∉ name ∧ '\\' ∉ name) :
    pieces (cs ++ joinSegments names) = pieces cs ++ names := by
  cases names with
  | nil => simp [joinSegments]
  | cons name names =>
    have hsplit : Text.splitAt '/' (joinSegments (name :: names)) = [] :: name :: names :=
      Text.splitAt_flatMap fun n hn => (h n hn).1
    have hcons : joinSegments (name :: names) = '/' :: (name ++ joinSegments names) := rfl
    rw [pieces, List.map_append,
      map_slash_eq_self (backslash_not_mem_joinSegments fun n hn => (h n hn).2), hcons,
      Text.splitAt_append]
    rw [hcons, Text.splitAt_sep_cons] at hsplit
    rw [(List.cons.inj hsplit).2]
    rfl

/-- Names after a written path lead down from where it leads. Empty names at the end say
nothing. -/
theorem segments_ofChars_joinSegments (cs : List Char) {names blanks : List (List Char)}
    (hnames : ∀ name ∈ names, IsSegment name) (hblanks : ∀ b ∈ blanks, b = []) :
    (ofChars (cs ++ joinSegments (names ++ blanks))).segments =
      (ofChars cs).segments ++ names := by
  rw [ofChars, ofChars, resolve, resolve]
  dsimp only
  rw [pieces_append_joinSegments cs (not_mem_of_blank (p := ⟨names, hnames⟩) hblanks),
    List.foldl_append, List.foldl_append, foldl_step_blanks hblanks, foldl_step_segments hnames,
    List.reverse_append, List.reverse_reverse]

theorem segments_ofChars_names (cs : List Char) {names : List (List Char)}
    (h : ∀ name ∈ names, IsSegment name) :
    (ofChars (cs ++ joinSegments names)).segments = (ofChars cs).segments ++ names := by
  have hsegments := segments_ofChars_joinSegments cs h (List.forall_mem_nil (· = []))
  rwa [List.append_nil] at hsegments

theorem ofChars_joinSegments (p : ResourcePath) {blanks : List (List Char)}
    (h : ∀ b ∈ blanks, b = []) : ofChars (joinSegments (p.segments ++ blanks)) = p :=
  ext_segments (segments_ofChars_joinSegments [] p.clean h)

theorem isSegment_encode {name : List Char} (h : IsSegment name) : IsSegment (encode name) := by
  have hdot : encode ['.'] = ['.'] := by decide
  have hdots : encode ['.', '.'] = ['.', '.'] := by decide
  have hback : '\\' ∉ encode name := by
    intro hmem
    obtain ⟨-, hmem | hmem⟩ := mem_encode hmem
    · cases hmem
    · exact absurd hmem (by decide)
  refine ⟨encode_ne_nil h.1, fun heq => h.2.1 (encode_injective ?_),
    fun heq => h.2.2.1 (encode_injective ?_), slash_not_mem_encode name, hback⟩
  · rw [heq, hdot]
  · rw [heq, hdots]

theorem isSegment_of_mem_map_encode (p : ResourcePath) :
    ∀ name ∈ p.segments.map encode, IsSegment name := by
  intro name hname
  obtain ⟨segment, hsegment, rfl⟩ := List.mem_map.mp hname
  exact isSegment_encode (p.clean segment hsegment)

end ResourcePath

/-! ## Slashes at the ends of a path -/

theorem dropSlashes_append_replicate (cs : List Char) (n : Nat) :
    dropSlashes (cs ++ List.replicate n '/') = dropSlashes cs := by
  have hslashes : ∀ c ∈ List.replicate n '/', decide (c = '/') = true := fun c hc =>
    decide_eq_true (List.eq_of_mem_replicate hc)
  rw [dropSlashes, dropSlashes, Text.dropTrailing, List.reverse_append, List.reverse_replicate,
    List.dropWhile_append_of_pos hslashes]
  rfl

/-- What is read from a slash on starts with it. -/
theorem Percent.Reads.head?_eq {cs ds : List Char} (h : Reads ('/' :: cs) ds) :
    ds.head? = some '/' := by
  have hslash : Utf8.encode ('/' :: cs) = 0x2F :: Utf8.encode cs := rfl
  rw [Reads, hslash, decodeBytes_cons (by decide)] at h
  have hfront : Utf8.encode ds = Utf8.encode ['/'] ++ decodeBytes (Utf8.encode cs) := h.symm
  obtain ⟨es, -, rfl⟩ := Utf8.exists_of_encode_append hfront
  rfl

/-! ## Spellings of a reference -/

/-- What may stand before the path in a reference : nothing, or a scheme and an authority. -/
def IsSite (site : List Char) : Prop :=
  site = [] ∨ ∃ authority, '/' ∉ authority ∧
    (site = "http://".toList ++ authority ∨ site = "https://".toList ++ authority)

theorem Href.afterAuthority_append {authority : List Char} (h : '/' ∉ authority)
    (rest : List Char) : afterAuthority (authority ++ '/' :: rest) = '/' :: rest := by
  rw [afterAuthority, (Text.cut_append_sep (fun _ => decide_eq_true_iff) h).2]

/-- What stands before the path of a reference is not part of it. -/
theorem Href.path_append {site : List Char} (h : IsSite site) (rest : List Char) :
    path (site ++ '/' :: rest) = '/' :: rest := by
  rcases h with rfl | ⟨authority, hauthority, rfl | rfl⟩
  · rfl
  · rw [path, List.append_assoc, dropStart?_append]
    exact afterAuthority_append hauthority rest
  · have hhttp : dropStart? "http://".toList
        ("https://".toList ++ (authority ++ '/' :: rest)) = none := rfl
    rw [path, List.append_assoc, hhttp, dropStart?_append]
    exact afterAuthority_append hauthority rest

/-- An address without a path has a slash for it. -/
theorem Href.path_of_site {site : List Char} (h : IsSite site) :
    path site = [] ∨ path site = ['/'] := by
  have hafter : ∀ authority : List Char, '/' ∉ authority → afterAuthority authority = ['/'] := by
    intro authority hauthority
    have hdrop : authority.dropWhile (· ≠ '/') = [] :=
      List.dropWhile_eq_nil_iff.mpr fun c hc => decide_eq_true fun heq => hauthority (heq ▸ hc)
    rw [afterAuthority, hdrop]
  rcases h with rfl | ⟨authority, hauthority, rfl | rfl⟩
  · exact Or.inl rfl
  · rw [path, dropStart?_append]
    exact Or.inr (hafter authority hauthority)
  · have hhttp : dropStart? "http://".toList ("https://".toList ++ authority) = none := rfl
    rw [path, hhttp, dropStart?_append]
    exact Or.inr (hafter authority hauthority)

/-- A reference that does not start like an address is a path. -/
theorem Href.path_eq_self {href : List Char} (h : ∀ c ∈ href.head?, c ≠ 'h') :
    path href = href := by
  have hstart : ∀ rest, dropStart? ('h' :: rest) href = none := fun rest => by
    rw [dropStart?, if_neg]
    rw [List.isPrefixOf_iff_prefix]
    rintro ⟨tail, rfl⟩
    exact h 'h' rfl rfl
  have hhttp : dropStart? "http://".toList href = none := hstart _
  have hhttps : dropStart? "https://".toList href = none := hstart _
  rw [path, hhttp, hhttps]

namespace Repository

variable {r : Repository} {p : ResourcePath} {href : String}

/-- The reference is a spelling of the one of a resource. -/
def Refers (r : Repository) (p : ResourcePath) (href : String) : Prop :=
  ∃ site ending, IsSite site ∧ (ending = [] ∨ ending = ['/']) ∧
    href.toList = site ++ (r.hrefChars p ++ ending)

/-- The path on the server starts with a slash, if it is not empty. -/
def IsRooted (r : Repository) : Prop :=
  ∀ c ∈ r.basePath.head?, c = '/'

theorem joinSegments_replicate (n : Nat) :
    joinSegments (List.replicate n []) = List.replicate n '/' := by
  rw [joinSegments, List.flatMap_replicate]
  exact List.flatten_replicate_singleton

/-- With slashes after it, a reference is that of names of which the last may be empty. -/
theorem hrefChars_append (r : Repository) (p : ResourcePath) (n : Nat) :
    ∃ blanks, (∀ b ∈ blanks, b = []) ∧ p.segments ++ blanks ≠ [] ∧
      r.hrefChars p ++ List.replicate n '/' =
        r.basePath ++ joinSegments ((p.segments ++ blanks).map encode) := by
  have hend : ∃ blanks : List (List Char), (∀ b ∈ blanks, b = []) ∧
      List.replicate n '/' = joinSegments (blanks.map encode) := by
    refine ⟨List.replicate n [], fun b hb => List.eq_of_mem_replicate hb, ?_⟩
    rw [List.map_replicate]
    exact (joinSegments_replicate n).symm
  obtain ⟨blanks, hblanks, hending⟩ := hend
  rw [hending]
  cases hp : p.isRoot with
  | true =>
    refine ⟨[] :: blanks, List.forall_mem_cons.mpr ⟨rfl, hblanks⟩,
      List.append_ne_nil_of_right_ne_nil _ (List.cons_ne_nil _ _), ?_⟩
    rw [hrefChars, if_pos hp, ResourcePath.isRoot_iff.mp hp, List.append_assoc]
    rfl
  | false =>
    have hne : p.segments ≠ [] := fun hnil => by
      rw [ResourcePath.isRoot_iff.mpr hnil] at hp
      cases hp
    refine ⟨blanks, hblanks, List.append_ne_nil_of_left_ne_nil hne _, ?_⟩
    rw [hrefChars, hp, if_neg Bool.false_ne_true, escaped_eq, List.map_append,
      joinSegments_append, List.append_assoc]

theorem Refers.exists_blanks (h : r.Refers p href) : ∃ site blanks, IsSite site ∧
    (∀ b ∈ blanks, b = []) ∧ p.segments ++ blanks ≠ [] ∧
    href.toList = site ++ (r.basePath ++ joinSegments ((p.segments ++ blanks).map encode)) := by
  obtain ⟨site, ending, hsite, hending, hhref⟩ := h
  obtain ⟨n, rfl⟩ : ∃ n, ending = List.replicate n '/' := by
    rcases hending with rfl | rfl
    · exact ⟨0, rfl⟩
    · exact ⟨1, rfl⟩
  obtain ⟨blanks, hblanks, hne, hchars⟩ := r.hrefChars_append p n
  exact ⟨site, blanks, hsite, hblanks, hne, by rw [hhref, hchars]⟩

/-! ## What a spelling says -/

theorem reads_append_joinSegments {cs ds : List Char} (h : Reads cs ds)
    {names : List (List Char)} (hnames : ∀ name ∈ names, ∃ b, Reads name b) :
    Reads (cs ++ joinSegments names) (ds ++ joinSegments (names.map decode)) := by
  induction names generalizing cs ds with
  | nil =>
    simp only [joinSegments, List.map_nil, List.flatMap_nil, List.append_nil]
    exact h
  | cons name names ih =>
    obtain ⟨⟨b, hb⟩, hrest⟩ := List.forall_mem_cons.mp hnames
    have hname := ih (h.append hb) hrest
    rw [← hb.decode_eq] at hname
    simpa [joinSegments] using hname

theorem exists_reads_of_mem_map_encode (names : List (List Char)) :
    ∀ name ∈ names.map encode, ∃ b, Reads name b := by
  intro name hname
  obtain ⟨plain, -, rfl⟩ := List.mem_map.mp hname
  exact ⟨plain, reads_encode plain⟩

theorem reads_joinSegments {cs ds : List Char} (h : Reads cs ds) (names : List (List Char)) :
    Reads (cs ++ joinSegments (names.map encode)) (ds ++ joinSegments names) := by
  have hreads := reads_append_joinSegments h (exists_reads_of_mem_map_encode names)
  rwa [map_decode_encode] at hreads

/-- Names with slashes before them are read with what stands before, or not at all. -/
theorem reads_of_joinSegments {cs ds : List Char} {names : List (List Char)}
    (h : Reads (cs ++ joinSegments names) ds) :
    (∃ a, Reads cs a) ∧ ∀ name ∈ names, ∃ b, Reads name b := by
  induction names generalizing cs ds with
  | nil =>
    rw [joinSegments, List.flatMap_nil, List.append_nil] at h
    exact ⟨⟨ds, h⟩, List.forall_mem_nil _⟩
  | cons name names ih =>
    obtain ⟨a, b, ha, hb, -⟩ : ∃ a b, Reads cs a ∧ Reads (name ++ joinSegments names) b ∧
        ds = a ++ '/' :: b :=
      h.exists_of_cut isBarrier_slash
    obtain ⟨hname, hrest⟩ := ih hb
    exact ⟨⟨a, ha⟩, List.forall_mem_cons.mpr ⟨hname, hrest⟩⟩

theorem decode_joinSegments_of_not_reads {cs : List Char} (h : ¬ ∃ ds, Reads cs ds)
    (names : List (List Char)) : decode (cs ++ joinSegments names) = cs ++ joinSegments names :=
  decode_eq_self fun ⟨_, hds⟩ => h (reads_of_joinSegments hds).1

theorem exists_cons_of_reads (hrooted : r.IsRooted) {base : List Char}
    (hbase : Reads r.basePath base) (cs : List Char) : ∃ rest, base ++ '/' :: cs = '/' :: rest := by
  cases hpath : r.basePath with
  | nil =>
    rw [hpath] at hbase
    obtain rfl : [] = base := Utf8.encode_injective hbase
    exact ⟨cs, rfl⟩
  | cons c rest =>
    obtain rfl := hrooted c (by rw [hpath]; rfl)
    rw [hpath] at hbase
    obtain ⟨tail, rfl⟩ := List.head?_eq_some_iff.mp hbase.head?_eq
    exact ⟨tail ++ '/' :: cs, rfl⟩

theorem exists_cons_of_rooted (hrooted : r.IsRooted) {names : List (List Char)} (h : names ≠ []) :
    ∃ rest, r.basePath ++ joinSegments names = '/' :: rest := by
  cases hbase : r.basePath with
  | nil =>
    obtain ⟨name, names, rfl⟩ := List.exists_cons_of_ne_nil h
    exact ⟨_, rfl⟩
  | cons c cs =>
    have hc := hrooted c (by rw [hbase]; rfl)
    exact ⟨_, by rw [hc]; rfl⟩

theorem below_append (base : List Char) (names : List (List Char)) :
    below base (base ++ joinSegments names) = joinSegments names := by
  rw [below, dropStart?_append]
  cases names <;> rfl

theorem path_of_names (hrooted : r.IsRooted) {site : List Char} (hsite : IsSite site)
    {names : List (List Char)} (hne : names ≠ [])
    (hhref : href.toList = site ++ (r.basePath ++ joinSegments names)) :
    Href.path href.toList = r.basePath ++ joinSegments names := by
  obtain ⟨rest, hrest⟩ := exists_cons_of_rooted hrooted hne
  rw [hhref, hrest]
  exact Href.path_append hsite rest

/-- A reference without names may be a mere address, whose path is a slash. -/
theorem pathOfHref_of_names (hrooted : r.IsRooted) {site : List Char} (hsite : IsSite site)
    {names : List (List Char)} (hhref : href.toList = site ++ (r.basePath ++ joinSegments names)) :
    r.pathOfHref href = .ofChars
      (below (decode r.basePath) (decode (r.basePath ++ joinSegments names))) := by
  by_cases hne : names = []
  · subst hne
    rw [joinSegments, List.flatMap_nil, List.append_nil] at hhref ⊢
    cases hpath : r.basePath with
    | cons c cs =>
      obtain rfl := hrooted c (by rw [hpath]; rfl)
      rw [pathOfHref, hhref, hpath, Href.path_append hsite]
    | nil =>
      rw [pathOfHref, hhref, hpath, List.append_nil]
      rcases Href.path_of_site hsite with hempty | hslash
      · rw [hempty]
      · rw [hslash]
        decide +kernel
  · rw [pathOfHref, path_of_names hrooted hsite hne hhref]

/-- Below a path on the server that spells a text, names are read one by one. -/
theorem pathOfHref_of_reads (hrooted : r.IsRooted) {base : List Char}
    (hbase : Reads r.basePath base) {site : List Char} (hsite : IsSite site)
    {names : List (List Char)} (hnames : ∀ name ∈ names, ∃ b, Reads name b)
    (hhref : href.toList = site ++ (r.basePath ++ joinSegments names)) :
    r.pathOfHref href = .ofChars (joinSegments (names.map decode)) := by
  -- the base is read by itself, since a slash comes after it
  rw [pathOfHref_of_names hrooted hsite hhref, (reads_append_joinSegments hbase hnames).decode_eq,
    hbase.decode_eq, below_append]

/-- Below a path on the server that spells no text, names keep their escapes. -/
theorem pathOfHref_of_not_reads (hrooted : r.IsRooted) (hbase : ¬ ∃ base, Reads r.basePath base)
    {site : List Char} (hsite : IsSite site) {names : List (List Char)}
    (hhref : href.toList = site ++ (r.basePath ++ joinSegments names)) :
    r.pathOfHref href = .ofChars (joinSegments names) := by
  rw [pathOfHref_of_names hrooted hsite hhref, decode_joinSegments_of_not_reads hbase,
    decode_eq_self hbase, below_append]

/-- A reference with empty names at its end is read as the path of the resource. -/
theorem pathOfHref_of_blanks (hrooted : r.IsRooted) {base : List Char}
    (hbase : Reads r.basePath base) {site : List Char} (hsite : IsSite site)
    {blanks : List (List Char)} (hblanks : ∀ b ∈ blanks, b = [])
    (hhref : href.toList =
      site ++ (r.basePath ++ joinSegments ((p.segments ++ blanks).map encode))) :
    r.pathOfHref href = p := by
  have hreads := exists_reads_of_mem_map_encode (p.segments ++ blanks)
  rw [pathOfHref_of_reads hrooted hbase hsite hreads hhref, map_decode_encode]
  exact p.ofChars_joinSegments hblanks

/-- However the reference of a resource is spelled, it is read as the path of the resource. -/
theorem pathOfHref_of_refers (hrooted : r.IsRooted) {base : List Char}
    (hbase : Reads r.basePath base) (h : r.Refers p href) : r.pathOfHref href = p := by
  obtain ⟨site, blanks, hsite, hblanks, -, hhref⟩ := h.exists_blanks
  exact pathOfHref_of_blanks hrooted hbase hsite hblanks hhref

theorem isBlank_of_isUnreserved : ∀ n < 0x80, isUnreserved (UInt8.ofNat n) = true →
    Text.isBlank (Char.ofNat n) = false := by
  decide

theorem isBlank_of_mem_joinSegments {names : List (List Char)} {c : Char}
    (h : c ∈ joinSegments (names.map encode)) : Text.isBlank c = false := by
  obtain ⟨piece, hpiece, hc⟩ := List.mem_flatMap.mp h
  obtain ⟨name, -, rfl⟩ := List.mem_map.mp hpiece
  rcases List.mem_cons.mp hc with rfl | hc
  · decide
  · obtain ⟨hlt, rfl | hkeep⟩ := mem_encode hc
    · decide
    · have hblank := isBlank_of_isUnreserved c.toNat hlt hkeep
      rwa [Char.ofNat_toNat] at hblank

/-- The spelling of a reference has no blanks at its ends. -/
theorem trim_of_refers (hrooted : r.IsRooted) (h : r.Refers p href) :
    Text.trim href = href ∧ href ≠ "" := by
  obtain ⟨site, blanks, hsite, hblanks, hne, hhref⟩ := h.exists_blanks
  have hnames : (p.segments ++ blanks).map encode ≠ [] := mt List.map_eq_nil_iff.mp hne
  obtain ⟨rest, hrest⟩ := exists_cons_of_rooted hrooted hnames
  have hjoin : joinSegments ((p.segments ++ blanks).map encode) ≠ [] := by
    obtain ⟨name, names, hcons⟩ := List.exists_cons_of_ne_nil hnames
    rw [hcons]
    exact List.cons_ne_nil _ _
  have hlast : href.toList.getLast? =
      (joinSegments ((p.segments ++ blanks).map encode)).getLast? := by
    rw [hhref, ← List.append_assoc, List.getLast?_append_of_ne_nil _ hjoin]
  have hhead : ∀ c ∈ href.toList.head?, Text.isBlank c = false := by
    rw [hhref, hrest]
    rcases hsite with rfl | ⟨authority, -, rfl | rfl⟩ <;> rintro c ⟨⟩ <;> decide
  have htrim : Text.trimChars href.toList = href.toList := by
    refine Text.trimChars_eq_self hhead fun c hc => ?_
    rw [hlast] at hc
    exact isBlank_of_mem_joinSegments (List.mem_of_getLast? hc)
  refine ⟨by rw [Text.trim, htrim, String.ofList_toList], ?_⟩
  rintro rfl
  rw [hrest] at hhref
  exact List.append_ne_nil_of_right_ne_nil _ (List.cons_ne_nil _ _) hhref.symm

/-! ## Repositories of sessions -/

theorem head?_joinSegments (segments : List (List Char)) :
    ∀ c ∈ (joinSegments segments).head?, c = '/' := by
  cases segments with
  | nil => exact nofun
  | cons segment segments =>
    rintro c ⟨⟩
    rfl

theorem head?_dropSlashes {cs : List Char} : ∀ c ∈ (dropSlashes cs).head?, c ∈ cs.head? := by
  intro c hc
  obtain ⟨rest, hrest⟩ : dropSlashes cs <+: cs := List.rdropWhile_prefix _ _
  rw [← hrest, List.head?_append, Option.mem_def.mp hc]
  rfl

/-- The path of an address for a session starts with a slash, if it is not empty. -/
theorem isRooted_of_openSession {s : Settings} (h : Transfer.openSession s = .ok r) :
    r.IsRooted := by
  obtain ⟨hvalid, rfl⟩ := Transfer.openSession_eq_ok.mp h
  obtain ⟨hhttp, u, hu⟩ := Settings.isHttp_of_validate hvalid
  obtain ⟨scheme, lead, text, rest, padding, hspells⟩ := Settings.exists_spells hhttp hu
  have hparse := hu
  rw [hspells.parse_url] at hparse
  obtain ⟨authority, -, rfl⟩ := Fallible.map_eq_ok.mp hparse
  have hpath : (ofSettings s).basePath =
      dropSlashes (Url.readPath true (rest.takeWhile Url.isPathChar)) := by
    unfold ofSettings Settings.basePathChars
    rw [hu]
    rfl
  intro c hc
  rw [hpath] at hc
  have hslash := head?_dropSlashes c hc
  rw [Url.readPath, Bool.not_true, Bool.and_false, if_neg Bool.false_ne_true] at hslash
  exact head?_joinSegments _ c hslash

end Repository

end DavCourier
