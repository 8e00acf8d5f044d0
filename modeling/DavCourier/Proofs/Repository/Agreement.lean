import DavCourier.Proofs.Url.Reading

/-!
# Addresses and references that agree

Requests go to the address of a repository with the names of a resource after it, while a
reference is the path that the address of the repository was read as, with the same names. For
every resource the one leads where the other says if and only if the address goes on with its
path, as `Settings.IsOpen` says : `Settings.leads_iff_isOpen`.
-/

namespace DavCourier

open Url

/-! ## The parts of an address -/

theorem plain_of_isUnreserved : ∀ n < 0x80, Percent.isUnreserved (UInt8.ofNat n) = true →
    isIgnored (Char.ofNat n) = false ∧ isPadding (Char.ofNat n) = false ∧
      isPathChar (Char.ofNat n) = true := by
  decide +kernel

/-- The names of a resource are written in characters that count and belong to a path. -/
theorem plain_of_mem_escaped {p : ResourcePath} {c : Char} (h : c ∈ Repository.escaped p) :
    isIgnored c = false ∧ isPadding c = false ∧ isPathChar c = true := by
  obtain ⟨name, -, hmem⟩ := List.mem_flatMap.mp h
  rcases List.mem_cons.mp hmem with rfl | hmem
  · decide
  · obtain ⟨hlt, rfl | hkeep⟩ := Percent.mem_encode hmem
    · decide
    · have hplain := plain_of_isUnreserved c.toNat hlt hkeep
      rwa [Char.ofNat_toNat] at hplain

namespace Settings

theorem toList_resource (s : Settings) (p : ResourcePath) :
    ((Repository.ofSettings s).url p).toList = s.urlChars ++ Repository.escaped p :=
  String.toList_ofList

/-- The address of settings in parts : after the scheme come slashes, the authority, what goes on
with it, and padding. The padding counts if something follows it. -/
structure Spells (s : Settings) (scheme lead text rest padding : List Char) : Prop where
  http : IsHttpScheme scheme
  slashes : ∀ c ∈ lead, isSlash c = true
  cut : IsCut text rest
  named : text ≠ []
  ended : ∀ c ∈ (text ++ rest).getLast?, isPadding c = false
  blank : ∀ c ∈ padding, isPadding c = true
  whole : s.urlChars.filter (!isIgnored ·) =
    scheme ++ "://".toList ++ (lead ++ (text ++ (rest ++ padding)))
  alone : significant s.urlChars = scheme ++ "://".toList ++ (lead ++ (text ++ rest))
  resource : ∀ p : ResourcePath, p.isRoot = false →
    significant (s.urlChars ++ Repository.escaped p) =
      scheme ++ "://".toList ++ (lead ++ (text ++ (rest ++ (padding ++ Repository.escaped p))))

variable {s : Settings} {scheme lead text rest padding : List Char}

theorem isHttp_of_validate (h : s.validate = .ok ()) :
    isHttp s.urlChars = true ∧ ∃ u, Url.parse s.url = .ok u := by
  unfold validate at h
  split at h
  · cases h
  · split at h
    · cases h
    · next hhttp =>
      split at h
      · cases h
      · next u hu => exact ⟨by simpa using hhttp, u, hu⟩

theorem exists_scheme {cs : List Char} (h : isHttp cs = true) :
    ∃ scheme rest, IsHttpScheme scheme ∧ cs = scheme ++ "://".toList ++ rest := by
  rw [isHttp, Bool.or_eq_true, List.isPrefixOf_iff_prefix, List.isPrefixOf_iff_prefix] at h
  rcases h with ⟨rest, rfl⟩ | ⟨rest, rfl⟩
  · exact ⟨_, rest, Or.inl rfl, rfl⟩
  · exact ⟨_, rest, Or.inr rfl, rfl⟩

/-- An address that can be read has an authority. -/
theorem exists_parts (hs : IsHttpScheme scheme) {cs : List Char} {u : Url}
    (h : Url.read (scheme ++ "://".toList ++ cs) = .ok u) :
    ∃ lead text rest, (∀ c ∈ lead, isSlash c = true) ∧ IsCut text rest ∧ text ≠ [] ∧
      cs = lead ++ (text ++ rest) := by
  refine ⟨cs.takeWhile isSlash, _, _, fun c hc => ?_, isCut_authority (cs.dropWhile isSlash), ?_,
    ?_⟩
  · exact List.all_eq_true.mp List.all_takeWhile c hc
  · intro hnil
    rw [read_http hs, hnil, authorityOf_nil hs.isSpecial] at h
    cases h
  · rw [authorityText, authorityRest, List.takeWhile_append_dropWhile,
      List.takeWhile_append_dropWhile]

/-- The address of settings for a session has its parts. -/
theorem exists_spells (h : isHttp s.urlChars = true) {u : Url} (hu : Url.parse s.url = .ok u) :
    ∃ scheme lead text rest padding, s.Spells scheme lead text rest padding := by
  obtain ⟨scheme, cs, hs, hcs⟩ := exists_scheme h
  have hstart : (scheme ++ "://".toList).filter (!isIgnored ·) = scheme ++ "://".toList := by
    rcases hs with rfl | rfl <;> decide
  have hne : s.urlChars ≠ [] := by
    rw [hcs]
    exact List.append_ne_nil_of_left_ne_nil (List.append_ne_nil_of_right_ne_nil _ (by decide)) _
  have hhead : ∀ c ∈ s.urlChars.head?, isPadding c = false := by
    rw [hcs]
    rcases hs with rfl | rfl <;> exact fun c hc => by cases hc; decide
  have hlast : ∀ c ∈ (scheme ++ "://".toList).getLast?, isPadding c = false := by
    rcases hs with rfl | rfl <;> exact fun c hc => by cases hc; decide
  have htrailing : Text.dropTrailing isPadding cs ++ cs.rtakeWhile isPadding = cs :=
    List.rdropWhile_append_rtakeWhile
  have halone : significant s.urlChars = scheme ++ "://".toList ++
      (Text.dropTrailing isPadding cs).filter (!isIgnored ·) := by
    rw [significant_eq hhead, hcs, dropTrailing_append hlast, List.filter_append, hstart]
  rw [Url.parse, Settings.url, String.toList_ofList, halone] at hu
  obtain ⟨lead, text, rest, hlead, hcut, hnamed, hkept⟩ := exists_parts hs hu
  have hended : ∀ c ∈ (text ++ rest).getLast?, isPadding c = false := by
    have hlast := getLast?_trimmed cs
    rwa [hkept, List.getLast?_append_of_ne_nil _ (List.append_ne_nil_of_left_ne_nil hnamed _)]
      at hlast
  have hwhole : s.urlChars.filter (!isIgnored ·) = scheme ++ "://".toList ++
      (lead ++ (text ++ (rest ++ (cs.rtakeWhile isPadding).filter (!isIgnored ·)))) := by
    rw [hcs, List.filter_append, hstart, ← htrailing, List.filter_append, hkept]
    simp only [List.append_assoc, htrailing]
  refine ⟨scheme, lead, text, rest, (cs.rtakeWhile isPadding).filter (!isIgnored ·), hs, hlead,
    hcut, hnamed, hended, fun c hc => List.mem_rtakeWhile_imp (List.mem_of_mem_filter hc),
    hwhole, ?_, fun p hp => ?_⟩
  · rw [halone, hkept]
  · obtain ⟨ds, hds⟩ := exists_escaped hp
    have hplain := fun c (hc : c ∈ Repository.escaped p) =>
      (⟨(plain_of_mem_escaped hc).1, (plain_of_mem_escaped hc).2.1⟩ :
        isIgnored c = false ∧ isPadding c = false)
    rw [significant_append hhead hne hplain (by rw [hds]; exact List.cons_ne_nil _ _), hwhole]
    simp only [List.append_assoc]

/-! ## Settings whose address goes on with its path -/

/-- What follows the address goes on with its path : it has no query and no fragment, ends
neither with padding nor with a slash of either kind, and its path does not end with two
slashes. -/
structure IsOpen (s : Settings) : Prop where
  unmarked : '?' ∉ s.urlChars ∧ '#' ∉ s.urlChars
  ending : ∀ c ∈ (s.urlChars.filter (!isIgnored ·)).getLast?,
    isPadding c = false ∧ isSlash c = false
  path : ∀ u, Url.parse s.url = .ok u → ¬ "//".toList <:+ u.path

namespace Spells

theorem parse_url (h : s.Spells scheme lead text rest padding) :
    Url.parse s.url = (authorityOf scheme text).map fun authority =>
      withTail scheme (some authority) (readPath true) rest := by
  rw [Url.parse, Settings.url, String.toList_ofList, h.alone,
    read_parts h.http h.slashes h.cut h.named]

/-- The marks of a query and of a fragment stand after the authority, and count. -/
theorem mem_iff (h : s.Spells scheme lead text rest padding) {c : Char} (hc : c = '?' ∨ c = '#') :
    c ∈ s.urlChars ↔ c ∈ rest := by
  have hcounts : (!isIgnored c) = true := by
    rcases hc with rfl | rfl <;> decide
  have hstart : c ∉ scheme ++ "://".toList := by
    rcases h.http with rfl | rfl <;> rcases hc with rfl | rfl <;> decide
  have hlead : c ∉ lead := fun hmem => by
    have hslash := h.slashes c hmem
    rcases hc with rfl | rfl <;> exact absurd hslash (by decide)
  have htext : c ∉ text := fun hmem => by
    have hends := h.cut.before c hmem
    rcases hc with rfl | rfl <;> exact absurd hends (by decide)
  have hpadding : c ∉ padding := fun hmem => by
    have hblank := h.blank c hmem
    rcases hc with rfl | rfl <;> exact absurd hblank (by decide)
  have hfilter : c ∈ s.urlChars ↔ c ∈ s.urlChars.filter (!isIgnored ·) := by
    rw [List.mem_filter, and_iff_left hcounts]
  rw [hfilter, h.whole, List.mem_append, or_iff_right hstart, List.mem_append,
    or_iff_right hlead, List.mem_append, or_iff_right htext, List.mem_append,
    or_iff_left hpadding]

theorem unmarked_iff (h : s.Spells scheme lead text rest padding) :
    '?' ∉ s.urlChars ∧ '#' ∉ s.urlChars ↔ ∀ c ∈ rest, isPathChar c = true := by
  rw [h.mem_iff (Or.inl rfl), h.mem_iff (Or.inr rfl)]
  constructor
  · rintro ⟨hquery, hfragment⟩ c hc
    have hne : c ≠ '?' ∧ c ≠ '#' := ⟨fun heq => hquery (heq ▸ hc), fun heq => hfragment (heq ▸ hc)⟩
    simpa [isPathChar] using hne
  · exact fun hpath => ⟨fun hc => absurd (hpath _ hc) (by decide),
      fun hc => absurd (hpath _ hc) (by decide)⟩

theorem getLast?_of_padding (h : s.Spells scheme lead text rest padding) (hne : padding ≠ []) :
    (s.urlChars.filter (!isIgnored ·)).getLast? = padding.getLast? := by
  rw [h.whole, ← List.append_assoc, ← List.append_assoc, ← List.append_assoc,
    List.getLast?_append_of_ne_nil _ hne]

theorem getLast?_of_nil (h : s.Spells scheme lead text rest []) :
    (s.urlChars.filter (!isIgnored ·)).getLast? = (text ++ rest).getLast? := by
  have hne : text ++ rest ≠ [] := List.append_ne_nil_of_left_ne_nil h.named _
  rw [h.whole, List.append_nil, ← List.append_assoc, List.getLast?_append_of_ne_nil _ hne]

/-- What goes on with the authority starts with a slash, unless it is a query or a fragment. -/
theorem head_rest (h : s.Spells scheme lead text rest padding)
    (hrest : ∀ c ∈ rest, isPathChar c = true) : ∀ c ∈ rest.head?, isSlash c = true := by
  intro c hc
  have hends := h.cut.ends c hc
  have hpath := hrest c (List.mem_of_head? hc)
  simp [endsAuthority, isPathChar, isSlash] at hends hpath ⊢
  tauto

theorem path_eq (h : s.Spells scheme lead text rest padding)
    (hrest : ∀ c ∈ rest, isPathChar c = true) {u : Url} (hu : Url.parse s.url = .ok u) :
    ∃ authority, authorityOf scheme text = .ok authority ∧
      u = ⟨scheme, some authority, readPath true rest, none, none⟩ := by
  rw [h.parse_url] at hu
  obtain ⟨authority, hauthority, rfl⟩ := Fallible.map_eq_ok.mp hu
  exact ⟨authority, hauthority, withTail_of_path hrest⟩

theorem isOpen_iff (h : s.Spells scheme lead text rest padding) {u : Url}
    (hu : Url.parse s.url = .ok u) : s.IsOpen ↔
      (∀ c ∈ rest, isPathChar c = true) ∧ padding = [] ∧ (stem rest).getLast? ≠ some '/' := by
  constructor
  · rintro ⟨hunmarked, hending, hpath⟩
    have hrest := h.unmarked_iff.mp hunmarked
    obtain ⟨authority, -, rfl⟩ := h.path_eq hrest hu
    have hnil : padding = [] := by
      by_contra hne
      obtain ⟨c, hc⟩ : ∃ c, padding.getLast? = some c :=
        ⟨_, List.getLast?_eq_some_getLast hne⟩
      have hlast := (hending c ((h.getLast?_of_padding hne).trans hc)).1
      rw [h.blank c (List.mem_of_getLast? hc)] at hlast
      cases hlast
    subst hnil
    refine ⟨hrest, rfl, fun hstem => ?_⟩
    rcases (getLast?_stem (h.head_rest hrest)).mp hstem with ⟨c, hc, hslash⟩ | htwo
    · have hne : rest ≠ [] := by
        rintro rfl
        cases hc
      have hlast : c ∈ (s.urlChars.filter (!isIgnored ·)).getLast? := by
        rw [h.getLast?_of_nil, List.getLast?_append_of_ne_nil _ hne]
        exact hc
      rw [(hending c hlast).2] at hslash
      cases hslash
    · exact hpath _ hu htwo
  · rintro ⟨hrest, rfl, hstem⟩
    rw [ne_eq, getLast?_stem (h.head_rest hrest), not_or] at hstem
    obtain ⟨authority, -, rfl⟩ := h.path_eq hrest hu
    refine ⟨h.unmarked_iff.mpr hrest, fun c hc => ?_, fun u' hu' => ?_⟩
    · rw [h.getLast?_of_nil] at hc
      refine ⟨h.ended c hc, ?_⟩
      by_cases hnil : rest = []
      · rw [hnil, List.append_nil] at hc
        exact isSlash_of_not_ends (h.cut.before c (List.mem_of_getLast? hc))
      · rw [List.getLast?_append_of_ne_nil _ hnil] at hc
        rw [← Bool.not_eq_true]
        exact fun hslash => hstem.1 ⟨c, hc, hslash⟩
    · rw [hu] at hu'
      rw [← Except.ok.inj hu']
      exact hstem.2

end Spells

end Settings

/-! ## Where addresses lead -/

/-- The address of a resource leads to the server of the repository, and there to the reference
of the resource. The address of the root may do without the slash at its end. -/
structure Repository.Leads (r : Repository) (u : Url) (p : ResourcePath) (u' : Url) : Prop where
  scheme : u'.scheme = u.scheme
  host : u'.authority.map Authority.host = u.authority.map Authority.host
  port : u'.authority.map Authority.port = u.authority.map Authority.port
  query : u'.query = none
  fragment : u'.fragment = none
  path : u'.path = r.hrefChars p ∨ p.isRoot = true ∧ u'.path ++ ['/'] = r.hrefChars p

theorem dropSlashes_eq_self {cs : List Char} : dropSlashes cs = cs ↔ cs.getLast? ≠ some '/' := by
  rw [dropSlashes, Text.dropTrailing_eq, List.rdropWhile_eq_self_iff]
  constructor
  · intro h hlast
    obtain ⟨ds, rfl⟩ := List.getLast?_eq_some_iff.mp hlast
    refine h (List.append_ne_nil_of_right_ne_nil _ (List.cons_ne_nil _ _)) ?_
    rw [List.getLast_concat]
    rfl
  · intro h hne hslash
    rw [List.getLast?_eq_some_getLast hne, of_decide_eq_true hslash] at h
    exact h rfl

theorem length_dropSlashes_le (cs : List Char) : (dropSlashes cs).length ≤ cs.length :=
  (List.rdropWhile_prefix _ _).length_le

theorem dropSlashes_readPath {rest : List Char} (h : ∀ c ∈ rest.head?, isSlash c = true) :
    dropSlashes (readPath true rest) = dropSlashes (stem rest) := by
  rcases readPath_eq_stem h with heq | heq
  · rw [heq]
  · rw [heq]
    exact List.rdropWhile_concat_pos _ _ _ rfl

namespace Settings.Spells

variable {s : Settings} {scheme lead text rest padding : List Char} {p : ResourcePath} {u : Url}

theorem basePath_eq (h : s.Spells scheme lead text rest padding)
    (hrest : ∀ c ∈ rest, isPathChar c = true) (hu : Url.parse s.url = .ok u) :
    (Repository.ofSettings s).basePath = dropSlashes (stem rest) := by
  obtain ⟨authority, -, rfl⟩ := h.path_eq hrest hu
  rw [← dropSlashes_readPath (h.head_rest hrest)]
  unfold Repository.ofSettings basePathChars
  rw [hu]

theorem hrefChars_eq (h : s.Spells scheme lead text rest padding)
    (hrest : ∀ c ∈ rest, isPathChar c = true) (hu : Url.parse s.url = .ok u)
    (hp : p.isRoot = false) : (Repository.ofSettings s).hrefChars p =
      dropSlashes (stem rest) ++ Repository.escaped p := by
  rw [Repository.hrefChars, if_neg (by rw [hp]; exact Bool.false_ne_true),
    h.basePath_eq hrest hu]

theorem cut_escaped {t r : List Char} (h : IsCut t r) (hp : p.isRoot = false) :
    IsCut t (r ++ Repository.escaped p) := by
  obtain ⟨cs, hcs⟩ := exists_escaped hp
  refine ⟨h.before, ?_⟩
  cases r with
  | nil =>
    rw [List.nil_append, hcs]
    intro c hc
    cases hc
    rfl
  | cons c r => exact h.ends

/-- Unless padding becomes part of it, the authority of a resource is that of the repository. -/
theorem parse_resource (h : s.Spells scheme lead text rest padding)
    (hor : rest ≠ [] ∨ padding = []) (hp : p.isRoot = false) :
    Url.parse ((Repository.ofSettings s).url p) = (authorityOf scheme text).map fun authority =>
      withTail scheme (some authority) (readPath true)
        (rest ++ padding ++ Repository.escaped p) := by
  have hcut : IsCut text (rest ++ padding) := by
    rcases hor with hne | rfl
    · obtain ⟨c, cs, rfl⟩ := List.exists_cons_of_ne_nil hne
      exact ⟨h.cut.before, h.cut.ends⟩
    · rw [List.append_nil]
      exact h.cut
  rw [Url.parse, toList_resource, h.resource p hp, ← List.append_assoc rest,
    read_parts h.http h.slashes (cut_escaped hcut hp) h.named]

/-- An open address leads on to every resource but the root. -/
theorem leads_resource (h : s.Spells scheme lead text rest []) (hu : Url.parse s.url = .ok u)
    (hrest : ∀ c ∈ rest, isPathChar c = true) (hstem : (stem rest).getLast? ≠ some '/')
    (hp : p.isRoot = false) : ∃ u', Url.parse ((Repository.ofSettings s).url p) = .ok u' ∧
      (Repository.ofSettings s).Leads u p u' := by
  have href := h.hrefChars_eq hrest hu hp
  obtain ⟨authority, hauthority, rfl⟩ := h.path_eq hrest hu
  have hpath : ∀ c ∈ rest ++ Repository.escaped p, isPathChar c = true := by
    intro c hc
    rcases List.mem_append.mp hc with hc | hc
    · exact hrest c hc
    · exact (plain_of_mem_escaped hc).2.2
  refine ⟨⟨scheme, some authority, stem rest ++ Repository.escaped p, none, none⟩, ?_,
    rfl, rfl, rfl, rfl, rfl, Or.inl ?_⟩
  · rw [h.parse_resource (Or.inr rfl) hp, hauthority, List.append_nil, Except.map,
      withTail_of_path hpath, readPath_append (h.head_rest hrest) hp]
  · rw [href, dropSlashes_eq_self.mpr hstem]

/-- It is itself the address of the root. -/
theorem leads_root (h : s.Spells scheme lead text rest []) (hu : Url.parse s.url = .ok u)
    (hrest : ∀ c ∈ rest, isPathChar c = true) (hstem : (stem rest).getLast? ≠ some '/')
    (hp : p.isRoot = true) : ∃ u', Url.parse ((Repository.ofSettings s).url p) = .ok u' ∧
      (Repository.ofSettings s).Leads u p u' := by
  have hurl : (Repository.ofSettings s).url p = s.url := by
    rw [Repository.url, Repository.escaped, ResourcePath.isRoot_iff.mp hp, List.flatMap_nil,
      List.append_nil]
    rfl
  have href : (Repository.ofSettings s).hrefChars p = stem rest ++ ['/'] := by
    rw [Repository.hrefChars, if_pos hp, h.basePath_eq hrest hu, dropSlashes_eq_self.mpr hstem]
  obtain ⟨authority, -, rfl⟩ := h.path_eq hrest hu
  refine ⟨_, hurl ▸ hu, rfl, rfl, rfl, rfl, rfl, ?_⟩
  rw [href]
  rcases readPath_eq_stem (h.head_rest hrest) with hpath | hpath
  · exact Or.inr ⟨hp, congrArg (· ++ ['/']) hpath⟩
  · exact Or.inl hpath

/-- Where the path of a resource is its reference, the stem of the path is the reference of the
repository. -/
theorem stem_of_leads (h : s.Spells scheme lead text rest padding)
    (hu : Url.parse s.url = .ok u) (hor : rest ≠ [] ∨ padding = []) (hp : p.isRoot = false)
    {u' : Url} (hu' : Url.parse ((Repository.ofSettings s).url p) = .ok u')
    (hleads : (Repository.ofSettings s).Leads u p u') :
    (∀ c ∈ rest, isPathChar c = true) ∧ stem (rest ++ padding) = dropSlashes (stem rest) := by
  rw [h.parse_resource hor hp] at hu'
  obtain ⟨authority, -, rfl⟩ := Fallible.map_eq_ok.mp hu'
  have hall := path_of_withTail hleads.query hleads.fragment
  have hrest : ∀ c ∈ rest, isPathChar c = true := fun c hc =>
    hall c (List.mem_append_left _ (List.mem_append_left _ hc))
  have hhead : ∀ c ∈ (rest ++ padding).head?, isSlash c = true := by
    rcases hor with hne | rfl
    · rw [List.head?_append_of_ne_nil _ hne]
      exact h.head_rest hrest
    · rw [List.append_nil]
      exact h.head_rest hrest
  have hpath := hleads.path.resolve_right fun hroot => by
    rw [hp] at hroot
    cases hroot.1
  rw [withTail_of_path hall, h.hrefChars_eq hrest hu hp] at hpath
  dsimp only at hpath
  rw [readPath_append hhead hp] at hpath
  exact ⟨hrest, List.append_cancel_right hpath⟩

/-- Padding that a resource follows is no longer padding. -/
theorem padding_eq_nil (h : s.Spells scheme lead text rest padding)
    (hu : Url.parse s.url = .ok u) (hp : p.isRoot = false) {u' : Url}
    (hu' : Url.parse ((Repository.ofSettings s).url p) = .ok u')
    (hleads : (Repository.ofSettings s).Leads u p u') : padding = [] := by
  by_contra hne
  have hpadded : IsPadded padding := ⟨hne, h.blank⟩
  cases rest with
  | nil =>
    -- it ends the authority
    have hcut : IsCut (text ++ padding) [] := (hpadded.isWithin_append h.cut.before).cut_nil
    obtain ⟨fault, hfault⟩ := authorityOf_padded h.http.isSpecial hpadded h.cut.before
    rw [Url.parse, toList_resource, h.resource p hp, List.nil_append, ← List.append_assoc text,
      ← List.nil_append (Repository.escaped p), read_parts h.http h.slashes (cut_escaped hcut hp)
        (List.append_ne_nil_of_left_ne_nil h.named _), hfault] at hu'
    cases hu'
  | cons c cs =>
    -- it ends a segment
    obtain ⟨hrest, hstem⟩ := h.stem_of_leads hu (Or.inl (List.cons_ne_nil _ _)) hp hu' hleads
    have hlt := length_stem_lt (h.head_rest hrest c rfl) cs hne h.blank
    have hle := length_dropSlashes_le (stem (c :: cs))
    rw [hstem] at hlt
    omega

/-- An address that leads on to some resource but the root is open. -/
theorem isOpen_of_leads (h : s.Spells scheme lead text rest padding)
    (hu : Url.parse s.url = .ok u) (hp : p.isRoot = false) {u' : Url}
    (hu' : Url.parse ((Repository.ofSettings s).url p) = .ok u')
    (hleads : (Repository.ofSettings s).Leads u p u') : s.IsOpen := by
  have hnil := h.padding_eq_nil hu hp hu' hleads
  obtain ⟨hrest, hstem⟩ := h.stem_of_leads hu (Or.inr hnil) hp hu' hleads
  rw [hnil, List.append_nil] at hstem
  exact (h.isOpen_iff hu).mpr ⟨hrest, hnil, dropSlashes_eq_self.mp hstem.symm⟩

end Settings.Spells

/-- With settings that are accepted, the address of every resource leads to the server of the
repository and to the reference of the resource if and only if the address of the repository goes
on with its path. -/
theorem Settings.leads_iff_isOpen {s : Settings} (h : s.validate = .ok ()) :
    ∃ u, Url.parse s.url = .ok u ∧
      ((∀ name, ∃ u', Url.parse ((Repository.ofSettings s).url (.ofString name)) = .ok u' ∧
        (Repository.ofSettings s).Leads u (.ofString name) u') ↔ s.IsOpen) := by
  obtain ⟨hhttp, u, hu⟩ := isHttp_of_validate h
  obtain ⟨scheme, lead, text, rest, padding, hspells⟩ := exists_spells hhttp hu
  refine ⟨u, hu, fun hleads => ?_, fun hopen name => ?_⟩
  · obtain ⟨u', hu', hleads'⟩ := hleads "a"
    exact hspells.isOpen_of_leads hu (by decide) hu' hleads'
  · obtain ⟨hrest, rfl, hstem⟩ := (hspells.isOpen_iff hu).mp hopen
    cases hp : (ResourcePath.ofString name).isRoot with
    | true => exact hspells.leads_root hu hrest hstem hp
    | false => exact hspells.leads_resource hu hrest hstem hp

/-- Settings with a marker, dots and slashes in their address, which is open. -/
def dottedSettings : Settings := { repositoryUrl := " dav:http://h:80//a/%2E./r\\b// " }

theorem Settings.leads_iff_isOpen_dotted : ∃ u, Url.parse dottedSettings.url = .ok u ∧
    ∀ name, ∃ u', Url.parse ((Repository.ofSettings dottedSettings).url (.ofString name)) = .ok u' ∧
      (Repository.ofSettings dottedSettings).Leads u (.ofString name) u' := by
  have hvalid : dottedSettings.validate = .ok () := by decide +kernel
  have hparse : Url.parse dottedSettings.url =
      .ok ⟨"http".toList, some ⟨[], none, ['h'], none⟩, "//r/b".toList, none, none⟩ := by
    decide +kernel
  have hlast : (dottedSettings.urlChars.filter (!isIgnored ·)).getLast? = some 'b' := by decide
  have hopen : dottedSettings.IsOpen := by
    refine ⟨by decide, fun c hc => ?_, fun u hu => ?_⟩
    · rw [hlast] at hc
      cases hc
      decide
    · rw [hparse] at hu
      cases hu
      decide
  obtain ⟨u, hu, hiff⟩ := Settings.leads_iff_isOpen hvalid
  exact ⟨u, hu, hiff.mpr hopen⟩

/-- Settings with a query in their address. -/
def queriedSettings : Settings := { repositoryUrl := "http://h/r?x=1" }

/-- They are accepted, and the names of a resource become part of the query. -/
theorem Settings.not_leads_queried : queriedSettings.validate = .ok () ∧
    ∃ u u', Url.parse queriedSettings.url = .ok u ∧
      Url.parse ((Repository.ofSettings queriedSettings).url (.ofString "a")) = .ok u' ∧
      u'.path = "/r".toList ∧ u'.query = some "x=1/a".toList ∧
      (Repository.ofSettings queriedSettings).hrefChars (.ofString "a") = "/r/a".toList ∧
      ¬ (Repository.ofSettings queriedSettings).Leads u (.ofString "a") u' := by
  have hparse : Url.parse queriedSettings.url =
      .ok ⟨"http".toList, some ⟨[], none, ['h'], none⟩, "/r".toList, some "x=1".toList, none⟩ := by
    decide +kernel
  have hresource : Url.parse ((Repository.ofSettings queriedSettings).url (.ofString "a")) =
      .ok ⟨"http".toList, some ⟨[], none, ['h'], none⟩, "/r".toList, some "x=1/a".toList,
        none⟩ := by
    decide +kernel
  refine ⟨by decide +kernel, _, _, hparse, hresource, rfl, rfl, by decide +kernel,
    fun hleads => ?_⟩
  cases hleads.query

end DavCourier
