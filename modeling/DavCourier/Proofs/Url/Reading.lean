import DavCourier.Proofs.Text.Blank
import DavCourier.Proofs.Url.Authority
import DavCourier.Proofs.Url.Path

/-!
# Reading addresses part by part

An address with a scheme of a session is read part by part : slashes, the authority, and what
goes on with it (`read_parts`). Without a query and a fragment this is a path
(`withTail_of_path`, `path_of_withTail`). Padding at the end is ignored (`significant_eq`),
unless something follows it (`significant_append`).
-/

namespace DavCourier.Url

/-! ## Reading an address that goes on -/

/-- The schemes of a session. -/
def IsHttpScheme (scheme : List Char) : Prop :=
  scheme = "http".toList ∨ scheme = "https".toList

variable {scheme text rest : List Char}

theorem IsHttpScheme.isSpecial (h : IsHttpScheme scheme) : isSpecial scheme = true := by
  rcases h with rfl | rfl <;> decide

/-- After the scheme slashes of either kind are skipped, as many as there are. -/
theorem read_http (hs : IsHttpScheme scheme) (cs : List Char) :
    read (scheme ++ "://".toList ++ cs) =
      (authorityOf scheme (authorityText (cs.dropWhile isSlash))).map fun authority =>
        withTail scheme (some authority) (readPath true)
          (authorityRest (cs.dropWhile isSlash)) := by
  have hread : read (scheme ++ "://".toList ++ cs) =
      (readAuthority scheme (cs.dropWhile isSlash) >>= fun result =>
        .ok (withTail scheme (some result.1) (readPath true) result.2)) := by
    rcases hs with rfl | rfl <;> rfl
  rw [hread, readAuthority_eq hs.isSpecial]
  cases authorityOf scheme (authorityText (cs.dropWhile isSlash)) <;> rfl

theorem isSlash_of_not_ends {c : Char} (h : endsAuthority true c = false) :
    isSlash c = false := by
  rw [endsAuthority, Bool.or_eq_false_iff, Bool.or_eq_false_iff, Bool.or_eq_false_iff] at h
  rw [isSlash, h.1.1.1, Bool.false_or]
  exact h.2

/-- An address is read part by part. -/
theorem read_parts (hs : IsHttpScheme scheme) {lead : List Char}
    (hlead : ∀ c ∈ lead, isSlash c = true) (hcut : IsCut text rest) (hne : text ≠ []) :
    read (scheme ++ "://".toList ++ (lead ++ (text ++ rest))) =
      (authorityOf scheme text).map fun authority =>
        withTail scheme (some authority) (readPath true) rest := by
  have hhead : ∀ c ∈ (text ++ rest).head?, isSlash c = false := by
    rw [List.head?_append_of_ne_nil _ hne]
    exact fun c hc => isSlash_of_not_ends (hcut.before c (List.mem_of_head? hc))
  have hbody : (lead ++ (text ++ rest)).dropWhile isSlash = text ++ rest := by
    rw [Text.dropWhile_append_of_head hhead, List.dropWhile_eq_nil_iff.mpr hlead,
      List.nil_append]
  rw [read_http hs, hbody, hcut.authority_eq.1, hcut.authority_eq.2]

theorem withTail_of_path {authority : Option Authority} {path : List Char → List Char}
    (h : ∀ c ∈ rest, isPathChar c = true) :
    withTail scheme authority path rest = ⟨scheme, authority, path rest, none, none⟩ := by
  unfold withTail
  rw [List.dropWhile_eq_nil_iff.mpr h, List.takeWhile_eq_self_iff.mpr h]
  rfl

/-- Without a query and a fragment all that is read is a path. -/
theorem path_of_withTail {authority : Option Authority} {path : List Char → List Char}
    (hquery : (withTail scheme authority path rest).query = none)
    (hfragment : (withTail scheme authority path rest).fragment = none) :
    ∀ c ∈ rest, isPathChar c = true := by
  rw [← List.dropWhile_eq_nil_iff]
  have hends : ∀ c ∈ (rest.dropWhile isPathChar).head?, isPathChar c = false :=
    Text.head?_dropWhile_eq
  unfold withTail at hquery hfragment
  cases htail : rest.dropWhile isPathChar with
  | nil => rfl
  | cons c cs =>
    rw [htail] at hends hquery hfragment
    have hmark : c = '?' ∨ c = '#' := by
      simpa [isPathChar, or_iff_not_imp_left] using hends c rfl
    rcases hmark with rfl | rfl
    · cases hquery
    · cases hfragment

/-! ## What reading ignores -/

theorem dropTrailing_append {p : Char → Bool} {cs : List Char}
    (h : ∀ c ∈ cs.getLast?, p c = false) (ds : List Char) :
    Text.dropTrailing p (cs ++ ds) = cs ++ Text.dropTrailing p ds := by
  have hhead : ∀ c ∈ cs.reverse.head?, p c = false := by
    rwa [List.head?_reverse]
  rw [Text.dropTrailing, Text.dropTrailing, List.reverse_append,
    Text.dropWhile_append_of_head hhead, List.reverse_append, List.reverse_reverse]

theorem significant_eq {cs : List Char} (h : ∀ c ∈ cs.head?, isPadding c = false) :
    significant cs = (Text.dropTrailing isPadding cs).filter (!isIgnored ·) := by
  have hdrop := Text.dropWhile_append_of_head h []
  rw [List.nil_append, List.dropWhile_nil, List.nil_append] at hdrop
  rw [significant, hdrop]

/-- What goes on with characters that count makes all that stands before them count. -/
theorem significant_append {cs ds : List Char} (hcs : ∀ c ∈ cs.head?, isPadding c = false)
    (hne : cs ≠ []) (hds : ∀ c ∈ ds, isIgnored c = false ∧ isPadding c = false) (hds' : ds ≠ []) :
    significant (cs ++ ds) = cs.filter (!isIgnored ·) ++ ds := by
  have hhead : ∀ c ∈ (cs ++ ds).head?, isPadding c = false := by
    rwa [List.head?_append_of_ne_nil _ hne]
  have hlast : ∀ c ∈ (cs ++ ds).getLast?, isPadding c = false := by
    rw [List.getLast?_append_of_ne_nil _ hds']
    exact fun c hc => (hds c (List.mem_of_getLast? hc)).2
  have hdrop := dropTrailing_append hlast []
  have hkeep : ds.filter (!isIgnored ·) = ds :=
    List.filter_eq_self.mpr fun c hc => by rw [(hds c hc).1]; rfl
  have hnil : Text.dropTrailing isPadding [] = [] := rfl
  rw [hnil, List.append_nil] at hdrop
  rw [significant_eq hhead, hdrop, List.filter_append, hkeep]

theorem isPadding_of_isIgnored {c : Char} (h : isIgnored c = true) : isPadding c = true := by
  have hc : c = '\t' ∨ c = '\n' ∨ c = '\r' := by
    simpa [isIgnored, or_assoc] using h
  rcases hc with rfl | rfl | rfl <;> rfl

/-- Trimmed text does not end with padding, also without the characters that are ignored. -/
theorem getLast?_trimmed (cs : List Char) :
    ∀ c ∈ ((Text.dropTrailing isPadding cs).filter (!isIgnored ·)).getLast?,
      isPadding c = false := by
  intro c hc
  by_cases hnil : Text.dropTrailing isPadding cs = []
  · rw [hnil] at hc
    cases hc
  · obtain ⟨ds, d, hds⟩ : ∃ ds d, Text.dropTrailing isPadding cs = ds ++ [d] :=
      ⟨_, _, (List.dropLast_append_getLast hnil).symm⟩
    have hlast := List.rdropWhile_last_not isPadding cs hnil
    have hd : isPadding d = false := by
      rw [← Bool.not_eq_true]
      simpa [← Text.dropTrailing_eq, hds] using hlast
    have hcounts : isIgnored d = false := by
      rw [← Bool.not_eq_true]
      intro hignored
      rw [isPadding_of_isIgnored hignored] at hd
      cases hd
    rw [hds, List.filter_append, List.filter_cons_of_pos (by rw [hcounts]; rfl), List.filter_nil,
      List.getLast?_concat] at hc
    cases hc
    exact hd

end DavCourier.Url
