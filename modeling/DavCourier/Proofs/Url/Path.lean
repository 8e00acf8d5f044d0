import DavCourier.Proofs.Repository.Address
import DavCourier.Proofs.ResourcePath
import DavCourier.Proofs.Text.Split

/-!
# Paths that go on

A path that goes on with the segments of a resource keeps a stem, which depends on the text
before them only (`readPath_append`). The path of that text itself is the stem, or has one more
slash (`readPath_eq_stem`). The stem ends with a slash if the text does, or if its path ends
with two of them (`getLast?_stem`).
-/

namespace DavCourier

namespace Url

/-! ## What a path escapes -/

theorem escapeWith_append (keep : UInt8 → Bool) (cs ds : List Char) :
    escapeWith keep (cs ++ ds) = escapeWith keep cs ++ escapeWith keep ds := by
  rw [escapeWith, Utf8.encode_append]
  exact List.flatMap_append

theorem escapeWith_eq_self {keep : UInt8 → Bool} {cs : List Char}
    (h : ∀ c ∈ cs, c.toNat < 0x80 ∧ keep (UInt8.ofNat c.toNat) = true) :
    escapeWith keep cs = cs := by
  induction cs with
  | nil => rfl
  | cons c cs ih =>
    obtain ⟨hlt, hkeep⟩ := h c List.mem_cons_self
    have hbyte : (UInt8.ofNat c.toNat).toNat = c.toNat := by
      rw [UInt8.toNat_ofNat']
      omega
    have hone : escapeWith keep [c] = [c] := by
      rw [escapeWith, Utf8.encode_cons, Utf8.encodeChar_ascii hlt, Utf8.encode_nil,
        Percent.encodeBytes, List.append_nil, List.flatMap_singleton, if_pos hkeep, hbyte,
        Char.ofNat_toNat]
    have hcons : c :: cs = [c] ++ cs := rfl
    rw [hcons, escapeWith_append, hone, ih fun d hd => h d (List.mem_cons_of_mem _ hd)]

theorem keepsInPath_of_isUnreserved : ∀ n < 256,
    Percent.isUnreserved (UInt8.ofNat n) = true → keepsInPath (UInt8.ofNat n) = true := by
  decide +kernel

/-- A path keeps what a request escapes. -/
theorem escapeWith_encode (cs : List Char) :
    escapeWith keepsInPath (Percent.encode cs) = Percent.encode cs := by
  refine escapeWith_eq_self fun c hc => ?_
  obtain ⟨hlt, rfl | hkeep⟩ := Percent.mem_encode hc
  · exact ⟨hlt, by decide⟩
  · exact ⟨hlt, keepsInPath_of_isUnreserved _ (by omega) hkeep⟩

theorem escapeWith_ne_nil {keep : UInt8 → Bool} {cs : List Char} (h : cs ≠ []) :
    escapeWith keep cs ≠ [] := by
  obtain ⟨c, cs, rfl⟩ := List.exists_cons_of_ne_nil h
  obtain ⟨a, tail, hbytes, -⟩ := Utf8.step_encodeChar c
  rw [escapeWith, Utf8.encode_cons, hbytes, Percent.encodeBytes, List.cons_append,
    List.flatMap_cons]
  refine List.append_ne_nil_of_left_ne_nil ?_ _
  split <;> exact List.cons_ne_nil _ _

theorem slash_in_path : ∀ n < 256,
    '/' ∈ (if keepsInPath (UInt8.ofNat n) then [Char.ofNat (UInt8.ofNat n).toNat]
      else Percent.escape (UInt8.ofNat n)) → n = 0x2F := by
  decide +kernel

theorem slash_not_mem_escapeWith {cs : List Char} (h : '/' ∉ cs) :
    '/' ∉ escapeWith keepsInPath cs := by
  intro hmem
  obtain ⟨b, hb, hslash⟩ := List.mem_flatMap.mp hmem
  have hbyte : b.toNat = 0x2F := by
    refine slash_in_path b.toNat b.toNat_lt ?_
    rw [UInt8.ofNat_toNat]
    exact hslash
  have hchar := Utf8.ascii_mem_encode (by omega) hb
  rw [hbyte] at hchar
  exact h hchar

/-! ## Segments -/

/-- Whether a segment is one dot or two. -/
def isDots (segment : List Char) : Bool :=
  isSingleDot segment || isDoubleDot segment

theorem stepSegment_of_not_isDots {segment : List Char} (h : isDots segment = false)
    (done : List (List Char)) : stepSegment done segment = segment :: done := by
  rw [isDots, Bool.or_eq_false_iff] at h
  rw [stepSegment, h.1, h.2]
  rfl

theorem foldl_stepSegment {segments : List (List Char)} (h : ∀ s ∈ segments, isDots s = false)
    (done : List (List Char)) : segments.foldl stepSegment done = segments.reverse ++ done := by
  induction segments generalizing done with
  | nil => rfl
  | cons s segments ih =>
    rw [List.foldl_cons, stepSegment_of_not_isDots (h s List.mem_cons_self),
      ih fun t ht => h t (List.mem_cons_of_mem _ ht), List.reverse_cons, List.append_assoc,
      List.singleton_append]

theorem pathSegmentsFrom_append (segments : List (List Char)) {others : List (List Char)}
    (h : others ≠ []) (done : List (List Char)) : pathSegmentsFrom done (segments ++ others) =
      pathSegmentsFrom (segments.foldl stepSegment done) others := by
  induction segments generalizing done with
  | nil => rfl
  | cons s segments ih =>
    obtain ⟨t, rest, hrest⟩ :=
      List.exists_cons_of_ne_nil (List.append_ne_nil_of_right_ne_nil segments h)
    have hstep : pathSegmentsFrom done (s :: (segments ++ others)) =
        pathSegmentsFrom (stepSegment done s) (segments ++ others) := by
      rw [hrest, pathSegmentsFrom]
      exact nofun
    rw [List.cons_append, List.foldl_cons, hstep, ih]

/-- What one last segment leaves : as the others do, and dots leave an empty one. -/
theorem pathSegmentsFrom_singleton (done : List (List Char)) (last : List Char) :
    pathSegmentsFrom done [last] =
      (stepSegment done last).reverse ++ if isDots last then [[]] else [] := by
  rw [pathSegmentsFrom, stepSegment, isDots]
  cases isDoubleDot last with
  | true => simp
  | false => cases isSingleDot last <;> simp

/-- The segments that stay of those before others. -/
def settled (segments : List (List Char)) : List (List Char) :=
  (segments.foldl stepSegment []).reverse

theorem pathSegmentsFrom_concat (segments : List (List Char)) (last : List Char) :
    pathSegmentsFrom [] (segments ++ [last]) =
      settled (segments ++ [last]) ++ if isDots last then [[]] else [] := by
  rw [pathSegmentsFrom_append _ (List.cons_ne_nil _ _), pathSegmentsFrom_singleton, settled,
    List.foldl_append]
  rfl

theorem pathSegmentsFrom_settled (segments : List (List Char)) {others : List (List Char)}
    (hne : others ≠ []) (h : ∀ s ∈ others, isDots s = false) :
    pathSegmentsFrom [] (segments ++ others) = settled segments ++ others := by
  obtain ⟨init, last, rfl⟩ : ∃ init last, others = init ++ [last] :=
    ⟨_, _, (List.dropLast_append_getLast hne).symm⟩
  have hlast : isDots last = false := h last (List.mem_append_right _ List.mem_cons_self)
  rw [← List.append_assoc, pathSegmentsFrom_concat, hlast, settled, settled, List.append_assoc,
    List.foldl_append, foldl_stepSegment h]
  simp

/-! ## Dots -/

/-- The spellings of one dot and of two. -/
def dotSpellings : List (List Char) :=
  dots ++ dots.flatMap fun a => dots.map (a ++ ·)

theorem mem_dotSpellings {segment : List Char} (h : isDots segment = true) :
    segment ∈ dotSpellings := by
  rw [isDots, Bool.or_eq_true, isSingleDot, isDoubleDot] at h
  refine List.mem_append.mpr (h.imp (fun h => List.contains_iff_mem.mp h) fun h => ?_)
  obtain ⟨a, ha, h⟩ := List.any_eq_true.mp h
  obtain ⟨b, hb, h⟩ := List.any_eq_true.mp h
  exact List.mem_flatMap.mpr ⟨a, ha, List.mem_map.mpr ⟨b, hb, eq_of_beq h⟩⟩

theorem decode_dotSpellings :
    ∀ t ∈ dotSpellings, Percent.decode t = ['.'] ∨ Percent.decode t = ['.', '.'] := by
  decide +kernel

/-- An escaped name is no dots. -/
theorem isDots_encode {name : List Char} (h : IsSegment name) :
    isDots (Percent.encode name) = false := by
  rw [← Bool.not_eq_true]
  intro hdots
  have hdecode := decode_dotSpellings _ (mem_dotSpellings hdots)
  rw [Percent.decode_encode] at hdecode
  exact hdecode.elim h.2.1 h.2.2.1

theorem not_dotSpellings_of_padding : ∀ n < 0x21, ∀ t ∈ dotSpellings,
    ¬ escapeWith keepsInPath [Char.ofNat n] <:+ t := by
  decide +kernel

/-- A segment that ends with padding is no dots. -/
theorem isDots_padded {c : Char} (h : isPadding c = true) (cs : List Char) :
    isDots (escapeWith keepsInPath (cs ++ [c])) = false := by
  rw [← Bool.not_eq_true]
  intro hdots
  have hlt : c.toNat < 0x21 := Nat.lt_succ_of_le (of_decide_eq_true h)
  refine not_dotSpellings_of_padding c.toNat hlt _ (mem_dotSpellings hdots) ?_
  rw [Char.ofNat_toNat, escapeWith_append]
  exact List.suffix_append _ _

/-! ## Stems -/

/-- The segments of a text, escaped. -/
def spelled (cs : List Char) : List (List Char) :=
  (Text.splitAt '/' (slashes true cs)).map (escapeWith keepsInPath)

/-- What the path of a text, which starts with a slash, leaves for a path that goes on. -/
def stem : List Char → List Char
  | [] => []
  | _ :: text => joinSegments (settled (spelled text))

/-- Whether the character is a slash of either kind. -/
def isSlash (c : Char) : Bool :=
  c = '/' || c = '\\'

theorem spelled_append (a b : List Char) : spelled (a ++ '/' :: b) = spelled a ++ spelled b := by
  rw [spelled, spelled, spelled, ← List.map_append, ← Text.splitAt_append]
  simp [slashes]

theorem readPath_cons {c : Char} (h : isSlash c = true) (cs : List Char) :
    readPath true (c :: cs) = joinSegments (pathSegmentsFrom [] (spelled cs)) := by
  have hslash : (c = '/' || (true && c = '\\')) = true := h
  rw [readPath, dropSlash, if_pos hslash]
  rfl

theorem joinSegments_append (a b : List (List Char)) :
    joinSegments (a ++ b) = joinSegments a ++ joinSegments b :=
  List.flatMap_append

/-! ## The path of a resource -/

open Repository

theorem escaped_eq (p : ResourcePath) :
    escaped p = joinSegments (p.segments.map Percent.encode) := by
  rw [escaped, joinSegments, List.flatMap_map]

theorem backslash_not_mem_escaped (p : ResourcePath) : '\\' ∉ escaped p := by
  intro h
  obtain ⟨name, -, hmem⟩ := List.mem_flatMap.mp h
  rcases List.mem_cons.mp hmem with h | h
  · exact absurd h (by decide)
  · obtain ⟨-, h | h⟩ := Percent.mem_encode h <;> exact absurd h (by decide)

theorem slashes_eq_self {cs : List Char} (h : '\\' ∉ cs) : slashes true cs = cs :=
  ResourcePath.map_slash_eq_self h

/-- The address of a resource goes on with the names that lead to it. -/
theorem spelled_escaped (p : ResourcePath) {cs : List Char} (h : escaped p = '/' :: cs) :
    spelled cs = p.segments.map Percent.encode := by
  have hslash : '\\' ∉ cs := fun hmem =>
    backslash_not_mem_escaped p (h ▸ List.mem_cons_of_mem _ hmem)
  have hsplit := splitAt_escaped p
  rw [h, Text.splitAt_sep_cons] at hsplit
  rw [spelled, slashes_eq_self hslash, (List.cons.inj hsplit).2, List.map_map]
  exact List.map_congr_left fun name _ => escapeWith_encode name

theorem exists_escaped {p : ResourcePath} (hp : p.isRoot = false) :
    ∃ cs, escaped p = '/' :: cs := by
  have hne : p.segments ≠ [] := fun h => by
    rw [ResourcePath.isRoot_iff.mpr h] at hp
    cases hp
  obtain ⟨name, names, hnames⟩ := List.exists_cons_of_ne_nil hne
  rw [escaped, hnames]
  exact ⟨_, rfl⟩

/-- A path that goes on to a resource keeps its stem. -/
theorem readPath_append {rest : List Char} (h : ∀ c ∈ rest.head?, isSlash c = true)
    {p : ResourcePath} (hp : p.isRoot = false) :
    readPath true (rest ++ escaped p) = stem rest ++ escaped p := by
  obtain ⟨cs, hcs⟩ := exists_escaped hp
  have hsegments := spelled_escaped p hcs
  have hne : p.segments.map Percent.encode ≠ [] := by
    rw [← hsegments, spelled]
    exact mt List.map_eq_nil_iff.mp (Text.splitAt_ne_nil _ _)
  have hplain : ∀ s ∈ p.segments.map Percent.encode, isDots s = false := by
    intro s hs
    obtain ⟨name, hname, rfl⟩ := List.mem_map.mp hs
    exact isDots_encode (p.clean name hname)
  cases rest with
  | nil =>
    have hpath := pathSegmentsFrom_settled [] hne hplain
    rw [List.nil_append] at hpath
    rw [List.nil_append, hcs, readPath_cons (by decide), hsegments, hpath, ← hcs, escaped_eq]
    rfl
  | cons c rest =>
    rw [List.cons_append, readPath_cons (h c rfl), hcs, spelled_append, hsegments,
      pathSegmentsFrom_settled _ hne hplain, joinSegments_append, ← hcs, escaped_eq]
    rfl

/-! ## The end of a stem -/

theorem slash_iff {c : Char} : isSlash c = true ↔ (if c = '\\' then '/' else c) = '/' := by
  unfold isSlash
  split <;> simp [*]

/-- The last segment of a path, which grows with the text up to the next slash. -/
theorem exists_last_segment {c : Char} (h : isSlash c = true) (cs : List Char) :
    ∃ init last, '/' ∉ last ∧ (last = [] ↔ ∃ d ∈ (c :: cs).getLast?, isSlash d = true) ∧
      ∀ more, (∀ d ∈ more, isSlash d = false) →
        spelled (cs ++ more) = init ++ [escapeWith keepsInPath (last ++ more)] := by
  obtain ⟨init, last, hlast, hempty, hsplit⟩ := Text.exists_last_piece '/' (slashes true cs)
  refine ⟨init.map (escapeWith keepsInPath), last, hlast, ?_, fun more hmore => ?_⟩
  · have hslashes : '/' :: slashes true cs = slashes true (c :: cs) := by
      rw [slashes, slashes, if_pos rfl, if_pos rfl, List.map_cons, slash_iff.mp h]
    rw [hempty, hslashes, slashes, if_pos rfl, List.getLast?_map]
    simp [slash_iff]
  · have hplain : slashes true more = more := slashes_eq_self fun hmem =>
      absurd (hmore _ hmem) (by decide)
    have hslash : '/' ∉ more := fun hmem => absurd (hmore _ hmem) (by decide)
    have happend : slashes true (cs ++ more) = slashes true cs ++ slashes true more := by
      rw [slashes, slashes, slashes, if_pos rfl, if_pos rfl, if_pos rfl, List.map_append]
    rw [spelled, happend, hplain, hsplit more hslash, List.map_append]
    rfl

theorem settled_concat_of_not_isDots {last : List Char} (h : isDots last = false)
    (segments : List (List Char)) : settled (segments ++ [last]) = settled segments ++ [last] := by
  rw [settled, List.foldl_append, List.foldl_cons, List.foldl_nil, stepSegment_of_not_isDots h,
    List.reverse_cons]
  rfl

theorem joinSegments_concat (segments : List (List Char)) (last : List Char) :
    joinSegments (segments ++ [last]) = joinSegments segments ++ '/' :: last := by
  rw [joinSegments_append]
  exact congrArg _ (List.append_nil _)

/-- The path of a text is the stem, with a slash after it if the last segment is dots. -/
theorem readPath_eq_stem {rest : List Char} (h : ∀ c ∈ rest.head?, isSlash c = true) :
    readPath true rest = stem rest ∨ readPath true rest = stem rest ++ ['/'] := by
  cases rest with
  | nil => exact Or.inr rfl
  | cons c cs =>
    obtain ⟨init, last, -, -, hspelled⟩ := exists_last_segment (h c rfl) cs
    have hsegments := hspelled [] nofun
    rw [List.append_nil, List.append_nil] at hsegments
    rw [readPath_cons (h c rfl), stem, hsegments, pathSegmentsFrom_concat]
    cases isDots (escapeWith keepsInPath last) with
    | true =>
      rw [if_pos rfl, joinSegments_concat]
      exact Or.inr rfl
    | false =>
      rw [if_neg Bool.false_ne_true, List.append_nil]
      exact Or.inl rfl

/-- A path with a name at its end does not end with a slash. -/
theorem getLast?_append_segment {last : List Char} (h : '/' ∉ last) (path : List Char) :
    (path ++ '/' :: escapeWith keepsInPath last).getLast? = some '/' ↔ last = [] := by
  rw [List.getLast?_append_cons]
  constructor
  · intro hlast
    by_contra hne
    obtain ⟨c, cs, hcs⟩ := List.exists_cons_of_ne_nil (escapeWith_ne_nil hne)
    have hslash := slash_not_mem_escapeWith h
    rw [hcs, List.getLast?_cons_cons] at hlast
    rw [hcs] at hslash
    exact hslash (List.mem_of_getLast? hlast)
  · rintro rfl
    rfl

theorem getLast?_of_two_slashes {path : List Char} (h : "//".toList <:+ path) :
    path.getLast? = some '/' :=
  List.singleton_suffix_iff_getLast?_eq_some.mp
    ((show ['/'] <:+ "//".toList by decide).trans h)

/-- The stem ends with a slash if the text does, or if its path ends with two. -/
theorem getLast?_stem {rest : List Char} (h : ∀ c ∈ rest.head?, isSlash c = true) :
    (stem rest).getLast? = some '/' ↔
      (∃ c ∈ rest.getLast?, isSlash c = true) ∨ "//".toList <:+ readPath true rest := by
  cases rest with
  | nil =>
    refine iff_of_false nofun fun hor => hor.elim (fun ⟨c, hc, _⟩ => by cases hc) ?_
    decide
  | cons c cs =>
    obtain ⟨init, last, hlast, hempty, hspelled⟩ := exists_last_segment (h c rfl) cs
    have hsegments := hspelled [] nofun
    rw [List.append_nil, List.append_nil] at hsegments
    rw [← hempty, readPath_cons (h c rfl), stem, hsegments, pathSegmentsFrom_concat]
    cases hdots : isDots (escapeWith keepsInPath last) with
    | true =>
      have hne : last ≠ [] := by
        rintro rfl
        exact absurd hdots (by decide)
      rw [if_pos rfl, joinSegments_concat, or_iff_right hne]
      generalize joinSegments (settled (init ++ [escapeWith keepsInPath last])) = path
      have htwo : "//".toList = ['/'] ++ ['/'] := rfl
      rw [htwo, List.suffix_append_inj_of_length_eq rfl, and_iff_left rfl,
        List.singleton_suffix_iff_getLast?_eq_some]
    | false =>
      rw [if_neg Bool.false_ne_true, List.append_nil, settled_concat_of_not_isDots hdots,
        joinSegments_concat, getLast?_append_segment hlast]
      exact (or_iff_left_of_imp fun htwo =>
        (getLast?_append_segment hlast _).mp (getLast?_of_two_slashes htwo)).symm

/-! ## The length of a stem -/

theorem length_joinSegments_reverse_cons (s : List Char) (done : List (List Char)) :
    (joinSegments (s :: done).reverse).length =
      (joinSegments done.reverse).length + (s.length + 1) := by
  rw [List.reverse_cons, joinSegments_append, List.length_append]
  exact congrArg _ (congrArg List.length (List.flatMap_singleton _ s))

theorem length_settled_concat (segments : List (List Char)) (last : List Char) :
    (joinSegments (settled (segments ++ [last]))).length ≤
      (joinSegments (settled segments)).length + (last.length + 1) := by
  rw [settled, settled, List.foldl_append, List.foldl_cons, List.foldl_nil]
  generalize segments.foldl stepSegment [] = done
  rw [stepSegment]
  split
  · unfold goBack
    split
    · simp
    · split
      · exact Nat.le_add_right _ _
      · rw [length_joinSegments_reverse_cons]
        omega
  · split
    · omega
    · rw [length_joinSegments_reverse_cons]

theorem isSlash_of_isPadding {c : Char} (h : isPadding c = true) : isSlash c = false := by
  have hle : c.toNat ≤ 0x20 := of_decide_eq_true h
  rw [isSlash, Bool.or_eq_false_iff, decide_eq_false_iff_not, decide_eq_false_iff_not]
  constructor <;> rintro rfl <;> exact absurd hle (by decide)

/-- Padding that is no longer at the end makes a stem longer. -/
theorem length_stem_lt {c : Char} (h : isSlash c = true) (cs : List Char) {padding : List Char}
    (hne : padding ≠ []) (hpadding : ∀ d ∈ padding, isPadding d = true) :
    (stem (c :: cs)).length < (stem (c :: cs ++ padding)).length := by
  obtain ⟨init, last, -, -, hspelled⟩ := exists_last_segment h cs
  have hbefore := hspelled [] nofun
  have hafter := hspelled padding fun d hd => isSlash_of_isPadding (hpadding d hd)
  obtain ⟨more, d, rfl⟩ : ∃ more d, padding = more ++ [d] :=
    ⟨_, _, (List.dropLast_append_getLast hne).symm⟩
  have hd : isPadding d = true := hpadding d (List.mem_append_right _ List.mem_cons_self)
  have hdots : isDots (escapeWith keepsInPath (last ++ (more ++ [d]))) = false := by
    rw [← List.append_assoc]
    exact isDots_padded hd _
  have hlonger : 0 < (escapeWith keepsInPath (more ++ [d])).length :=
    List.length_pos_iff.mpr (escapeWith_ne_nil hne)
  have hle := length_settled_concat init (escapeWith keepsInPath last)
  rw [List.append_nil, List.append_nil] at hbefore
  rw [List.cons_append, stem, stem, hbefore, hafter, settled_concat_of_not_isDots hdots,
    joinSegments_concat, List.length_append, List.length_cons, escapeWith_append,
    List.length_append]
  omega

end Url

end DavCourier
