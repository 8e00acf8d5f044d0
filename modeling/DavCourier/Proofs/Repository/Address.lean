import DavCourier.Proofs.ResourcePath
import DavCourier.Proofs.Text.Percent
import DavCourier.Repository.Basic

/-!
# Reading addresses back

The address of a resource says which names lead to it (`namesOf?_url`), with or without the
slash that a collection has at its end (`namesOf?_collectionUrl`). So different resources
have different addresses (`url_injective`), and different references as well (`href_inj`). An
address is the one of the parent with one name more (`url_eq_append`).
-/

namespace DavCourier

theorem Text.splitAt_flatMap {sep : Char} {pieces : List (List Char)}
    (h : ∀ p ∈ pieces, sep ∉ p) :
    splitAt sep (pieces.flatMap fun p => sep :: p) = [] :: pieces := by
  induction pieces with
  | nil => rfl
  | cons p ps ih =>
    have hp : sep ∉ p := h p List.mem_cons_self
    have hps := ih fun q hq => h q (List.mem_cons_of_mem _ hq)
    rw [List.flatMap_cons, List.cons_append, splitAt_sep_cons]
    cases ps with
    | nil => rw [List.flatMap_nil, List.append_nil, splitAt_eq_singleton hp]
    | cons q qs =>
      rw [List.flatMap_cons, List.cons_append, splitAt_sep_cons] at hps
      rw [List.flatMap_cons, List.cons_append, splitAt_append_sep hp, (List.cons.inj hps).2]

theorem dropStart?_append (start cs : List Char) : dropStart? start (start ++ cs) = some cs := by
  rw [dropStart?, if_pos (List.isPrefixOf_iff_prefix.mpr (List.prefix_append start cs)),
    List.drop_left]

theorem eq_append_of_dropStart? {start cs rest : List Char} (h : dropStart? start cs = some rest) :
    cs = start ++ rest := by
  unfold dropStart? at h
  split at h
  · next hprefix =>
    obtain ⟨tail, rfl⟩ := List.isPrefixOf_iff_prefix.mp hprefix
    rw [List.drop_left] at h
    rw [Option.some.inj h]
  · cases h

namespace Repository

/-- The names that lead to a resource, by its address. -/
def namesOf? (r : Repository) (url : String) : Option (List (List Char)) :=
  (dropStart? r.baseUrl url.toList).map fun path =>
    ((Text.splitAt '/' path).filter fun piece => piece ≠ []).map Percent.decode

variable (r : Repository) (p : ResourcePath)

theorem slash_not_mem_pieces : ∀ piece ∈ p.segments.map Percent.encode, '/' ∉ piece := by
  intro piece h
  obtain ⟨s, -, rfl⟩ := List.mem_map.mp h
  exact Percent.slash_not_mem_encode s

theorem pieces_ne_nil : ∀ piece ∈ p.segments.map Percent.encode, piece ≠ [] := by
  intro piece h
  obtain ⟨s, hs, rfl⟩ := List.mem_map.mp h
  exact Percent.encode_ne_nil (p.clean s hs).1

theorem splitAt_escaped :
    Text.splitAt '/' (escaped p) = [] :: p.segments.map Percent.encode := by
  have h := Text.splitAt_flatMap (slash_not_mem_pieces p)
  rw [List.flatMap_map] at h
  exact h

theorem splitAt_escaped_slash : Text.splitAt '/' (escaped p ++ ['/']) =
    [] :: (p.segments.map Percent.encode ++ [[]]) := by
  have hpieces : ∀ piece ∈ p.segments.map Percent.encode ++ [[]], '/' ∉ piece := by
    intro piece h
    rcases List.mem_append.mp h with h | h
    · exact slash_not_mem_pieces p piece h
    · rw [List.mem_singleton.mp h]
      exact List.not_mem_nil
  have h := Text.splitAt_flatMap hpieces
  rw [List.flatMap_append, List.flatMap_map] at h
  exact h

theorem map_decode_encode (names : List (List Char)) :
    (names.map Percent.encode).map Percent.decode = names := by
  rw [List.map_map]
  exact List.map_id'' Percent.decode_encode names

theorem filter_pieces : ((p.segments.map Percent.encode).filter fun piece => piece ≠ []) =
    p.segments.map Percent.encode :=
  List.filter_eq_self.mpr fun piece h => decide_eq_true (pieces_ne_nil p piece h)

/-- The address of a resource says where it is. -/
theorem namesOf?_url : r.namesOf? (r.url p) = some p.segments := by
  have hchars : (r.url p).toList = r.baseUrl ++ escaped p := String.toList_ofList
  rw [namesOf?, hchars, dropStart?_append, Option.map_some, splitAt_escaped,
    List.filter_cons_of_neg (by simp), filter_pieces, map_decode_encode]

/-- So does the address of a collection. -/
theorem namesOf?_collectionUrl : r.namesOf? (r.collectionUrl p) = some p.segments := by
  have hchars : (r.collectionUrl p).toList = r.baseUrl ++ (escaped p ++ ['/']) := by
    rw [← List.append_assoc]
    exact String.toList_ofList
  rw [namesOf?, hchars, dropStart?_append, Option.map_some, splitAt_escaped_slash,
    List.filter_cons_of_neg (by simp), List.filter_append, filter_pieces,
    List.filter_cons_of_neg (by simp), List.filter_nil, List.append_nil, map_decode_encode]

/-- Different resources have different addresses. -/
theorem url_injective {p q : ResourcePath} (h : r.url p = r.url q) : p = q := by
  have hp := r.namesOf?_url p
  rw [h, namesOf?_url] at hp
  exact (ResourcePath.ext_segments (Option.some.inj hp)).symm

/-! ## Resources by their addresses -/

section

variable {p q : ResourcePath}

theorem url_inj : r.url p = r.url q ↔ p = q :=
  ⟨r.url_injective, fun h => h ▸ rfl⟩

theorem collectionUrl_inj : r.collectionUrl p = r.collectionUrl q ↔ p = q := by
  refine ⟨fun h => ?_, fun h => h ▸ rfl⟩
  have hp := r.namesOf?_collectionUrl p
  rw [h, namesOf?_collectionUrl] at hp
  exact (ResourcePath.ext_segments (Option.some.inj hp)).symm

theorem escaped_inj : escaped p = escaped q ↔ p = q := by
  refine ⟨fun h => ?_, fun h => h ▸ rfl⟩
  have hp := splitAt_escaped p
  rw [h, splitAt_escaped] at hp
  have hsegments := congrArg (List.map Percent.decode) (List.cons.inj hp).2
  rw [map_decode_encode, map_decode_encode] at hsegments
  exact (ResourcePath.ext_segments hsegments).symm

/-- The reference of the root is that of nothing else : below it a name follows the slash. -/
theorem escaped_ne_slash (p : ResourcePath) : escaped p ≠ ['/'] := by
  intro h
  have hsplit := splitAt_escaped p
  rw [h] at hsplit
  refine pieces_ne_nil p [] ?_ rfl
  rw [← (List.cons.inj hsplit).2]
  decide

theorem href_inj : r.href p = r.href q ↔ p = q := by
  refine ⟨fun h => ?_, fun h => h ▸ rfl⟩
  rw [href, href, String.ofList_inj, hrefChars, hrefChars] at h
  by_cases hp : p.isRoot = true <;> by_cases hq : q.isRoot = true <;>
    simp only [hp, hq, if_true, if_false, Bool.false_eq_true, List.append_cancel_left_eq] at h
  · rw [ResourcePath.isRoot_iff] at hp hq
    exact ResourcePath.ext_segments (hp.trans hq.symm)
  · exact absurd h.symm (escaped_ne_slash q)
  · exact absurd h (escaped_ne_slash p)
  · exact escaped_inj.mp h

/-- The address of a resource is the one of its parent with its name, escaped, after a slash. -/
theorem url_eq_append (h : p.isRoot = false) :
    r.url p = r.url p.parent ++ "/" ++ String.ofList (Percent.encode p.name) := by
  have hescaped : escaped p = escaped p.parent ++ '/' :: Percent.encode p.name := by
    rw [escaped, ResourcePath.segments_eq_concat h, List.flatMap_append, List.flatMap_singleton]
    rfl
  rw [← String.toList_inj]
  simp [url, hescaped]

theorem collectionUrl_eq_append : r.collectionUrl p = r.url p ++ "/" := by
  rw [← String.toList_inj]
  simp [url, collectionUrl]

end

end Repository

end DavCourier
