import DavCourier.Proofs.Text.Split
import DavCourier.ResourcePath
import Mathlib.Data.List.Nodup

/-!
# The places on the way to a resource

`chain_drop` takes the chain of a path apart, in which each path is the parent of the next one
(`isChain_chain`), and `ne_of_prefix_parent` tells a path from the places on the way to it. Names
with a slash between each two lead down from a place (`segments_resolve_join`), and what is written
after a name leads on from where the name leads (`ofChars_append`). The text of a path leads to it
again (`ofString_toString`), so different paths have different texts.
-/

namespace DavCourier.ResourcePath

theorem chain_drop {p : ResourcePath} {n : Nat} (h : n < p.segments.length) :
    p.chain.drop n = p.take (n + 1) :: p.chain.drop (n + 1) := by
  have hlen : n < p.chain.length := by
    rw [chain, List.length_map, List.length_range]
    exact h
  rw [List.drop_eq_getElem_cons hlen]
  simp [chain]

theorem chain_drop_length (p : ResourcePath) : p.chain.drop p.segments.length = [] := by
  simp [chain]

theorem length_chain (p : ResourcePath) : p.chain.length = p.segments.length := by
  rw [chain, List.length_map, List.length_range]

theorem nodup_chain (p : ResourcePath) : p.chain.Nodup := by
  refine List.Nodup.map_on (fun m hm n hn heq => ?_) List.nodup_range
  rw [List.mem_range] at hm hn
  have hlen := congrArg (fun q : ResourcePath => q.segments.length) heq
  simp only [take, List.length_take] at hlen
  omega

theorem dropLast_take_succ {p : ResourcePath} {n : Nat} (h : n < p.segments.length) :
    (p.take (n + 1)).segments.dropLast = p.segments.take n := by
  rw [take, List.dropLast_eq_take, List.length_take, List.take_take]
  congr 1
  omega

theorem isRoot_iff {p : ResourcePath} : p.isRoot = true ↔ p.segments = [] :=
  List.isEmpty_iff

theorem parent_onWay (p : ResourcePath) : p.parent.segments <+: p.segments :=
  List.dropLast_prefix _

/-- The places up to the parent are on the way to a path but not its end. -/
theorem ne_of_prefix_parent {p : ResourcePath} (h : p.isRoot = false) {l : List (List Char)}
    (hl : l <+: p.parent.segments) : l ≠ p.segments := by
  rintro rfl
  have hlen := hl.length_le
  rw [parent, List.length_dropLast] at hlen
  have hnil : p.segments = [] := List.length_eq_zero_iff.mp (by omega)
  rw [isRoot_iff.mpr hnil] at h
  cases h

theorem parent_ne {p : ResourcePath} (h : p.isRoot = false) :
    p.parent.segments ≠ p.segments :=
  ne_of_prefix_parent h (List.prefix_refl _)

/-! ## Names below a place -/

theorem map_slash_eq_self {cs : List Char} (h : '\\' ∉ cs) : cs.map slash = cs := by
  have hid : cs.map slash = cs.map id := by
    refine List.map_congr_left fun c hc => if_neg ?_
    rintro rfl
    exact h hc
  rw [hid, List.map_id]

theorem pieces_join {names : List (List Char)} (hne : names ≠ [])
    (h : ∀ name ∈ names, IsSegment name) : pieces (Text.join '/' names) = names := by
  have hslash : '\\' ∉ Text.join '/' names := by
    intro hmem
    rcases Text.mem_join hmem with heq | ⟨name, hname, hmem⟩
    · cases heq
    · exact (h name hname).2.2.2.2 hmem
  rw [pieces, map_slash_eq_self hslash]
  exact Text.splitAt_join hne fun name hname => (h name hname).2.2.2.1

theorem foldl_step_segments {names stack : List (List Char)} (h : ∀ name ∈ names, IsSegment name) :
    names.foldl step stack = names.reverse ++ stack := by
  induction names generalizing stack with
  | nil => rfl
  | cons name names ih =>
    obtain ⟨hempty, hdot, hdots, -⟩ := h name List.mem_cons_self
    have hstep : step stack name = name :: stack := by
      rw [step, if_neg (not_or.mpr ⟨hempty, hdot⟩), if_neg hdots]
    rw [List.foldl_cons, hstep, ih fun n hn => h n (List.mem_cons_of_mem _ hn),
      List.reverse_cons, List.append_assoc, List.singleton_append]

/-- Names with a slash between each two lead to what they name below a place. -/
theorem segments_resolve_join (p : ResourcePath) {names : List (List Char)} (hne : names ≠ [])
    (h : ∀ name ∈ names, IsSegment name) :
    (p.resolve (Text.join '/' names)).segments = p.segments ++ names := by
  rw [resolve]
  dsimp only
  rw [pieces_join hne h, foldl_step_segments h, List.reverse_append, List.reverse_reverse,
    List.reverse_reverse]

theorem pieces_append (cs ds : List Char) :
    pieces (cs ++ '/' :: ds) = pieces cs ++ pieces ds := by
  rw [pieces, List.map_append, List.map_cons]
  exact Text.splitAt_append '/' _ _

/-- What is written after a name leads on from where the name leads. -/
theorem ofChars_append (cs ds : List Char) :
    ofChars (cs ++ '/' :: ds) = (ofChars cs).resolve ds := by
  refine ext_segments ?_
  rw [ofChars, ofChars, resolve, resolve, resolve]
  dsimp only
  rw [pieces_append, List.foldl_append, List.reverse_reverse]

/-- A name after a written path leads to one step below it. -/
theorem segments_ofChars_append (cs : List Char) {name : List Char} (h : IsSegment name) :
    (ofChars (cs ++ '/' :: name)).segments = (ofChars cs).segments ++ [name] := by
  rw [ofChars_append]
  exact segments_resolve_join _ (List.cons_ne_nil _ _) (List.forall_mem_singleton.mpr h)

/-- What is there stays where no step goes back. -/
theorem foldl_step_append {ps : List (List Char)} (h : ['.', '.'] ∉ ps)
    (top bottom : List (List Char)) :
    ps.foldl step (top ++ bottom) = ps.foldl step top ++ bottom := by
  induction ps generalizing top with
  | nil => rfl
  | cons p ps ih =>
    rw [List.mem_cons, not_or] at h
    obtain ⟨hp, hps⟩ := h
    have hstep : step (top ++ bottom) p = step top p ++ bottom := by
      unfold step
      rw [if_neg (Ne.symm hp), if_neg (Ne.symm hp)]
      split <;> rfl
    rw [List.foldl_cons, List.foldl_cons, hstep, ih hps]

/-- A text without steps back leads down from a place as it leads down from the root. -/
theorem segments_resolve (p : ResourcePath) {cs : List Char} (h : ['.', '.'] ∉ pieces cs) :
    (p.resolve cs).segments = p.segments ++ (ofChars cs).segments := by
  have hfold := foldl_step_append h [] p.segments.reverse
  rw [List.nil_append] at hfold
  rw [ofChars, resolve, resolve]
  dsimp only
  rw [hfold, List.reverse_append, List.reverse_reverse]
  rfl

/-! ## Written paths -/

/-- A path is what its text leads to. -/
theorem ofChars_toChars (p : ResourcePath) : ofChars p.toChars = p := by
  refine ext_segments ?_
  by_cases hroot : p.segments = []
  · rw [toChars, hroot]
    rfl
  · rw [ofChars, toChars, segments_resolve_join root hroot p.clean]
    rfl

/-- What is written after a path leads on from it. -/
theorem ofChars_toChars_append (p : ResourcePath) (cs : List Char) :
    ofChars (p.toChars ++ '/' :: cs) = p.resolve cs := by
  rw [ofChars_append, ofChars_toChars]

theorem ofString_toString (p : ResourcePath) : ofString p.toString = p := by
  rw [ofString, ResourcePath.toString, String.toList_ofList, ofChars_toChars]

theorem toString_inj {p q : ResourcePath} : p.toString = q.toString ↔ p = q := by
  refine ⟨fun h => ?_, fun h => h ▸ rfl⟩
  rw [← ofString_toString p, h, ofString_toString]

theorem toString_eq_empty_iff {p : ResourcePath} : p.toString = "" ↔ p.isRoot = true := by
  have hroot : root.toString = "" := rfl
  rw [← hroot, toString_inj, isRoot_iff]
  exact ⟨fun h => h ▸ rfl, fun h => ext_segments h⟩

/-- A path but the root is its parent with its name below it. -/
theorem segments_eq_concat {p : ResourcePath} (h : p.isRoot = false) :
    p.segments = p.parent.segments ++ [p.name] := by
  have hne : p.segments ≠ [] := fun hnil => by
    rw [isRoot_iff.mpr hnil] at h
    cases h
  have hname : p.name = p.segments.getLast hne := by
    rw [name, List.getLast?_eq_some_getLast hne, Option.getD_some]
  rw [parent, hname, List.dropLast_append_getLast]

/-- Each path of the chain is the parent of the next one. -/
theorem isChain_chain (p : ResourcePath) :
    p.chain.IsChain fun a b => b.isRoot = false ∧ b.parent = a := by
  rw [List.isChain_iff_getElem]
  intro i hi
  have hlen : i + 1 < p.segments.length := by simpa [chain] using hi
  have hne : p.segments ≠ [] := List.ne_nil_of_length_pos (by omega)
  have hparent := dropLast_take_succ (p := p) hlen
  refine ⟨by simp [chain, isRoot, take, hne], ext_segments ?_⟩
  simpa [chain, parent, take] using hparent

/-- The chain ends with the path. -/
theorem getLast?_chain {p : ResourcePath} (h : p.isRoot = false) : p.chain.getLast? = some p := by
  have hne : p.segments.length ≠ 0 := fun hzero => by
    rw [isRoot_iff.mpr (List.length_eq_zero_iff.mp hzero)] at h
    cases h
  have htake : p.take (p.segments.length - 1 + 1) = p := by
    refine ext_segments ?_
    rw [Nat.sub_add_cancel (Nat.one_le_iff_ne_zero.mpr hne)]
    exact List.take_length
  rw [chain, List.getLast?_map, List.getLast?_range, if_neg hne, Option.map_some, htake]

end DavCourier.ResourcePath
