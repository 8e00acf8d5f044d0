import DavCourier.Proofs.ResourcePath
import Mathlib.Data.List.Chain

/-!
# Names as they are written

A name is any text, and the path that it leads to has a text of its own, the normal form of the
name. Here the parts of a path are taken on its text : the name around another one, its last
name, and the names on the way to it. Cut at its slashes the text of a path falls into the
segments of the path (`segmentsOf_toString`), so what holds of the path holds of the text. A path
is put together from the place around it and its last name, and the chain of the place around it
is its own chain without the last link : `wayTo_descends`.
-/

namespace DavCourier

namespace Text

theorem join_concat (sep : Char) {pieces : List (List Char)} (h : pieces ≠ [])
    (piece : List Char) : join sep (pieces ++ [piece]) = join sep pieces ++ sep :: piece := by
  induction pieces with
  | nil => exact absurd rfl h
  | cons first rest ih =>
    cases rest with
    | nil => rfl
    | cons next rest =>
      rw [List.cons_append, join_cons sep first (by simp), join_cons sep first (by simp),
        ih (by simp), List.append_assoc, List.cons_append]

end Text

namespace ResourcePath

/-- The normal form of a name : the text of the path that it leads to. -/
def normalForm (name : String) : String :=
  (ofString name).toString

/-- The name of the place around the one that a name leads to, empty for the outermost names. -/
def around (name : String) : String :=
  (ofString name).parent.toString

/-- The last step of the way that a name leads. -/
def lastName (name : String) : String :=
  String.ofList (ofString name).name

/-- The names of the places on the way that a name leads, the outermost first. -/
def wayTo (name : String) : List String :=
  (ofString name).chain.map ResourcePath.toString

/-- What stands between the slashes of a text, and nothing for the empty text. -/
def segmentsOf (text : String) : List (List Char) :=
  if text = "" then [] else Text.splitAt '/' text.toList

theorem toString_eq_empty_iff_segments {p : ResourcePath} : p.toString = "" ↔ p.segments = [] :=
  toString_eq_empty_iff.trans isRoot_iff

/-- Cut at its slashes the text of a path falls into its segments. -/
theorem segmentsOf_toString (p : ResourcePath) : segmentsOf p.toString = p.segments := by
  unfold segmentsOf
  split
  · next hempty => rw [toString_eq_empty_iff_segments.mp hempty]
  · next hne =>
    rw [ResourcePath.toString, String.toList_ofList, toChars]
    exact Text.splitAt_join (mt toString_eq_empty_iff_segments.mpr hne)
      fun s hs => (p.clean s hs).2.2.2.1

/-! ## The normal form -/

/-- The normal form leads where the name leads. -/
theorem ofString_normalForm (name : String) : ofString (normalForm name) = ofString name :=
  ofString_toString _

theorem normalForm_toString (p : ResourcePath) : normalForm p.toString = p.toString := by
  rw [normalForm, ofString_toString]

theorem segmentsOf_normalForm (name : String) :
    segmentsOf (normalForm name) = (ofString name).segments :=
  segmentsOf_toString _

theorem isRoot_ofString {name : String} (h : normalForm name ≠ "") :
    (ofString name).isRoot = false :=
  Bool.eq_false_iff.mpr (mt toString_eq_empty_iff.mpr h)

/-! ## The place around a name -/

theorem ofString_around (name : String) : ofString (around name) = (ofString name).parent :=
  ofString_toString _

theorem isSegment_name {p : ResourcePath} (h : p.isRoot = false) : IsSegment p.name := by
  refine p.clean _ ?_
  rw [segments_eq_concat h]
  exact List.mem_append_right _ List.mem_cons_self

/-- A path is put together from the place around it and its last name. -/
theorem toString_eq {p : ResourcePath} (h : p.isRoot = false) :
    p.toString = if p.parent.isRoot then String.ofList p.name
      else p.parent.toString ++ "/" ++ String.ofList p.name := by
  have hchars : p.toChars = Text.join '/' (p.parent.segments ++ [p.name]) := by
    rw [toChars, segments_eq_concat h]
  rw [ResourcePath.toString, hchars]
  split
  · next hroot =>
    rw [isRoot_iff.mp hroot]
    rfl
  · next hroot =>
    rw [Text.join_concat '/' (mt isRoot_iff.mpr hroot), ResourcePath.toString, ← String.toList_inj]
    simp [toChars]

/-! ## The chain of a path -/

/-- The chain starts one step below the root. -/
theorem chain_eq_cons {p : ResourcePath} (h : p.isRoot = false) :
    p.chain = p.take 1 :: p.chain.tail ∧ (p.take 1).segments.length = 1 := by
  have hlen : 0 < p.segments.length :=
    List.length_pos_of_ne_nil fun hnil => by rw [isRoot_iff.mpr hnil] at h; cases h
  have hdrop := chain_drop hlen
  rw [List.drop_zero, List.drop_one] at hdrop
  refine ⟨hdrop, ?_⟩
  rw [take, List.length_take]
  omega

theorem take_parent {p : ResourcePath} {n : Nat} (h : n ≤ p.segments.length - 1) :
    p.parent.take n = p.take n := by
  refine ext_segments ?_
  show p.segments.dropLast.take n = p.segments.take n
  rw [List.dropLast_eq_take, List.take_take, Nat.min_eq_left h]

theorem dropLast_range (n : Nat) : (List.range n).dropLast = List.range (n - 1) := by
  cases n with
  | zero => rfl
  | succ n => rw [List.range_succ, List.dropLast_concat, Nat.add_sub_cancel]

/-- The chain of the place around a path is the chain of the path without its last link. -/
theorem chain_parent (p : ResourcePath) : p.parent.chain = p.chain.dropLast := by
  have hlen : p.parent.segments.length = p.segments.length - 1 := List.length_dropLast
  rw [chain, hlen, chain, ← List.map_dropLast, dropLast_range]
  exact List.map_congr_left fun n hn => take_parent (List.mem_range.mp hn)

/-- A name is the name around it with its last name, and the way to it goes down to it step by
step. -/
theorem wayTo_descends {name : String} (h : normalForm name ≠ "") :
    (lastName name ≠ "" ∧ '/' ∉ (lastName name).toList) ∧
    (around name ≠ "" → normalForm name = around name ++ "/" ++ lastName name) ∧
    (around name = "" → normalForm name = lastName name) ∧
    (wayTo name).length = (segmentsOf (normalForm name)).length ∧ (wayTo name).Nodup ∧
    (∃ first rest, wayTo name = first :: rest ∧ (segmentsOf first).length = 1) ∧
    (wayTo name).IsChain (fun before after => around after = before) ∧
    (wayTo name).getLast? = some (normalForm name) ∧
    (∀ n ∈ wayTo name, normalForm n = n) ∧
    wayTo (around name) = (wayTo name).dropLast := by
  have hroot := isRoot_ofString h
  obtain ⟨hne, -, -, hslash, -⟩ := isSegment_name hroot
  have hwhole := toString_eq hroot
  obtain ⟨hchain, hfirst⟩ := chain_eq_cons hroot
  refine ⟨⟨?_, ?_⟩, fun haround => ?_, fun haround => ?_, ?_, ?_, ⟨((ofString name).take 1).toString,
    (ofString name).chain.tail.map ResourcePath.toString, ?_, ?_⟩, ?_, ?_, ?_, ?_⟩
  · rw [lastName, ne_eq, ← String.toList_inj, String.toList_ofList]
    exact hne
  · rw [lastName, String.toList_ofList]
    exact hslash
  · rw [if_neg (mt toString_eq_empty_iff.mpr haround)] at hwhole
    exact hwhole
  · rw [if_pos (toString_eq_empty_iff.mp haround)] at hwhole
    exact hwhole
  · rw [wayTo, List.length_map, length_chain, segmentsOf_normalForm]
  · exact (nodup_chain _).map fun _ _ => toString_inj.mp
  · rw [wayTo, hchain]
    rfl
  · rw [segmentsOf_toString, hfirst]
  · refine List.isChain_map_of_isChain _ ?_ (isChain_chain _)
    rintro p q ⟨-, rfl⟩
    rw [around, ofString_toString]
  · rw [wayTo, List.getLast?_map, getLast?_chain hroot, Option.map_some, normalForm]
  · intro n hn
    obtain ⟨p, -, rfl⟩ := List.mem_map.mp hn
    exact normalForm_toString p
  · rw [wayTo, ofString_around, chain_parent, List.map_dropLast, wayTo]

theorem wayTo_descends_spelled :
    normalForm "\\a/./b c/../b\\ü" = "a/b/ü" ∧
      wayTo "\\a/./b c/../b\\ü" = ["a", "a/b", "a/b/ü"] ∧
      around "\\a/./b c/../b\\ü" = "a/b" ∧ lastName "\\a/./b c/../b\\ü" = "ü" ∧
      (wayTo "\\a/./b c/../b\\ü").IsChain (fun before after => around after = before) := by
  have hform : normalForm "\\a/./b c/../b\\ü" = "a/b/ü" := by decide +kernel
  have hne : normalForm "\\a/./b c/../b\\ü" ≠ "" := by
    rw [hform]
    decide
  obtain ⟨-, -, -, -, -, -, hchain, -⟩ := wayTo_descends hne
  exact ⟨hform, by decide +kernel, by decide +kernel, by decide +kernel, hchain⟩

end ResourcePath

end DavCourier
