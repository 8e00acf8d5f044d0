import DavCourier.Proofs.Repository.Address
import DavCourier.Proofs.ResourcePath.Written

/-!
# Escaped paths

`encodePath` escapes the pieces of a text between its slashes and leaves the slashes where they
are. It is what an address and a reference have after their base (`toList_url`, `toList_href`).
Reading works on the whole text at once and still reads every piece for itself, as no escape
reaches over a slash : `encodePath_spells`.
-/

namespace DavCourier

namespace Percent

/-- Escapes what stands between the slashes. -/
def encodePath (cs : List Char) : List Char :=
  Text.join '/' ((Text.splitAt '/' cs).map encode)

/-- The pieces of an escaped path are the escaped pieces. -/
theorem splitAt_encodePath (cs : List Char) :
    Text.splitAt '/' (encodePath cs) = (Text.splitAt '/' cs).map encode := by
  refine Text.splitAt_join (mt List.map_eq_nil_iff.mp (Text.splitAt_ne_nil '/' cs)) fun piece h => ?_
  obtain ⟨name, -, rfl⟩ := List.mem_map.mp h
  exact slash_not_mem_encode name

theorem count_encodePath (cs : List Char) : (encodePath cs).count '/' = cs.count '/' := by
  have hlen := Text.length_splitAt '/' (encodePath cs)
  rw [splitAt_encodePath, List.length_map, Text.length_splitAt] at hlen
  exact (Nat.succ.inj hlen).symm

theorem isEscaped_of_mem_splitAt {cs piece : List Char}
    (h : piece ∈ Text.splitAt '/' (encodePath cs)) : IsEscaped piece := by
  rw [splitAt_encodePath] at h
  obtain ⟨name, -, rfl⟩ := List.mem_map.mp h
  exact isEscaped_encode name

theorem reads_join (pieces : List (List Char)) :
    Reads (Text.join '/' (pieces.map encode)) (Text.join '/' pieces) := by
  induction pieces with
  | nil => exact Reads.nil
  | cons piece pieces ih =>
    cases pieces with
    | nil => exact reads_encode piece
    | cons next rest =>
      rw [List.map_cons, Text.join_cons '/' _ (by simp), Text.join_cons '/' _ (by simp)]
      exact (reads_encode piece).append ih

theorem reads_encodePath (cs : List Char) : Reads (encodePath cs) cs := by
  have hreads := reads_join (Text.splitAt '/' cs)
  rwa [Text.join_splitAt] at hreads

end Percent

namespace Repository

variable (r : Repository) {p : ResourcePath}

/-- Below the root a slash and the escaped text of the path follow the base of an address. -/
theorem escaped_eq_encodePath (h : p.isRoot = false) :
    escaped p = '/' :: Percent.encodePath p.toChars := by
  have hne : p.segments ≠ [] := fun hnil => by
    rw [ResourcePath.isRoot_iff.mpr hnil] at h
    cases h
  have hpieces : Text.splitAt '/' p.toChars = p.segments :=
    Text.splitAt_join hne fun s hs => (p.clean s hs).2.2.2.1
  have hjoin := Text.join_splitAt '/' (escaped p)
  rw [splitAt_escaped, Text.join_cons '/' _ (mt List.map_eq_nil_iff.mp hne)] at hjoin
  rw [← hjoin, Percent.encodePath, hpieces]
  rfl

theorem toList_url {name : String} (h : ResourcePath.normalForm name ≠ "") :
    (r.url (.ofString name)).toList =
      r.baseUrl ++ '/' :: Percent.encodePath (ResourcePath.normalForm name).toList := by
  rw [url, String.toList_ofList, escaped_eq_encodePath (ResourcePath.isRoot_ofString h),
    ResourcePath.normalForm, ResourcePath.toString, String.toList_ofList]

theorem toList_href {name : String} (h : ResourcePath.normalForm name ≠ "") :
    (r.href (.ofString name)).toList =
      r.basePath ++ '/' :: Percent.encodePath (ResourcePath.normalForm name).toList := by
  have hroot := ResourcePath.isRoot_ofString h
  rw [href, String.toList_ofList, hrefChars, if_neg (by rw [hroot]; exact Bool.false_ne_true),
    escaped_eq_encodePath hroot, ResourcePath.normalForm, ResourcePath.toString,
    String.toList_ofList]

end Repository

namespace Percent

/-- An escaped path is read back, has plain characters and escapes between its slashes, and has
as many of these as the path. Texts on both sides of a slash are read one by one, whatever is left
of an escape before it. Addresses and references are written in this way. -/
theorem encodePath_spells :
    (∀ cs, decode (encodePath cs) = cs ∧
      (∀ piece ∈ Text.splitAt '/' (encodePath cs), IsEscaped piece) ∧
      (encodePath cs).count '/' = cs.count '/') ∧
    (∀ x y, (∃ a, Reads x a) → (∃ b, Reads y b) →
      decode (x ++ '/' :: y) = decode x ++ '/' :: decode y) ∧
    ∀ (r : Repository) (name : String), ResourcePath.normalForm name ≠ "" →
      (r.url (.ofString name)).toList =
        r.baseUrl ++ '/' :: encodePath (ResourcePath.normalForm name).toList ∧
      (r.href (.ofString name)).toList =
        r.basePath ++ '/' :: encodePath (ResourcePath.normalForm name).toList := by
  refine ⟨fun cs => ⟨(reads_encodePath cs).decode_eq, fun piece => isEscaped_of_mem_splitAt,
    count_encodePath cs⟩, ?_, fun r name h => ⟨r.toList_url h, r.toList_href h⟩⟩
  rintro x y ⟨a, hx⟩ ⟨b, hy⟩
  rw [(hx.append hy).decode_eq, hx.decode_eq, hy.decode_eq]

/-- The escape before the slash is not complete, and the digit after it does not complete it. -/
theorem encodePath_spells_cut :
    Reads "%C3%A4%4".toList "ä%4".toList ∧ Reads "1%zz%2F".toList "1%zz/".toList ∧
      decode "%C3%A4%4/1%zz%2F".toList = "ä%4".toList ++ '/' :: "1%zz/".toList ∧
      ResourcePath.normalForm "x/..\\ä//c" = "ä/c" ∧
      ((⟨"http://h".toList, []⟩ : Repository).url (.ofString "x/..\\ä//c")).toList =
        "http://h/%C3%A4/c".toList := by
  have hx : Reads "%C3%A4%4".toList "ä%4".toList := by decide +kernel
  have hy : Reads "1%zz%2F".toList "1%zz/".toList := by decide +kernel
  have hform : ResourcePath.normalForm "x/..\\ä//c" = "ä/c" := by decide +kernel
  obtain ⟨-, hcut, haddress⟩ := encodePath_spells
  have hdecode := hcut "%C3%A4%4".toList "1%zz%2F".toList ⟨_, hx⟩ ⟨_, hy⟩
  rw [hx.decode_eq, hy.decode_eq] at hdecode
  have hurl := (haddress ⟨"http://h".toList, []⟩ "x/..\\ä//c" (by rw [hform]; decide)).1
  rw [hform] at hurl
  exact ⟨hx, hy, hdecode, hform, hurl.trans (by decide +kernel)⟩

end Percent

end DavCourier
