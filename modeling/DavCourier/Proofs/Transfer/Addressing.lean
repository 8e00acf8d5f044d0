import DavCourier.Proofs.Repository.Address
import DavCourier.Proofs.Transfer.Course
import Mathlib.Data.List.Chain

/-!
# The addresses of an upload

Two names have the same address, as a resource, as a collection or as a reference, if and only if
they are names of one path. Address by address an upload goes down to its file : each collection
that it asks for is the parent of the next one, and the last of them is the one that it probes
(`addresses_by_path`).
-/

namespace DavCourier.Transfer

open Http

variable {r : Repository} {p : ResourcePath}

/-- Each collection that is asked for is the parent of the next one. -/
theorem isChain_creations : (creations r p).IsChain fun a b =>
    ∃ q : ResourcePath, q.isRoot = false ∧ a.url = r.url q.parent ∧ b.url = r.url q := by
  refine List.isChain_map_of_isChain _ ?_ p.parent.isChain_chain
  rintro a b ⟨hb, rfl⟩
  exact ⟨b, hb, rfl, rfl⟩

/-- The last collection that is asked for is the one that was probed. -/
theorem exists_last_creation (h : p.parent.isRoot = false) : ∃ last probe,
    (creations r p).getLast? = some last ∧ probes r p = [probe] ∧ probe.url = last.url ++ "/" := by
  refine ⟨creationRequest (r.url p.parent), probeRequest (r.collectionUrl p.parent) .zero, ?_, ?_,
    r.collectionUrl_eq_append⟩
  · rw [creations, List.getLast?_map, ResourcePath.getLast?_chain h, Option.map_some]
  · rw [probes, h]
    rfl

/-- An address says which path it is the address of, and is the one of the parent with the last
name after it. So are the addresses of the collections on the way to a file. -/
theorem addresses_by_path (r : Repository) :
    (∀ p q : String,
      (r.url (.ofString p) = r.url (.ofString q) ↔
        (ResourcePath.ofString p).toString = (ResourcePath.ofString q).toString) ∧
      (r.collectionUrl (.ofString p) = r.collectionUrl (.ofString q) ↔
        (ResourcePath.ofString p).toString = (ResourcePath.ofString q).toString) ∧
      (r.href (.ofString p) = r.href (.ofString q) ↔
        (ResourcePath.ofString p).toString = (ResourcePath.ofString q).toString)) ∧
    ∀ p : String, (ResourcePath.ofString p).toString ≠ "" →
      r.url (.ofString p) = r.url (.ofString (ResourcePath.ofString p).parent.toString) ++ "/" ++
        String.ofList (Percent.encode (ResourcePath.ofString p).name) ∧
      ((creations r (.ofString p)).IsChain fun a b =>
        ∃ q : ResourcePath, q.isRoot = false ∧ a.url = r.url q.parent ∧ b.url = r.url q) ∧
      ((ResourcePath.ofString p).parent.toString ≠ "" → ∃ last probe,
        (creations r (.ofString p)).getLast? = some last ∧
        probes r (.ofString p) = [probe] ∧ probe.url = last.url ++ "/") := by
  have hroot : ∀ q : ResourcePath, q.toString ≠ "" → q.isRoot = false := fun q hq =>
    Bool.eq_false_iff.mpr fun h => hq (ResourcePath.toString_eq_empty_iff.mpr h)
  refine ⟨fun p q => ?_, fun p hp => ?_⟩
  · rw [ResourcePath.toString_inj]
    exact ⟨r.url_inj, r.collectionUrl_inj, r.href_inj⟩
  · rw [ResourcePath.ofString_toString]
    exact ⟨r.url_eq_append (hroot _ hp), isChain_creations,
      fun hparent => exists_last_creation (hroot _ hparent)⟩

theorem addresses_by_path_spelled :
    (⟨"http://h".toList, []⟩ : Repository).url (.ofString "a b\\x/../ä//c") =
      (⟨"http://h".toList, []⟩ : Repository).url (.ofString "./a b/ä/c") ∧
    (⟨"http://h".toList, []⟩ : Repository).url (.ofString "./a b/ä/c") =
      "http://h/a%20b/%C3%A4" ++ "/" ++ "c" ∧
    ∃ last probe,
      (creations ⟨"http://h".toList, []⟩ (.ofString "./a b/ä/c")).getLast? = some last ∧
      probes ⟨"http://h".toList, []⟩ (.ofString "./a b/ä/c") = [probe] ∧
      probe.url = last.url ++ "/" := by
  obtain ⟨hsame, hsteps⟩ := addresses_by_path ⟨"http://h".toList, []⟩
  obtain ⟨hstep, -, hlast⟩ := hsteps "./a b/ä/c" (by decide +kernel)
  refine ⟨(hsame _ _).1.mpr (by decide +kernel), ?_, hlast (by decide +kernel)⟩
  rw [hstep]
  decide +kernel

end DavCourier.Transfer
