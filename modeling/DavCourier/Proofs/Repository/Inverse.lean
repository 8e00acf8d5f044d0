import DavCourier.Proofs.Repository.Reference

/-!
# Where a reference leads back

A repository reads the references that it writes as the paths that they were written for if and
only if its own path on the server spells a text : `pathOfHref_href_iff`. If it does not, it is not
read at all, and neither is what comes after it, so the names of a path keep their escapes
(`pathOfHref_href_of_not_reads`).
-/

namespace DavCourier.Repository

open Percent
open Url (joinSegments escaped_eq)

variable {r : Repository} {p : ResourcePath}

/-- Below a path on the server that spells no text, a reference is read with its escapes. -/
theorem pathOfHref_href_of_not_reads (hrooted : r.IsRooted)
    (hbase : ¬ ∃ base, Reads r.basePath base) (hp : p.isRoot = false) :
    r.pathOfHref (r.href p) = .ofChars (joinSegments (p.segments.map encode)) := by
  have hhref : (r.href p).toList = [] ++ (r.basePath ++ joinSegments (p.segments.map encode)) := by
    rw [href, hrefChars, hp, if_neg Bool.false_ne_true, escaped_eq]
    exact String.toList_ofList
  exact pathOfHref_of_not_reads hrooted hbase (Or.inl rfl) hhref

/-- With slashes after it, or a scheme and an authority before it, a reference is read back. -/
theorem pathOfHref_spelled (hrooted : r.IsRooted) {base : List Char}
    (hbase : Reads r.basePath base) (p : ResourcePath) {site : List Char} (hsite : IsSite site)
    (n : Nat) :
    r.pathOfHref (String.ofList (site ++ (r.hrefChars p ++ List.replicate n '/'))) = p := by
  obtain ⟨blanks, hblanks, -, hchars⟩ := r.hrefChars_append p n
  refine pathOfHref_of_blanks hrooted hbase hsite hblanks ?_
  rw [String.toList_ofList, hchars]

/-- A repository with accepted settings reads the reference of every resource back if and only if
its path on the server spells a text. Then it does so with any number of slashes after the
reference, and with a scheme and an authority before it. -/
theorem pathOfHref_href_iff {s : Settings} (h : s.validate = .ok ()) :
    ((∀ name, (ofSettings s).pathOfHref ((ofSettings s).href (.ofString name)) = .ofString name) ↔
      ∃ base, Reads (ofSettings s).basePath base) ∧
    ((∃ base, Reads (ofSettings s).basePath base) → ∀ name site n, IsSite site →
      (ofSettings s).pathOfHref (String.ofList
        (site ++ ((ofSettings s).hrefChars (.ofString name) ++ List.replicate n '/'))) =
          .ofString name) := by
  have hrooted : (ofSettings s).IsRooted :=
    isRooted_of_openSession (Transfer.openSession_eq_ok.mpr ⟨h, rfl⟩)
  refine ⟨⟨fun hall => ?_, fun ⟨base, hbase⟩ name => ?_⟩, fun ⟨base, hbase⟩ name site n hsite =>
    pathOfHref_spelled hrooted hbase _ hsite n⟩
  · by_contra hbase
    -- the blank in a name is read as its escape
    have hblank := hall " "
    rw [pathOfHref_href_of_not_reads hrooted hbase (by decide)] at hblank
    exact absurd hblank (by decide)
  · have hhref := pathOfHref_spelled hrooted hbase (.ofString name) (Or.inl rfl) 0
    rwa [List.nil_append, List.replicate_zero, List.append_nil] at hhref

/-- Settings with an escape in their address. -/
def escapedSettings : Settings := { repositoryUrl := "http://h/%C3%A4%/" }

theorem pathOfHref_href_iff_escaped : (ofSettings escapedSettings).pathOfHref
    "https://u@h:1/%C3%A4%/b%2520//" = .ofString "./b%20" := by
  have hback := (pathOfHref_href_iff (s := escapedSettings) (by decide +kernel)).2
    ⟨"/ä%".toList, by decide +kernel⟩ "./b%20" "https://u@h:1".toList 2
    (Or.inr ⟨"u@h:1".toList, by decide, Or.inr rfl⟩)
  have hhref : "https://u@h:1/%C3%A4%/b%2520//" = String.ofList ("https://u@h:1".toList ++
      ((ofSettings escapedSettings).hrefChars (.ofString "./b%20") ++ List.replicate 2 '/')) := by
    decide +kernel
  rw [hhref]
  exact hback

/-- With an address of which the path spells no text, a name may come back with its escapes. -/
example : (ofSettings { repositoryUrl := "http://h/%FF" }).pathOfHref "/%FF/%20" =
    .ofString "%20" := by
  decide +kernel

end DavCourier.Repository
