import DavCourier.Proofs.Dav.RoundTrip
import DavCourier.Proofs.Repository.Reference
import DavCourier.Proofs.Transfer.Course
import DavCourier.Transfer.Inquiry

/-!
# The entry that a probe is for

A server may spell the reference of a resource in its own way (`IsSpelling`) : any character
escaped or as it is, with digits in either case, any number of slashes at the end, and maybe a
scheme and an authority before it. The comparable form of a spelling is always that of the
reference that the client writes itself (`comparable_of_isSpelling`, `comparable_href`), so the
entry is found among others with other comparable forms, in whatever order they come
(`targetAmong_of_perm`). What the client makes of the answer is then up to this entry :
`probe_target`.
-/

namespace DavCourier

open Percent
open Url (joinSegments escaped_eq)

/-! ## Spellings of a reference -/

/-- A spelling of the reference of a resource, below a path on the server that is read as
`base`. -/
def IsSpelling (base : List Char) (p : ResourcePath) (href : List Char) : Prop :=
  ∃ site written n, IsSite site ∧
    Spells (base ++ '/' :: p.toChars ++ List.replicate n '/') written ∧
    (site ≠ [] → written.head? = some '/') ∧ href = site ++ written

theorem joinSegments_eq_cons {names : List (List Char)} (h : names ≠ []) :
    joinSegments names = '/' :: Text.join '/' names := by
  induction names with
  | nil => exact absurd rfl h
  | cons name names ih =>
    cases names with
    | nil => simp [joinSegments, Text.join]
    | cons next names =>
      rw [Text.join, ← ih (List.cons_ne_nil _ _)]
      · rfl
      · exact List.cons_ne_nil _ _

/-- A spelling starts with the first character or with an escape. -/
theorem Percent.Spells.head? {c : Char} {cs ws : List Char} (h : Spells (c :: cs) ws) :
    ws.head? = some c ∨ ws.head? = some '%' := by
  cases h with
  | plain hc rest => exact Or.inl rfl
  | @escaped _ _ ws es hes rest =>
    obtain ⟨b, bs, hbytes, -⟩ := Utf8.step_encodeChar c
    rw [hbytes] at hes
    cases hes with
    | cons hb _ =>
      cases hb
      exact Or.inr rfl

namespace Repository

variable {r : Repository} {p : ResourcePath} {base : List Char}

/-- The comparable form of every spelling is the path on the server. -/
theorem comparable_of_isSpelling (hrooted : r.IsRooted) (hbase : Reads r.basePath base)
    {href : List Char} (h : IsSpelling base p href) :
    Href.comparable href = dropSlashes (base ++ '/' :: p.toChars) := by
  obtain ⟨site, written, n, hsite, hspells, hslash, rfl⟩ := h
  have hpath : Href.path (site ++ written) = written := by
    rcases eq_or_ne site [] with rfl | hne
    · obtain ⟨rest, hrest⟩ := exists_cons_of_reads hrooted hbase p.toChars
      rw [hrest, List.cons_append] at hspells
      refine Href.path_eq_self fun c hc => ?_
      rw [List.nil_append, Option.mem_def] at hc
      rcases hspells.head? with hhead | hhead
      all_goals
        cases hc.symm.trans hhead
        decide
    · obtain ⟨rest, rfl⟩ := List.head?_eq_some_iff.mp (hslash hne)
      exact Href.path_append hsite rest
  rw [Href.comparable, hpath, hspells.reads.decode_eq, dropSlashes_append_replicate]

theorem comparable_href (hrooted : r.IsRooted) (hbase : Reads r.basePath base)
    (hp : p.isRoot = false) :
    Href.comparable (r.href p).toList = dropSlashes (base ++ '/' :: p.toChars) := by
  have hne : p.segments ≠ [] := fun hnil => by
    rw [ResourcePath.isRoot_iff.mpr hnil] at hp
    cases hp
  have hhref : (r.href p).toList = [] ++ (r.basePath ++ joinSegments (p.segments.map encode)) := by
    rw [href, hrefChars, hp, if_neg Bool.false_ne_true, escaped_eq]
    exact String.toList_ofList
  have hpath := path_of_names hrooted (Or.inl rfl) (mt List.map_eq_nil_iff.mp hne) hhref
  rw [Href.comparable, hpath, (reads_joinSegments hbase _).decode_eq, joinSegments_eq_cons hne]
  rfl

end Repository

namespace Transfer

open Http Dav

/-- An entry is found by its comparable form when no other has the same. -/
theorem targetAmong_of_perm {entry : Resource} {others es : List Resource} {href : String}
    (hperm : es.Perm (entry :: others))
    (hentry : Href.comparable entry.href.toList = Href.comparable href.toList)
    (hothers : ∀ e ∈ others, Href.comparable e.href.toList ≠ Href.comparable entry.href.toList) :
    targetAmong es href = some entry := by
  have hfind : es.find? (fun e => Href.comparable e.href.toList = Href.comparable href.toList) =
      some entry := by
    cases hfound : es.find? fun e =>
        Href.comparable e.href.toList = Href.comparable href.toList with
    | none =>
      have hmem : entry ∈ es := hperm.mem_iff.mpr List.mem_cons_self
      exact absurd (decide_eq_true hentry) (List.find?_eq_none.mp hfound entry hmem)
    | some e =>
      have hsame : Href.comparable e.href.toList = Href.comparable href.toList := by
        simpa using List.find?_some hfound
      rcases List.mem_cons.mp (hperm.mem_iff.mp (List.mem_of_find?_eq_some hfound)) with rfl | hmem
      · rfl
      · exact absurd (hsame.trans hentry.symm) (hothers e hmem)
  unfold targetAmong
  simp only [hfind]

section

variable {s : Settings} {r : Repository} {base : List Char} {p : ResourcePath}
  {report : MultiStatus} {entry : Resource} {others : List Resource}

/-- The one entry that spells the reference of a resource is found, whatever the order of the
entries. On an answer with it, a collection exists if the entry is one, and nothing is created to
make sure of it. -/
theorem probe_target (hopen : openSession s = .ok r) (hbase : Reads r.basePath base)
    (hp : p.isRoot = false) (hentries : report.entries.Perm (entry :: others))
    (hentry : IsSpelling base p entry.href.toList)
    (hothers : ∀ e ∈ others,
      Href.comparable e.href.toList ≠ Href.comparable entry.href.toList) :
    (∀ es, es.Perm report.entries → targetAmong es (r.href p) = some entry) ∧
    ∀ {σ : Type} (server : σ → Request → Answer × σ) (t : σ) {response : Response},
      (server t (probeRequest (r.collectionUrl p) .zero)).1 = .ok response →
      response.status.code = 207 → MultiStatus.parse response.body = .ok (some report) →
        ((collectionExists r p).run server t).1 = .ok entry.isCollection ∧
        (ensureCollection r p).transcript server t =
          [(probeRequest (r.collectionUrl p) .zero, .ok response)] ∧
        (entry.isCollection = true → ((ensureCollection r p).run server t).1 = .ok ()) ∧
        (entry.isCollection = false → ∃ failure,
          ((ensureCollection r p).run server t).1 = .error failure ∧ failure.kind = .failed) := by
  have hrooted := Repository.isRooted_of_openSession hopen
  have hsame : Href.comparable entry.href.toList = Href.comparable (r.href p).toList := by
    rw [Repository.comparable_of_isSpelling hrooted hbase hentry,
      Repository.comparable_href hrooted hbase hp]
  have htarget : ∀ es, es.Perm report.entries → targetAmong es (r.href p) = some entry :=
    fun es hes => targetAmong_of_perm (hes.trans hentries) hsame hothers
  refine ⟨htarget, fun server t response hserve hcode hbody => ?_⟩
  have hfinding : findingOf (r.collectionUrl p) (.ok response) =
      .ok ⟨response.status, some report⟩ := by
    rw [findingOf, if_pos hcode, hbody]
  have hpresent : (⟨response.status, some report⟩ : Finding).isPresent = true := by
    simp [Finding.isPresent, hcode]
  have hfound : (⟨response.status, some report⟩ : Finding).target? (r.href p) = some entry :=
    htarget _ (.refl _)
  obtain ⟨t', hserver⟩ : ∃ t', server t (probeRequest (r.collectionUrl p) .zero) =
      (.ok response, t') := ⟨_, Prod.ext hserve rfl⟩
  have hafter : afterFinding r p (findingOf (r.collectionUrl p) (.ok response)) =
      if entry.isCollection then .done (.ok ())
      else .done (.error (.occupied (r.collectionUrl p))) := by
    rw [hfinding, afterFinding, if_pos hpresent, hfound]
  refine ⟨?_, ?_, fun hcollection => ?_, fun hfile => ?_⟩
  · rw [collectionExists, Dialogue.run_map, probe, Dialogue.run_map]
    have hsend : ((Dialogue.send (probeRequest (r.collectionUrl p) .zero)).run server t).1 =
        .ok response := hserve
    rw [hsend, hfinding]
    dsimp only
    rw [if_pos hpresent, hfound]
    rfl
  · rw [ensureCollection_eq hp, Dialogue.transcript_ask hserver, hafter]
    split <;> rfl
  · rw [ensureCollection_eq hp, Dialogue.run_ask hserver, hafter, if_pos hcollection]
    rfl
  · refine ⟨.occupied (r.collectionUrl p), ?_, rfl⟩
    rw [ensureCollection_eq hp, Dialogue.run_ask hserver, hafter, hfile,
      if_neg Bool.false_ne_true]
    rfl

end

/-- A repository whose path on the server has an escape. -/
def acuteSettings : Settings := { repositoryUrl := "http://h/%C3%A9" }

/-- An entry for `a b` below this path. -/
def acuteEntry : Resource :=
  { href := "https://x:1/%c3%A9%2Fa b/", isCollection := true, status := 200 }

/-- A report with this entry and one for what is in it. -/
def acuteReport : MultiStatus :=
  .ofList [{ href := "/%C3%A9/a%20b/c" }, acuteEntry]

/-- The answer with that report. -/
def acuteResponse : Response :=
  { status := ⟨207, none⟩, body := Utf8.encodeString acuteReport.render }

theorem probe_target_acute : ∃ r, openSession acuteSettings = .ok r ∧
    targetAmong acuteReport.entries (r.href (.ofString "a b")) = some acuteEntry ∧
    ((collectionExists r (.ofString "a b")).run (constantServer (.ok acuteResponse)) ()).1 =
      .ok true ∧
    ((ensureCollection r (.ofString "a b")).run (constantServer (.ok acuteResponse)) ()).1 =
      .ok () := by
  have hopen : openSession acuteSettings = .ok ⟨"http://h/%C3%A9".toList, "/%C3%A9".toList⟩ := by
    decide +kernel
  have hentry : IsSpelling "/é".toList (.ofString "a b") acuteEntry.href.toList := by
    refine ⟨"https://x:1".toList, "/%c3%A9%2Fa b/".toList, 1,
      Or.inr ⟨"x:1".toList, by decide, Or.inr rfl⟩, ?_, fun _ => rfl, by decide⟩
    have htext : "/é".toList ++ '/' :: (ResourcePath.ofString "a b").toChars ++
        List.replicate 1 '/' = "/é/a b/".toList := by
      decide
    rw [htext]
    have hacute : List.Forall₂ SpellsByte (String.utf8EncodeChar 'é')
        ["%c3".toList, "%A9".toList] :=
      .cons (.escape (by decide) (by decide)) (.cons (.escape (by decide) (by decide)) .nil)
    have hslash : List.Forall₂ SpellsByte (String.utf8EncodeChar '/') ["%2F".toList] :=
      .cons (.escape (by decide) (by decide)) .nil
    exact .plain (by decide) (.escaped hacute (.escaped hslash
      (.plain (by decide) (.plain (by decide) (.plain (by decide) (.plain (by decide) .nil))))))
  have hbody : MultiStatus.parse acuteResponse.body = .ok (some acuteReport) := by
    rw [acuteResponse, MultiStatus.parse_render_eq]
    decide +kernel
  have hbase : Reads "/%C3%A9".toList "/é".toList := by decide +kernel
  have hentries : acuteReport.entries.Perm [acuteEntry, { href := "/%C3%A9/a%20b/c" }] := by
    decide +kernel
  obtain ⟨htarget, hserver⟩ :=
    probe_target hopen hbase (by decide) hentries hentry (by decide +kernel)
  obtain ⟨hexists, -, hensure, -⟩ := hserver (constantServer (.ok acuteResponse)) () rfl rfl hbody
  exact ⟨_, hopen, htarget _ (.refl _), hexists, hensure rfl⟩

end Transfer

end DavCourier
