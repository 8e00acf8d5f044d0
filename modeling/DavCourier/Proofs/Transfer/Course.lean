import DavCourier.Proofs.Transfer.Plan
import DavCourier.Proofs.Transfer.Store
import Mathlib.Data.List.Nodup

/-!
# The course of an upload

What an upload says to a server that may answer anything. `Passes` is the test of its answers :
a probe passes if it shows the collection or that nothing is there, the request for a collection
if it is there afterwards, and the request that stores the file if the status is one of success.
The plan depends on the answer to the probe alone : where nothing is, the collections on the way
come between the probe and the file (`store_follows`). `IsCourse` lists what follows of it, and
`upload_course` says that every upload takes this course.
-/

namespace DavCourier.Transfer

open Http Dav

/-! ## Answers -/

/-- Whether the answer has this status. -/
def hasCode (code : UInt16) : Answer → Bool
  | .ok response => response.status.code = code
  | .error _ => false

/-- The answer shows the collection with this reference : its status alone says so, or it has a
report in which the entry for the reference, if there is one, is a collection. -/
def ShowsCollection (href : String) (answer : Answer) : Prop :=
  hasCode 200 answer = true ∨
    ∃ response report, answer = .ok response ∧ response.status.code = 207 ∧
      MultiStatus.parse response.body = .ok report ∧
      ∀ m entry, report = some m → targetAmong m.entries href = some entry →
        entry.isCollection = true

/-- The collection is there after the answer to the request for it. -/
def SettlesCollection (answer : Answer) : Prop :=
  hasCode 201 answer = true ∨ hasCode 405 answer = true

/-- The status of the answer is one of success. -/
def Succeeds (answer : Answer) : Prop :=
  ∃ response, answer = .ok response ∧ 200 ≤ response.status.code ∧ response.status.code < 300

/-- The answer lets an upload go on, into the collection with this reference. -/
def Passes (href : String) (request : Request) (answer : Answer) : Prop :=
  match request.method with
  | .propfind => ShowsCollection href answer ∨ hasCode 404 answer = true
  | .mkcol => SettlesCollection answer
  | .put => Succeeds answer
  | _ => False

/-! ## Plans -/

section

variable (r : Repository) (p : ResourcePath) (content : Bytes)

/-- The probe of the collection around a file, unless that is the root. -/
def probes : List Request :=
  if p.parent.isRoot then [] else [probeRequest (r.collectionUrl p.parent) .zero]

/-- The requests for the collections on the way to a file, the outermost first. -/
def creations : List Request :=
  p.parent.chain.map fun q => creationRequest (r.url q)

/-- Whether a probe was answered with the status for nothing. -/
def foundNothing (log : List (Request × Answer)) : Bool :=
  log.any fun e => e.1.method = .propfind && hasCode 404 e.2

/-- The requests that store a file, by whether the probe finds nothing. -/
def storePlan (nothing : Bool) : List Request :=
  probes r p ++ (if nothing then creations r p else []) ++ [storeRequest (r.url p) content]

end

/-- What is said by an upload of the content, and its result. -/
structure IsCourse (r : Repository) (p : ResourcePath) (content : Bytes)
    (log : List (Request × Answer)) (result : Except Failure Unit) : Prop where
  /-- A probe, the collections on the way if the probe finds nothing, and the file. -/
  requests : log.map Prod.fst <+: storePlan r p content (foundNothing log)
  once : (log.map Prod.fst).Nodup
  /-- Nothing is said after an answer that does not pass. -/
  pass : ∀ before e f after, log = before ++ e :: f :: after →
    Passes (r.href p.parent) e.1 e.2
  /-- Collections are asked for exactly where the probe finds nothing. -/
  creates : (∃ e ∈ log, e.1.method = .mkcol) ↔ foundNothing log = true
  stores : storeRequest (r.url p) content ∈ log.map Prod.fst ↔
    p.parent.isRoot = true ∨
    ∃ answer, (probeRequest (r.collectionUrl p.parent) .zero, answer) ∈ log ∧
      (ShowsCollection (r.href p.parent) answer ∨
        hasCode 404 answer = true ∧ ∀ q ∈ p.parent.chain, ∃ answer,
          (creationRequest (r.url q), answer) ∈ log ∧ SettlesCollection answer)
  succeeds : result = .ok () ↔
    ∃ answer, (storeRequest (r.url p) content, answer) ∈ log ∧ Succeeds answer

/-! ## The dialogues by their plans -/

variable {r : Repository} {p : ResourcePath} {content : Bytes}

theorem chainOutcome_ofStatus (url : String) (status : Status) :
    (status.code = 201 ∨ status.code = 405 → chainOutcome url (.ofStatus status) = .ok ()) ∧
    (¬ (status.code = 201 ∨ status.code = 405) →
      ∃ failure, chainOutcome url (.ofStatus status) = .error failure) := by
  constructor
  · rintro (h | h) <;> simp [Creation.ofStatus, h, chainOutcome]
  · intro h
    rw [not_or] at h
    rw [Creation.ofStatus, if_neg h.1, if_neg h.2]
    split
    · exact ⟨_, rfl⟩
    · exact ⟨_, rfl⟩

theorem settlesCollection_ok {response : Response} : SettlesCollection (.ok response) ↔
    response.status.code = 201 ∨ response.status.code = 405 := by
  simp [SettlesCollection, hasCode]

/-- Collections are asked for in turn. -/
theorem keepsTo_createChain (href : String) (qs : List ResourcePath) :
    KeepsTo (Passes href) (qs.map fun q => creationRequest (r.url q)) (createChain r qs) := by
  induction qs with
  | nil => exact .done
  | cons q qs ih =>
    refine .ask (fun answer hpass => ?_) fun answer hnot => ?_
    · cases answer with
      | error fault =>
        rcases hpass with h | h <;> cases h
      | ok response =>
        have houtcome :=
          (chainOutcome_ofStatus (r.url q) response.status).1 (settlesCollection_ok.mp hpass)
        dsimp only [Dialogue.bind, Except.map]
        rw [houtcome]
        exact ih
    · cases answer with
      | error fault => exact ⟨_, rfl⟩
      | ok response =>
        obtain ⟨failure, houtcome⟩ := (chainOutcome_ofStatus (r.url q) response.status).2
          fun h => hnot (settlesCollection_ok.mpr h)
        refine ⟨failure, ?_⟩
        dsimp only [Dialogue.bind, Except.map]
        rw [houtcome]

theorem isSuccess_iff {status : Status} :
    status.isSuccess = true ↔ 200 ≤ status.code ∧ status.code < 300 := by
  simp [Status.isSuccess]

/-- Without a status of success no file is stored. -/
theorem putOutcome_of_not_success {status : Status} (url : String)
    (h : ¬ status.isSuccess = true) :
    ∃ failure, putOutcome status url status.isSuccess = .error failure := by
  have hne : ∀ code : UInt16, 200 ≤ code ∧ code < 300 → status.code ≠ code := by
    rintro code hcode rfl
    exact h (isSuccess_iff.mpr hcode)
  have hok : ¬ (status.code = 200 ∨ status.code = 201) := by
    rw [not_or]
    exact ⟨hne 200 (by decide), hne 201 (by decide)⟩
  rw [putOutcome, if_neg hok, if_neg h]
  split
  · exact ⟨_, rfl⟩
  · split
    · exact ⟨_, rfl⟩
    · split <;> exact ⟨_, rfl⟩

/-- A file is stored with one request. -/
theorem keepsTo_putContent (href : String) :
    KeepsTo (Passes href) [storeRequest (r.url p) content] (putContent r p content) := by
  refine .ask (fun answer hpass => ?_) fun answer hnot => ?_
  · obtain ⟨response, rfl, hcode⟩ := hpass
    have houtcome : putOutcome response.status (r.url p) response.status.isSuccess = .ok () :=
      putOutcome_of_success (isSuccess_iff.mpr hcode)
    dsimp only [Dialogue.bind]
    rw [houtcome]
    exact .done
  · cases answer with
    | error fault => exact ⟨_, rfl⟩
    | ok response =>
      have hnot' : ¬ response.status.isSuccess = true :=
        fun h => hnot ⟨response, rfl, isSuccess_iff.mp h⟩
      obtain ⟨failure, houtcome⟩ := putOutcome_of_not_success (r.url p) hnot'
      refine ⟨failure, ?_⟩
      dsimp only [Dialogue.bind]
      rw [houtcome]

theorem exists_of_hasCode {code : UInt16} {answer : Answer} (h : hasCode code answer = true) :
    ∃ response, answer = .ok response ∧ response.status.code = code := by
  cases answer with
  | error fault => cases h
  | ok response => exact ⟨response, rfl, of_decide_eq_true h⟩

/-- Without a report the status alone counts. -/
theorem findingOf_of_ne {url : String} {response : Response} (h : response.status.code ≠ 207) :
    findingOf url (.ok response) = .ok ⟨response.status, none⟩ :=
  if_neg h

/-- What ensures a collection once it is probed. -/
def afterFinding (r : Repository) (p : ResourcePath) :
    Except ExchangeFault Finding → Dialogue (Except Failure Unit)
  | .error fault => .done (.error (.exchange fault))
  | .ok finding =>
    if finding.isPresent then
      match finding.target? (r.href p) with
      | some entry =>
        if entry.isCollection then .done (.ok ()) else .done (.error (.occupied (r.collectionUrl p)))
      | none => .done (.ok ())
    else if finding.isNotFound then createChain r p.chain
    else .done (.error (.ofCollectionStatus finding.status (r.collectionUrl p)))

theorem ensureCollection_eq (h : p.isRoot = false) : ensureCollection r p =
    .ask (probeRequest (r.collectionUrl p) .zero) fun answer =>
      afterFinding r p (findingOf (r.collectionUrl p) answer) := by
  rw [ensureCollection, if_neg (by rw [h]; exact Bool.false_ne_true)]
  rfl

/-- A collection that is shown is ensured. -/
theorem afterFinding_of_shows {answer : Answer} (h : ShowsCollection (r.href p) answer) :
    afterFinding r p (findingOf (r.collectionUrl p) answer) = .done (.ok ()) := by
  rcases h with h | ⟨response, report, rfl, hcode, hparse, hentry⟩
  · obtain ⟨response, rfl, hcode⟩ := exists_of_hasCode h
    have hpresent : (⟨response.status, none⟩ : Finding).isPresent = true := by
      simp [Finding.isPresent, hcode]
    rw [findingOf_of_ne (by rw [hcode]; decide), afterFinding, if_pos hpresent]
    rfl
  · have hpresent : (⟨response.status, report⟩ : Finding).isPresent = true := by
      simp [Finding.isPresent, hcode]
    rw [findingOf, if_pos hcode, hparse]
    dsimp only
    rw [afterFinding, if_pos hpresent]
    split
    · next entry htarget =>
      obtain ⟨m, rfl, htarget⟩ := Option.bind_eq_some_iff.mp htarget
      rw [if_pos (hentry m entry rfl htarget)]
    · rfl

/-- Where nothing is, all collections on the way are asked for. -/
theorem afterFinding_of_nothing {answer : Answer} (h : hasCode 404 answer = true) :
    afterFinding r p (findingOf (r.collectionUrl p) answer) = createChain r p.chain := by
  obtain ⟨response, rfl, hcode⟩ := exists_of_hasCode h
  rw [findingOf_of_ne (by rw [hcode]; decide), afterFinding,
    if_neg (by simp [Finding.isPresent, hcode]), if_pos (by simp [Finding.isNotFound, hcode])]

/-- A report that does not show the collection has an entry for it that is none. -/
theorem exists_target_of_not_shows {href : String} {response : Response}
    {report : Option MultiStatus} (h : ¬ ShowsCollection href (.ok response))
    (hcode : response.status.code = 207) (hparse : MultiStatus.parse response.body = .ok report) :
    ∃ entry, (⟨response.status, report⟩ : Finding).target? href = some entry ∧
      entry.isCollection = false := by
  by_contra hnone
  refine h (Or.inr ⟨response, report, rfl, hcode, hparse, ?_⟩)
  rintro m entry rfl htarget
  by_contra hentry
  exact hnone ⟨entry, htarget, Bool.eq_false_iff.mpr hentry⟩

theorem afterFinding_of_not {answer : Answer} (hshows : ¬ ShowsCollection (r.href p) answer)
    (hnothing : hasCode 404 answer ≠ true) : ∃ failure,
      afterFinding r p (findingOf (r.collectionUrl p) answer) = .done (.error failure) := by
  cases answer with
  | error fault => exact ⟨_, rfl⟩
  | ok response =>
    by_cases hcode : response.status.code = 207
    · rw [findingOf, if_pos hcode]
      cases hparse : MultiStatus.parse response.body with
      | error fault => exact ⟨_, rfl⟩
      | ok report =>
        obtain ⟨entry, htarget, hentry⟩ := exists_target_of_not_shows hshows hcode hparse
        dsimp only
        rw [afterFinding, if_pos (by simp [Finding.isPresent, hcode]), htarget]
        dsimp only
        rw [if_neg (by rw [hentry]; exact Bool.false_ne_true)]
        exact ⟨_, rfl⟩
    · have h200 : response.status.code ≠ 200 := fun heq => hshows (Or.inl (decide_eq_true heq))
      have h404 : response.status.code ≠ 404 := fun heq => hnothing (decide_eq_true heq)
      rw [findingOf_of_ne hcode, afterFinding,
        if_neg (by simp [Finding.isPresent, hcode, h200]),
        if_neg (by simp [Finding.isNotFound, h404])]
      exact ⟨_, rfl⟩

/-! ## Storing a file -/

theorem not_hasCode_of_shows {href : String} {answer : Answer} (h : ShowsCollection href answer) :
    hasCode 404 answer ≠ true := by
  intro h404
  obtain ⟨response, rfl, hcode⟩ := exists_of_hasCode h404
  rcases h with h | ⟨_, _, heq, hcode', -⟩
  · obtain ⟨_, heq, hcode'⟩ := exists_of_hasCode h
    cases heq
    rw [hcode] at hcode'
    exact absurd hcode' (by decide)
  · cases heq
    rw [hcode] at hcode'
    exact absurd hcode' (by decide)

/-- Below a collection that has to be probed, the plan depends on the answer to the probe. -/
theorem store_probe (content : Bytes) (h : p.isRoot = false) (hparent : p.parent.isRoot = false) :
    ∃ next, store r p content = .ask (probeRequest (r.collectionUrl p.parent) .zero) next ∧
      (∀ answer, Passes (r.href p.parent) (probeRequest (r.collectionUrl p.parent) .zero) answer →
        KeepsTo (Passes (r.href p.parent))
          ((if hasCode 404 answer then creations r p else []) ++
            [storeRequest (r.url p) content]) (next answer)) ∧
      ∀ answer, ¬ Passes (r.href p.parent) (probeRequest (r.collectionUrl p.parent) .zero) answer →
        ∃ failure, next answer = .done (.error failure) := by
  refine ⟨fun answer => (afterFinding r p.parent (findingOf (r.collectionUrl p.parent)
    answer)).bind (finish r p content), ?_, fun answer hpass => ?_, fun answer hnot => ?_⟩
  · rw [store_eq h, ensureCollection_eq hparent]
    rfl
  · dsimp only
    rcases hpass with hshows | hnothing
    · rw [if_neg (not_hasCode_of_shows hshows), afterFinding_of_shows hshows]
      exact keepsTo_putContent _
    · rw [if_pos hnothing, afterFinding_of_nothing hnothing]
      exact (keepsTo_createChain _ _).bind (fun _ => rfl) (keepsTo_putContent _)
  · obtain ⟨failure, hdone⟩ := afterFinding_of_not (fun hshows => hnot (Or.inl hshows))
      fun hnothing => hnot (Or.inr hnothing)
    dsimp only
    rw [hdone]
    exact ⟨failure, rfl⟩

variable {σ : Type} {server : σ → Request → Answer × σ}

theorem creations_of_isRoot (hparent : p.parent.isRoot = true) : creations r p = [] := by
  rw [creations, ResourcePath.chain, ResourcePath.isRoot_iff.mp hparent]
  rfl

theorem mem_creations {request : Request} (h : request ∈ creations r p) :
    ∃ q ∈ p.parent.chain, request = creationRequest (r.url q) := by
  obtain ⟨q, hq, rfl⟩ := List.mem_map.mp h
  exact ⟨q, hq, rfl⟩

/-- After the probe nothing is probed. -/
theorem method_ne_propfind {nothing : Bool} {request : Request}
    (h : request ∈ (if nothing then creations r p else []) ++ [storeRequest (r.url p) content]) :
    request.method ≠ .propfind := by
  rcases List.mem_append.mp h with h | h
  · split at h
    · obtain ⟨q, -, rfl⟩ := mem_creations h
      exact nofun
    · cases h
  · rw [List.mem_singleton.mp h]
    exact nofun

theorem foundNothing_eq_false {log : List (Request × Answer)}
    (h : ∀ e ∈ log, e.1.method ≠ .propfind) : foundNothing log = false := by
  rw [foundNothing, List.any_eq_false]
  intro e he
  simp [h e he]

/-- Whatever the server says, storing a file follows the plan. It succeeds if and only if all
answers pass. -/
theorem store_follows (r : Repository) (content : Bytes) (h : p.isRoot = false)
    (server : σ → Request → Answer × σ) (s : σ) :
    Follows (Passes (r.href p.parent))
        (storePlan r p content (foundNothing ((store r p content).transcript server s)))
        ((store r p content).transcript server s) ∧
      (((store r p content).run server s).1 = .ok () ↔
        ∀ e ∈ (store r p content).transcript server s, Passes (r.href p.parent) e.1 e.2) := by
  cases hparent : p.parent.isRoot with
  | true =>
    have hplan : ∀ nothing, storePlan r p content nothing = [storeRequest (r.url p) content] := by
      intro nothing
      rw [storePlan, probes, if_pos hparent, creations_of_isRoot hparent, ite_self]
      rfl
    rw [hplan, store_of_isRoot h hparent]
    exact (keepsTo_putContent _).follows server s
  | false =>
    obtain ⟨next, hask, hpass, hfail⟩ := store_probe content h hparent
    obtain ⟨answer, s', hserve⟩ : ∃ answer s',
        server s (probeRequest (r.collectionUrl p.parent) .zero) = (answer, s') := ⟨_, _, rfl⟩
    have hprobes : probes r p = [probeRequest (r.collectionUrl p.parent) .zero] :=
      if_neg (by rw [hparent]; exact Bool.false_ne_true)
    rw [hask, Dialogue.run_ask hserve, Dialogue.transcript_ask hserve, storePlan, hprobes]
    by_cases hanswer :
        Passes (r.href p.parent) (probeRequest (r.collectionUrl p.parent) .zero) answer
    · obtain ⟨hfollows, hiff⟩ := (hpass answer hanswer).follows server s'
      have hrest : foundNothing ((next answer).transcript server s') = false :=
        foundNothing_eq_false fun e he =>
          method_ne_propfind (hfollows.requests.subset (List.mem_map_of_mem he))
      have hnothing : foundNothing ((probeRequest (r.collectionUrl p.parent) .zero, answer) ::
          (next answer).transcript server s') = hasCode 404 answer := by
        rw [foundNothing, List.any_cons]
        exact (congrArg _ hrest).trans (Bool.or_false _)
      rw [hnothing, List.forall_mem_cons, hiff]
      exact ⟨.pass hanswer hfollows, (and_iff_right hanswer).symm⟩
    · obtain ⟨failure, hdone⟩ := hfail answer hanswer
      rw [hdone]
      exact ⟨.fail hanswer, nofun, fun hall => absurd (hall _ List.mem_cons_self) hanswer⟩

/-! ## The course -/

theorem nodup_creations (r : Repository) (p : ResourcePath) : (creations r p).Nodup := by
  refine List.Nodup.map (fun q q' heq => ?_) (ResourcePath.nodup_chain _)
  exact r.url_injective (congrArg Request.url heq)

/-- No request is made twice. -/
theorem nodup_storePlan (r : Repository) (p : ResourcePath) (content : Bytes) (nothing : Bool) :
    (storePlan r p content nothing).Nodup := by
  have hprobes : (probes r p).Nodup := by
    unfold probes
    split
    · exact List.nodup_nil
    · exact List.nodup_singleton _
  have hcreations : (if nothing then creations r p else []).Nodup := by
    split
    · exact nodup_creations r p
    · exact List.nodup_nil
  have hmkcol : ∀ request ∈ (if nothing then creations r p else []),
      request.method = .mkcol := by
    intro request hmem
    split at hmem
    · obtain ⟨q, -, rfl⟩ := mem_creations hmem
      rfl
    · cases hmem
  have hpropfind : ∀ request ∈ probes r p, request.method = .propfind := by
    intro request hmem
    unfold probes at hmem
    split at hmem
    · cases hmem
    · rw [List.mem_singleton.mp hmem]
      rfl
  rw [storePlan, List.append_assoc]
  refine List.Nodup.append hprobes (List.Nodup.append hcreations (List.nodup_singleton _) ?_) ?_
  · intro request hmem hstore
    have hmethod := hmkcol request hmem
    rw [List.mem_singleton.mp hstore] at hmethod
    cases hmethod
  · intro request hmem hrest
    exact method_ne_propfind hrest (hpropfind request hmem)

theorem exists_chain_eq_cons {q : ResourcePath} (h : q.isRoot = false) :
    ∃ first rest, q.chain = first :: rest := by
  refine List.exists_cons_of_ne_nil fun hnil => ?_
  have hlen := congrArg List.length hnil
  rw [ResourcePath.chain, List.length_map, List.length_range, List.length_nil,
    List.length_eq_zero_iff] at hlen
  rw [ResourcePath.isRoot_iff.mpr hlen] at h
  cases h

/-- Only the probe of the collection around the file finds nothing. -/
theorem probed_of_foundNothing {log : List (Request × Answer)} {nothing : Bool}
    (hrequests : log.map Prod.fst <+: storePlan r p content nothing)
    (h : foundNothing log = true) : p.parent.isRoot = false ∧
      ∃ answer, (probeRequest (r.collectionUrl p.parent) .zero, answer) ∈ log ∧
        hasCode 404 answer = true := by
  obtain ⟨⟨request, answer⟩, hmem, h⟩ := List.any_eq_true.mp h
  rw [Bool.and_eq_true, decide_eq_true_eq] at h
  have hplan : request ∈ probes r p ++ ((if nothing then creations r p else []) ++
      [storeRequest (r.url p) content]) := by
    rw [← List.append_assoc]
    exact hrequests.subset (List.mem_map_of_mem hmem)
  have hprobe := (List.mem_append.mp hplan).resolve_right fun hrest =>
    method_ne_propfind hrest h.1
  unfold probes at hprobe
  split at hprobe
  · cases hprobe
  · next hroot =>
    rw [← List.mem_singleton.mp hprobe]
    exact ⟨Bool.eq_false_iff.mpr hroot, answer, hmem, h.2⟩

/-- In a log without repetitions a request has one answer. -/
theorem answer_unique {log : List (Request × Answer)} (h : (log.map Prod.fst).Nodup)
    {request : Request} {a b : Answer} (ha : (request, a) ∈ log) (hb : (request, b) ∈ log) :
    a = b :=
  (Prod.mk.inj (List.inj_on_of_nodup_map h ha hb rfl)).2

section

variable {log : List (Request × Answer)} (hfollows : Follows (Passes (r.href p.parent))
  (storePlan r p content (foundNothing log)) log)

include hfollows

theorem once_of_follows : (log.map Prod.fst).Nodup :=
  hfollows.requests.sublist.nodup (nodup_storePlan r p content _)

/-- A probe that finds nothing is followed by a request for a collection, and no other is. -/
theorem creates_iff : (∃ e ∈ log, e.1.method = .mkcol) ↔ foundNothing log = true := by
  constructor
  · rintro ⟨e, he, hmethod⟩
    by_contra hnothing
    have hmem := hfollows.requests.subset (List.mem_map_of_mem he)
    rw [storePlan, if_neg hnothing, List.append_nil] at hmem
    rcases List.mem_append.mp hmem with hmem | hmem
    · unfold probes at hmem
      split at hmem
      · cases hmem
      · rw [List.mem_singleton.mp hmem] at hmethod
        cases hmethod
    · rw [List.mem_singleton.mp hmem] at hmethod
      cases hmethod
  · intro hnothing
    obtain ⟨hparent, answer, hmem, hcode⟩ := probed_of_foundNothing hfollows.requests hnothing
    obtain ⟨first, rest, hchain⟩ := exists_chain_eq_cons hparent
    have hcreations : creations r p = creationRequest (r.url first) ::
        rest.map fun q => creationRequest (r.url q) := by
      rw [creations, hchain]
      rfl
    have hne : probeRequest (r.collectionUrl p.parent) .zero ≠ creationRequest (r.url first) :=
      fun heq => nomatch congrArg Request.method heq
    have hnodup : ([probeRequest (r.collectionUrl p.parent) .zero] ++
        [creationRequest (r.url first)]).Nodup := by
      simp [hne]
    have hprobed : ∀ q ∈ [probeRequest (r.collectionUrl p.parent) .zero],
        ∃ answer, (q, answer) ∈ log ∧ Passes (r.href p.parent) q answer := by
      intro q hq
      rw [List.mem_singleton.mp hq]
      exact ⟨answer, hmem, Or.inr hcode⟩
    rw [storePlan, hnothing, if_pos rfl, probes,
      if_neg (by rw [hparent]; exact Bool.false_ne_true), hcreations, List.append_assoc,
      List.cons_append] at hfollows
    obtain ⟨e, he, heq⟩ := List.mem_map.mp ((hfollows.sent_iff hnodup).mpr hprobed)
    exact ⟨e, he, by rw [heq]; rfl⟩

/-- The request that stores the file is sent where its collection is there. -/
theorem stores_iff : storeRequest (r.url p) content ∈ log.map Prod.fst ↔
    p.parent.isRoot = true ∨
    ∃ answer, (probeRequest (r.collectionUrl p.parent) .zero, answer) ∈ log ∧
      (ShowsCollection (r.href p.parent) answer ∨
        hasCode 404 answer = true ∧ ∀ q ∈ p.parent.chain, ∃ answer,
          (creationRequest (r.url q), answer) ∈ log ∧ SettlesCollection answer) := by
  have honce := once_of_follows hfollows
  rw [hfollows.sent_iff (nodup_storePlan r p content _)]
  cases hparent : p.parent.isRoot with
  | true =>
    have hnone : probes r p ++ (if foundNothing log then creations r p else []) = [] := by
      rw [probes, if_pos hparent, creations_of_isRoot hparent, ite_self]
      rfl
    rw [hnone]
    exact ⟨fun _ => Or.inl rfl, fun _ => nofun⟩
  | false =>
    have hprobes : probes r p = [probeRequest (r.collectionUrl p.parent) .zero] :=
      if_neg (by rw [hparent]; exact Bool.false_ne_true)
    rw [hprobes, or_iff_right Bool.false_ne_true, List.singleton_append, List.forall_mem_cons]
    constructor
    · rintro ⟨⟨answer, hmem, hpass⟩, hall⟩
      refine ⟨answer, hmem, hpass.imp_right fun hcode => ⟨hcode, fun q hq => ?_⟩⟩
      have hnothing : foundNothing log = true :=
        List.any_eq_true.mpr ⟨_, hmem, by simp [probeRequest, hcode]⟩
      rw [hnothing, if_pos rfl] at hall
      exact hall _ (List.mem_map_of_mem hq)
    · rintro ⟨answer, hmem, hanswer⟩
      refine ⟨⟨answer, hmem, hanswer.imp_right And.left⟩, fun q hq => ?_⟩
      split at hq
      · next hnothing =>
        obtain ⟨-, answer', hmem', hcode⟩ := probed_of_foundNothing hfollows.requests hnothing
        obtain rfl := answer_unique honce hmem hmem'
        rcases hanswer with hshows | ⟨-, hall⟩
        · exact absurd hcode (not_hasCode_of_shows hshows)
        · obtain ⟨q, hchain, rfl⟩ := mem_creations hq
          exact hall q hchain
      · cases hq

theorem all_pass_iff_stored : (∀ e ∈ log, Passes (r.href p.parent) e.1 e.2) ↔
    ∃ answer, (storeRequest (r.url p) content, answer) ∈ log ∧ Succeeds answer := by
  refine hfollows.all_pass_iff fun hmem => ?_
  exact List.disjoint_of_nodup_append (nodup_storePlan r p content _) hmem List.mem_cons_self

end

/-- Storing a file takes its course. -/
theorem store_isCourse (h : p.isRoot = false) (server : σ → Request → Answer × σ) (s : σ) :
    IsCourse r p content ((store r p content).transcript server s)
      ((store r p content).run server s).1 := by
  obtain ⟨hfollows, hresult⟩ := store_follows r content h server s
  exact {
    requests := hfollows.requests
    once := once_of_follows hfollows
    pass := fun _ _ _ _ heq => hfollows.pass_of_next heq
    creates := creates_iff hfollows
    stores := stores_iff hfollows
    succeeds := hresult.trans (all_pass_iff_stored hfollows) }

/-- A server that knows nothing, has the outer collection by the time it is asked for, and
stores the file. -/
def lateServer (log : List Request) (request : Request) : Answer × List Request :=
  let code : UInt16 :=
    match request.method with
    | .mkcol => if log.length = 1 then 405 else 201
    | .put => 204
    | _ => 404
  (.ok { status := { code := code } }, log ++ [request])

end DavCourier.Transfer
