import DavCourier.Proofs.Fallible
import DavCourier.Proofs.Transfer.Course
import DavCourier.Proofs.Transfer.Operation

/-!
# What a failure is about

Whatever a server says, an operation fails for what was said last, unless the arguments or the
disk are the reason (`Operation.failure_attributed`). Every answer before the last one lets the
operation go on (`GoesOn`). The last one tells the sort of the failure, by a table that is the
same for all operations but for the role of a collection in them (`Role.kindOf`), and its address
is in the words of the failure (`IsBlamed`).

`Blames` is what one step after another keeps : an answer either lets the dialogue go on, or ends
it with a failure that the answer explains.
-/

namespace DavCourier

/-- The address that a fault is about. -/
def Http.TransportFault.url : Http.TransportFault → String
  | timeout url | connection url _ | invalidRequest url _ => url

namespace Transfer

open Http Dav

/-! ## Failures and addresses -/

namespace Failure

/-- The failure is about the arguments or the disk. -/
def isLocal : Failure → Bool
  | noName | sourceMissing _ | sourceUnreadable _ _ | sourceNotDirectory _ | treeUnreadable _ _ _
  | directoryRefused _ _ | writeRefused _ _ => true
  | _ => false

/-- The address that a failure is about. -/
def url? : Failure → Option String
  | notFound url | lengthRequired url | notListable url | unauthorized url | forbidden url
  | proxyUnauthorized url | alreadyExists url | refused url _ | occupied url
  | collectionRefused url _ | parentMissing url | noParent url
  | exchange (.malformed url _) => some url
  | exchange (.transport fault) => some fault.url
  | _ => none

theorem infix_append {url a : String} (h : url.toList <:+: a.toList) (b : String) :
    url.toList <:+: (a ++ b).toList := by
  rw [String.toList_append]
  exact h.trans (List.prefix_append _ _).isInfix

theorem infix_append_self (a url : String) : url.toList <:+: (a ++ url).toList := by
  rw [String.toList_append]
  exact (List.suffix_append _ _).isInfix

theorem url_infix_fault (fault : TransportFault) :
    fault.url.toList <:+: fault.message.toList := by
  cases fault with
  | timeout url => exact infix_append (infix_append_self _ _) _
  | connection url details => exact infix_append (infix_append (infix_append_self _ _) _) _
  | invalidRequest url details => exact infix_append (infix_append (infix_append_self _ _) _) _

theorem url_infix_details {failure : Failure} {url : String} (h : failure.url? = some url) :
    url.toList <:+: failure.details.toList := by
  cases failure with
  | notFound | notListable | parentMissing | noParent =>
    cases h
    exact infix_append (infix_append_self _ _) _
  | lengthRequired | unauthorized | forbidden | proxyUnauthorized | occupied =>
    cases h
    exact infix_append_self _ _
  | refused | collectionRefused =>
    cases h
    exact infix_append (infix_append (infix_append_self _ _) _) _
  | alreadyExists =>
    cases h
    exact List.infix_rfl
  | exchange fault =>
    cases fault with
    | malformed url details =>
      cases h
      exact infix_append (infix_append_self _ _) _
    | transport fault =>
      cases h
      exact url_infix_fault fault
  | _ => cases h

/-- A failure that is about an address names it. -/
theorem url_infix_message {failure : Failure} {url : String} (h : failure.url? = some url) :
    url.toList <:+: failure.message.toList := by
  refine (url_infix_details h).trans ?_
  unfold message
  split <;> exact infix_append_self _ _

end Failure

/-! ## What answers stand for -/

/-- What collections are to an operation. -/
inductive Role where
  /-- The ones on the way are made sure of. -/
  | settling
  /-- A new one is made. -/
  | creating
  /-- The members of one are listed. -/
  | listing
  | asking
  deriving DecidableEq

def Operation.role : Operation → Role
  | upload _ _ | uploadTree _ _ | ensureCollection _ => .settling
  | createCollection _ => .creating
  | list _ => .listing
  | _ => .asking

/-- What went wrong with a request itself : there is no answer, or it has a report that cannot
be read. -/
def exchangeFault? (request : Request) : Answer → Option ExchangeFault
  | .error fault => some (.transport fault)
  | .ok response =>
    if request.method = .propfind ∧ response.status.code = 207 then
      match MultiStatus.parse response.body with
      | .error fault => some (.malformed request.url fault.message)
      | .ok _ => none
    else none

namespace Role

/-- The sort of the failure that a status stands for. -/
def kindOfStatus (role : Role) (method : Method) (status : Status) : Kind :=
  if Failure.isDenial status then .denied
  else if status.code = 404 then
    if method = .mkcol ∧ role = .settling then .failed else .missing
  else if status.code = 411 ∧ method = .put then .missing
  else if status.code = 405 ∧ role = .creating then .existing
  else if (status.code = 200 ∨ status.code = 207) ∧ role = .listing then .missing
  else .failed

/-- The sort of the failure that an answer stands for. -/
def kindOf (role : Role) (request : Request) (answer : Answer) : Kind :=
  match answer with
  | .error _ => .failed
  | .ok response =>
    if (exchangeFault? request answer).isSome then .failed
    else role.kindOfStatus request.method response.status

/-- The report has a file where a collection was asked for. -/
def ShowsFile (role : Role) (r : Repository) (url : String) (report : MultiStatus) : Prop :=
  ∃ p, url = r.collectionUrl p ∧ ∃ entry ∈ report.entries, entry.isCollection = false ∧
    if role = .listing then r.pathOfHref entry.href = p
    else targetAmong report.entries (r.href p) = some entry

end Role

/-- The answer lets an operation go on with another request. -/
def GoesOn (request : Request) (answer : Answer) : Prop :=
  match request.method with
  | .propfind => hasCode 200 answer = true ∨ hasCode 207 answer = true ∨ hasCode 404 answer = true
  | .mkcol => SettlesCollection answer
  | .put => Succeeds answer
  | .get | .head | .options => False

/-- The failure is the one that this answer to the request stands for. -/
structure IsBlamed (r : Repository) (role : Role) (request : Request) (answer : Answer)
    (failure : Failure) : Prop where
  named : request.url.toList <:+: failure.message.toList
  kind : failure.kind = role.kindOf request answer
  source : failure.source? = (exchangeFault? request answer).map ExchangeFault.message
  /-- A report that can be read is no failure, unless it shows a file. -/
  shown : ∀ response, answer = .ok response → request.method = .propfind →
    exchangeFault? request answer = none →
    response.status.code = 200 ∨ response.status.code = 207 →
    ∃ report, MultiStatus.parse response.body = .ok (some report) ∧
      role.ShowsFile r request.url report

/-- The last answer stands for the failure, and those before it let the operation go on. -/
def IsAttributed (r : Repository) (role : Role) (log : List (Request × Answer))
    (failure : Failure) : Prop :=
  ∃ earlier request answer, log = earlier ++ [(request, answer)] ∧
    (∀ e ∈ earlier, GoesOn e.1 e.2) ∧ IsBlamed r role request answer failure

/-- A fault of the transport is about the address of the request. -/
def Names (request : Request) (answer : Answer) : Prop :=
  ∀ fault, answer = .error fault → fault.url = request.url

/-- Every fault of the transport is about the address of its request. -/
def NamesRequests {σ : Type} (server : σ → Request → Answer × σ) : Prop :=
  ∀ s request, Names request (server s request).1

/-! ## Answers that stand for failures -/

variable {α β σ : Type} {r : Repository} {role : Role} {request : Request} {answer : Answer}
  {failure : Failure} {response : Response} {status : Status} {url : String}

theorem isBlamed_fault {fault : ExchangeFault} (hnames : Names request answer)
    (h : exchangeFault? request answer = some fault) :
    IsBlamed r role request answer (.exchange fault) := by
  have hkind : role.kindOf request answer = .failed := by
    cases answer with
    | error fault => rfl
    | ok response => rw [Role.kindOf, h]; rfl
  have hurl : (Failure.exchange fault).url? = some request.url := by
    cases answer with
    | error fault' =>
      cases h
      exact congrArg some (hnames fault' rfl)
    | ok response =>
      rw [exchangeFault?] at h
      split at h
      · split at h <;> cases h
        rfl
      · cases h
  refine ⟨Failure.url_infix_message hurl, hkind.symm, by rw [h]; rfl, fun _ _ _ hnone => ?_⟩
  rw [h] at hnone
  cases hnone

/-- A failure with the sort that the status of the answer stands for. -/
theorem isBlamed_status (hfault : exchangeFault? request (.ok response) = none)
    (hurl : failure.url? = some request.url) (hsource : failure.source? = none)
    (hkind : failure.kind = role.kindOfStatus request.method response.status)
    (hshown : request.method = .propfind →
      response.status.code = 200 ∨ response.status.code = 207 →
      ∃ report, MultiStatus.parse response.body = .ok (some report) ∧
        role.ShowsFile r request.url report) :
    IsBlamed r role request (.ok response) failure := by
  refine ⟨Failure.url_infix_message hurl, ?_, by rw [hsource, hfault]; rfl, ?_⟩
  · rw [hkind, Role.kindOf, hfault]
    rfl
  · intro response' heq hmethod _ hcode
    cases heq
    exact hshown hmethod hcode

theorem url?_ofStatus (status : Status) (url : String) :
    (Failure.ofStatus status url).url? = some url := by
  unfold Failure.ofStatus
  repeat' split
  all_goals rfl

theorem source?_ofStatus (status : Status) (url : String) :
    (Failure.ofStatus status url).source? = none := by
  unfold Failure.ofStatus
  repeat' split
  all_goals rfl

theorem kind_ofStatus_of_denial (h : Failure.isDenial status = true) (url : String) :
    (Failure.ofStatus status url).kind = .denied := by
  simp only [Failure.isDenial, Bool.or_eq_true, decide_eq_true_eq] at h
  rcases h with (h | h) | h <;> simp [Failure.ofStatus, h, Failure.kind]

/-- The sort of a status that has no other meaning. -/
theorem kind_ofStatus {method : Method} (hsettling : ¬ (method = .mkcol ∧ role = .settling))
    (hlength : ¬ (status.code = 411 ∧ method = .put))
    (hcreating : ¬ (status.code = 405 ∧ role = .creating))
    (hlisting : ¬ ((status.code = 200 ∨ status.code = 207) ∧ role = .listing)) :
    (Failure.ofStatus status url).kind = role.kindOfStatus method status := by
  cases hdenial : Failure.isDenial status with
  | true => rw [kind_ofStatus_of_denial hdenial, Role.kindOfStatus, if_pos hdenial]
  | false =>
    have hne : status.code ≠ 401 ∧ status.code ≠ 403 ∧ status.code ≠ 407 := by
      simpa [Failure.isDenial, and_assoc] using hdenial
    rw [Role.kindOfStatus, hdenial, if_neg Bool.false_ne_true, if_neg hsettling, if_neg hlength,
      if_neg hcreating, if_neg hlisting]
    by_cases h404 : status.code = 404 <;> simp [Failure.ofStatus, hne, h404, Failure.kind]

/-- Whoever may not is told so by every operation. -/
theorem isBlamed_of_denial (hfault : exchangeFault? request (.ok response) = none)
    (hdenial : Failure.isDenial response.status = true) :
    IsBlamed r role request (.ok response) (.ofStatus response.status request.url) := by
  refine isBlamed_status hfault (url?_ofStatus _ _) (source?_ofStatus _ _) ?_ fun _ hcode => ?_
  · rw [kind_ofStatus_of_denial hdenial, Role.kindOfStatus, if_pos hdenial]
  · rcases hcode with h | h <;> simp [Failure.isDenial, h] at hdenial

/-- A status without a meaning on the way to a collection. -/
theorem isBlamed_ofCollectionStatus (hfault : exchangeFault? request (.ok response) = none)
    (hput : request.method ≠ .put)
    (hmissing : response.status.code = 404 → request.method = .mkcol)
    (hshown : request.method = .propfind →
      ¬ (response.status.code = 200 ∨ response.status.code = 207)) :
    IsBlamed r .settling request (.ok response)
      (.ofCollectionStatus response.status request.url) := by
  unfold Failure.ofCollectionStatus
  cases hdenial : Failure.isDenial response.status with
  | true =>
    rw [if_pos rfl]
    exact isBlamed_of_denial hfault hdenial
  | false =>
    rw [if_neg Bool.false_ne_true]
    refine isBlamed_status hfault rfl rfl ?_ fun hmethod h => absurd h (hshown hmethod)
    rw [Role.kindOfStatus, hdenial, if_neg Bool.false_ne_true]
    by_cases h404 : response.status.code = 404 <;> simp [h404, hmissing, hput, Failure.kind]

/-! ## Dialogues that go on or fail -/

/-- After every answer the dialogue goes on, or fails with what the answer stands for. -/
def Blames (r : Repository) (role : Role) : Dialogue (Except Failure α) → Prop
  | .done (.ok _) => True
  | .done (.error failure) => failure.isLocal = true
  | .ask request next => ∀ answer, Names request answer →
    (∃ failure, next answer = .done (.error failure) ∧ IsBlamed r role request answer failure) ∨
      GoesOn request answer ∧ Blames r role (next answer)

namespace Blames

theorem ask {next : Answer → Dialogue (Except Failure α)}
    (h : ∀ answer, Names request answer →
      (∃ failure, next answer = .done (.error failure) ∧ IsBlamed r role request answer failure) ∨
        GoesOn request answer ∧ Blames r role (next answer)) :
    Blames r role (.ask request next) := h

/-- One dialogue after the other, where a failure of the first one is one of both. -/
theorem bind {d : Dialogue (Except Failure α)} {f : Except Failure α → Dialogue (Except Failure β)}
    (hd : Blames r role d) (hfail : ∀ failure, f (.error failure) = .done (.error failure))
    (hnext : ∀ a, Blames r role (f (.ok a))) : Blames r role (d.bind f) := by
  induction d with
  | done result =>
    cases result with
    | ok a => exact hnext a
    | error failure =>
      rw [Dialogue.bind, hfail]
      exact hd
  | ask request next ih =>
    intro answer hnames
    rcases hd answer hnames with ⟨failure, hdone, hblamed⟩ | ⟨hgoes, hrest⟩
    · refine Or.inl ⟨failure, ?_, hblamed⟩
      dsimp only
      rw [hdone, Dialogue.bind, hfail]
    · exact Or.inr ⟨hgoes, ih answer hrest⟩

theorem map {d : Dialogue (Except Failure α)} (hd : Blames r role d) (f : α → β) :
    Blames r role (d.map fun result => result.map f) :=
  hd.bind (fun _ => rfl) fun _ => trivial

/-- A run that fails does so for its last answer. -/
theorem isAttributed {d : Dialogue (Except Failure α)} (hd : Blames r role d)
    {server : σ → Request → Answer × σ} (hserver : NamesRequests server) {s : σ}
    (hresult : (d.run server s).1 = .error failure) (hlocal : failure.isLocal = false) :
    IsAttributed r role (d.transcript server s) failure := by
  induction d generalizing s with
  | done result =>
    cases result with
    | ok a => cases hresult
    | error failure' =>
      cases hresult
      exact absurd hd (by rw [Blames, hlocal]; exact Bool.false_ne_true)
  | ask request next ih =>
    obtain ⟨answer, s', hserve⟩ : ∃ answer s', server s request = (answer, s') := ⟨_, _, rfl⟩
    have hnames : Names request answer := by
      have h := hserver s request
      rwa [hserve] at h
    rw [Dialogue.run_ask hserve] at hresult
    rw [Dialogue.transcript_ask hserve]
    rcases hd answer hnames with ⟨failure', hdone, hblamed⟩ | ⟨hgoes, hrest⟩
    · rw [hdone] at hresult ⊢
      cases hresult
      exact ⟨[], request, answer, rfl, List.forall_mem_nil _, hblamed⟩
    · obtain ⟨earlier, request', answer', hlog, hearlier, hblamed⟩ := ih answer hrest hresult
      refine ⟨(request, answer) :: earlier, request', answer', by rw [hlog]; rfl, ?_, hblamed⟩
      exact List.forall_mem_cons.mpr ⟨hgoes, hearlier⟩

end Blames

/-- A dialogue that ends with the answer to one request. Where it fails, the arguments or the disk
are the reason, or the answer stands for the failure. -/
def Concludes (r : Repository) (role : Role) (d : Dialogue (Except Failure α)) : Prop :=
  ∃ request next, d = .ask request next ∧ ∀ answer, Names request answer →
    ∃ result, next answer = .done result ∧ ∀ failure, result = .error failure →
      failure.isLocal = false → IsBlamed r role request answer failure

theorem Concludes.isAttributed {d : Dialogue (Except Failure α)} (hd : Concludes r role d)
    {server : σ → Request → Answer × σ} (hserver : NamesRequests server) {s : σ}
    (hresult : (d.run server s).1 = .error failure) (hlocal : failure.isLocal = false) :
    IsAttributed r role (d.transcript server s) failure := by
  obtain ⟨request, next, rfl, hnext⟩ := hd
  obtain ⟨answer, s', hserve⟩ : ∃ answer s', server s request = (answer, s') := ⟨_, _, rfl⟩
  have hnames : Names request answer := by
    have h := hserver s request
    rwa [hserve] at h
  obtain ⟨result, hdone, hblamed⟩ := hnext answer hnames
  rw [Dialogue.run_ask hserve, hdone] at hresult
  rw [Dialogue.transcript_ask hserve, hdone]
  exact ⟨[], request, answer, rfl, List.forall_mem_nil _, hblamed failure hresult hlocal⟩

theorem Concludes.map {d : Dialogue (Except Failure α)} (hd : Concludes r role d) :
    Concludes r role (d.map success) := by
  obtain ⟨request, next, rfl, hnext⟩ := hd
  refine ⟨_, _, rfl, fun answer hnames => ?_⟩
  obtain ⟨result, hdone, hblamed⟩ := hnext answer hnames
  refine ⟨success result, by rw [hdone]; rfl, fun failure h => ?_⟩
  exact hblamed failure (Fallible.map_eq_error.mp h)

/-! ## Uploads -/

variable {p : ResourcePath} {content : Bytes}

@[simp] theorem method_creationRequest (url : String) : (creationRequest url).method = .mkcol := rfl

@[simp] theorem method_storeRequest (url : String) (content : Bytes) :
    (storeRequest url content).method = .put := rfl

@[simp] theorem method_probeRequest (url : String) (depth : Depth) :
    (probeRequest url depth).method = .propfind := rfl

@[simp] theorem method_fetchRequest (url : String) (since : Option Calendar.Instant) :
    (fetchRequest url since).method = .get := rfl

theorem exchangeFault?_of_ne (request : Request) (h : request.method ≠ .propfind)
    (response : Response) : exchangeFault? request (.ok response) = none :=
  if_neg fun hand => h hand.1

/-- The request for a collection on the way goes on or fails. -/
theorem chainOutcome_cases (r : Repository) (q : ResourcePath) (response : Response) :
    (∃ failure, chainOutcome (r.url q) (.ofStatus response.status) = .error failure ∧
      IsBlamed r .settling (creationRequest (r.url q)) (.ok response) failure) ∨
    GoesOn (creationRequest (r.url q)) (.ok response) ∧
      chainOutcome (r.url q) (.ofStatus response.status) = .ok () := by
  have hfault := exchangeFault?_of_ne (creationRequest (r.url q)) (by simp) response
  by_cases hsettles : response.status.code = 201 ∨ response.status.code = 405
  · exact Or.inr ⟨settlesCollection_ok.mpr hsettles, (chainOutcome_ofStatus _ _).1 hsettles⟩
  · left
    rw [not_or] at hsettles
    rw [Creation.ofStatus, if_neg hsettles.1, if_neg hsettles.2]
    by_cases h409 : response.status.code = 409
    · rw [if_pos h409]
      refine ⟨_, rfl, isBlamed_status hfault rfl rfl ?_ (by simp)⟩
      simp [Role.kindOfStatus, Failure.isDenial, h409, Failure.kind]
    · rw [if_neg h409]
      exact ⟨_, rfl, isBlamed_ofCollectionStatus hfault (by simp) (fun _ => rfl) (by simp)⟩

theorem blames_createChain (r : Repository) (qs : List ResourcePath) :
    Blames r .settling (createChain r qs) := by
  induction qs with
  | nil => trivial
  | cons q qs ih =>
    refine Blames.ask fun answer hnames => ?_
    cases answer with
    | error fault => exact Or.inl ⟨_, rfl, isBlamed_fault hnames rfl⟩
    | ok response =>
      dsimp only [Dialogue.bind, Except.map]
      rcases chainOutcome_cases r q response with ⟨failure, houtcome, hblamed⟩ | ⟨hgoes, houtcome⟩
      · exact Or.inl ⟨failure, by rw [houtcome], hblamed⟩
      · exact Or.inr ⟨hgoes, by rw [houtcome]; exact ih⟩

/-- What a probe finds, unless something went wrong with it. -/
theorem findingOf_cases (url : String) (depth : Depth) (answer : Answer) :
    (∃ fault, exchangeFault? (probeRequest url depth) answer = some fault ∧
      findingOf url answer = .error fault) ∨
    ∃ response report, answer = .ok response ∧
      exchangeFault? (probeRequest url depth) answer = none ∧
      findingOf url answer = .ok ⟨response.status, report⟩ ∧
      ∀ m, report = some m → MultiStatus.parse response.body = .ok (some m) := by
  cases answer with
  | error fault => exact Or.inl ⟨_, rfl, rfl⟩
  | ok response =>
    by_cases hcode : response.status.code = 207
    · have hfault : exchangeFault? (probeRequest url depth) (.ok response) =
          match MultiStatus.parse response.body with
          | .error fault => some (.malformed url fault.message)
          | .ok _ => none := if_pos ⟨rfl, hcode⟩
      rw [hfault, findingOf, if_pos hcode]
      cases hparse : MultiStatus.parse response.body with
      | error fault => exact Or.inl ⟨_, rfl, rfl⟩
      | ok report => exact Or.inr ⟨response, report, rfl, rfl, rfl, fun m hm => hm ▸ hparse⟩
    · have hfault : exchangeFault? (probeRequest url depth) (.ok response) = none :=
        if_neg fun hand => hcode hand.2
      exact Or.inr ⟨response, none, rfl, hfault, findingOf_of_ne hcode,
        fun _ hm => by cases hm⟩

theorem isPresent_iff {report : Option MultiStatus} :
    (⟨status, report⟩ : Finding).isPresent = true ↔ status.code = 200 ∨ status.code = 207 := by
  simp [Finding.isPresent, or_comm]

theorem mem_of_targetAmong {entries : List Resource} {href : String} {entry : Resource}
    (h : targetAmong entries href = some entry) : entry ∈ entries := by
  unfold targetAmong at h
  dsimp only at h
  split at h
  · next hfind =>
    cases h
    exact List.mem_of_find?_eq_some hfind
  · split at h <;> cases h
    exact List.mem_cons_self

theorem blames_ensureCollection (r : Repository) (p : ResourcePath) :
    Blames r .settling (ensureCollection r p) := by
  cases hp : p.isRoot with
  | true =>
    rw [ensureCollection, if_pos hp]
    trivial
  | false =>
    rw [ensureCollection_eq hp]
    refine Blames.ask fun answer hnames => ?_
    rcases findingOf_cases (r.collectionUrl p) .zero answer with
      ⟨fault, hfault, hfinding⟩ | ⟨response, report, rfl, hfault, hfinding, hreport⟩
    · exact Or.inl ⟨_, by rw [hfinding]; rfl, isBlamed_fault hnames hfault⟩
    · rw [hfinding, afterFinding]
      by_cases hpresent : response.status.code = 200 ∨ response.status.code = 207
      · have hgoes : GoesOn (probeRequest (r.collectionUrl p) .zero) (.ok response) := by
          simpa [GoesOn, probeRequest, hasCode, ← or_assoc] using Or.inl hpresent
        rw [if_pos (isPresent_iff.mpr hpresent)]
        split
        · next entry htarget =>
          obtain ⟨m, hm, htarget⟩ := Option.bind_eq_some_iff.mp htarget
          cases hentry : entry.isCollection with
          | true => exact Or.inr ⟨hgoes, trivial⟩
          | false =>
            refine Or.inl ⟨_, rfl, isBlamed_status hfault rfl rfl ?_ fun _ _ => ?_⟩
            · rcases hpresent with h | h <;>
                simp [Role.kindOfStatus, Failure.isDenial, h, Failure.kind]
            · exact ⟨m, hreport m hm, p, rfl, entry, mem_of_targetAmong htarget, hentry, htarget⟩
        · exact Or.inr ⟨hgoes, trivial⟩
      · rw [if_neg (mt isPresent_iff.mp hpresent)]
        by_cases h404 : response.status.code = 404
        · rw [if_pos (by simp [Finding.isNotFound, h404])]
          exact Or.inr ⟨Or.inr (Or.inr (decide_eq_true h404)), blames_createChain r p.chain⟩
        · rw [if_neg (by simp [Finding.isNotFound, h404])]
          exact Or.inl ⟨_, rfl, isBlamed_ofCollectionStatus hfault (by simp)
            (fun h => absurd h h404) fun _ => hpresent⟩

/-- The failure that a refused content stands for. -/
theorem exists_putOutcome (r : Repository) (p : ResourcePath) (content : Bytes)
    (hsuccess : ¬ response.status.isSuccess = true) :
    ∃ failure, putOutcome response.status (r.url p) response.status.isSuccess = .error failure ∧
      IsBlamed r .settling (storeRequest (r.url p) content) (.ok response) failure := by
  have hfault := exchangeFault?_of_ne (storeRequest (r.url p) content) (by simp) response
  have hok : ¬ (response.status.code = 200 ∨ response.status.code = 201) := by
    rintro (h | h) <;> exact hsuccess (isSuccess_iff.mpr (by rw [h]; decide))
  rw [putOutcome, if_neg hok, if_neg hsuccess]
  cases hdenial : Failure.isDenial response.status with
  | true =>
    rw [if_pos rfl]
    exact ⟨_, rfl, isBlamed_of_denial hfault hdenial⟩
  | false =>
    rw [if_neg Bool.false_ne_true]
    by_cases h404 : response.status.code = 404
    · rw [if_pos h404]
      refine ⟨_, rfl, isBlamed_status hfault rfl rfl ?_ (by simp)⟩
      simp [Role.kindOfStatus, hdenial, h404, storeRequest, Failure.kind]
    · rw [if_neg h404]
      by_cases h411 : response.status.code = 411
      · rw [if_pos h411]
        refine ⟨_, rfl, isBlamed_status hfault rfl rfl ?_ (by simp)⟩
        simp [Role.kindOfStatus, hdenial, h411, storeRequest, Failure.kind]
      · rw [if_neg h411]
        refine ⟨_, rfl, isBlamed_status hfault (url?_ofStatus _ _) (source?_ofStatus _ _) ?_
          (by simp)⟩
        exact kind_ofStatus (by simp) (fun h => h411 h.1) (by simp) (by simp)

theorem blames_putContent (r : Repository) (p : ResourcePath) (content : Bytes) :
    Blames r .settling (putContent r p content) := by
  refine Blames.ask fun answer hnames => ?_
  cases answer with
  | error fault => exact Or.inl ⟨_, rfl, isBlamed_fault hnames rfl⟩
  | ok response =>
    dsimp only [Dialogue.bind]
    by_cases hsuccess : response.status.isSuccess = true
    · rw [putOutcome_of_success hsuccess]
      exact Or.inr ⟨⟨response, rfl, isSuccess_iff.mp hsuccess⟩, trivial⟩
    · obtain ⟨failure, houtcome, hblamed⟩ := exists_putOutcome r p content hsuccess
      exact Or.inl ⟨failure, by rw [houtcome], hblamed⟩

theorem blames_store (r : Repository) (p : ResourcePath) (content : Bytes) :
    Blames r .settling (store r p content) := by
  cases hp : p.isRoot with
  | true =>
    rw [store, if_pos hp]
    rfl
  | false =>
    rw [store_eq hp]
    exact (blames_ensureCollection r p.parent).bind (fun _ => rfl)
      fun _ => blames_putContent r p content

theorem blames_upload (r : Repository) (disk : Local.Disk) (source : String) (p : ResourcePath) :
    Blames r .settling (upload r disk source p) := by
  unfold upload readSource
  split
  · rfl
  · split
    · next hsource =>
      split at hsource <;> cases hsource <;> rfl
    · exact blames_store r p _

theorem blames_inOrder {ds : List (Dialogue (Except Failure Unit))}
    (h : ∀ d ∈ ds, Blames r .settling d) : Blames r .settling (inOrder ds) := by
  induction ds with
  | nil => trivial
  | cons d ds ih =>
    obtain ⟨hd, hds⟩ := List.forall_mem_cons.mp h
    exact hd.bind (fun _ => rfl) fun _ => ih hds

theorem blames_uploadTree (r : Repository) (disk : Local.Disk) (source : String)
    (p : ResourcePath) : Blames r .settling (uploadTree r disk source p) := by
  unfold uploadTree
  split
  · split
    · rfl
    · refine (blames_inOrder fun d hd => ?_).map _
      obtain ⟨names, -, rfl⟩ := List.mem_map.mp hd
      exact blames_upload r disk _ _
  · rfl

/-! ## Operations of one request -/

/-- A status of an answer that has no other meaning in an operation of one request. -/
theorem isBlamed_ofStatus (hfault : exchangeFault? request (.ok response) = none)
    (hput : request.method ≠ .put) (hsettling : role ≠ .settling)
    (hcreating : role = .creating → response.status.code ≠ 405)
    (hpresent : request.method = .propfind ∨ role = .listing →
      ¬ (response.status.code = 200 ∨ response.status.code = 207)) :
    IsBlamed r role request (.ok response) (.ofStatus response.status request.url) := by
  refine isBlamed_status hfault (url?_ofStatus _ _) (source?_ofStatus _ _) ?_
    fun hmethod h => absurd h (hpresent (Or.inl hmethod))
  exact kind_ofStatus (fun h => hsettling h.2) (fun h => hput h.2)
    (fun h => hcreating h.2 h.1) (fun h => hpresent (Or.inr h.2) h.1)

theorem concludes_createCollection (r : Repository) (p : ResourcePath) :
    Concludes r .creating (createCollection r p) := by
  refine ⟨_, _, rfl, fun answer hnames => ⟨_, rfl, fun failure h _ => ?_⟩⟩
  cases answer with
  | error fault =>
    cases h
    exact isBlamed_fault hnames rfl
  | ok response =>
    have hfault := exchangeFault?_of_ne (creationRequest (r.url p)) (by simp) response
    dsimp only [Except.map, Creation.ofStatus] at h
    split at h
    · cases h
    · split at h
      · next h405 =>
        cases h
        refine isBlamed_status hfault rfl rfl ?_ (by simp)
        simp [Role.kindOfStatus, Failure.isDenial, h405, Failure.kind]
      · next h405 =>
        split at h
        · next h409 =>
          cases h
          refine isBlamed_status hfault rfl rfl ?_ (by simp)
          simp [Role.kindOfStatus, Failure.isDenial, h409, Failure.kind]
        · cases h
          exact isBlamed_ofStatus hfault (by simp) (by simp) (fun _ => h405) (by simp)

theorem isLocal_of_writeDestination {disk : Local.Disk} {destination : String}
    (h : (writeDestination disk destination content).2 = .error failure) :
    failure.isLocal = true := by
  unfold writeDestination makeEnclosing at h
  split at h
  · next houter =>
    cases h
    split at houter
    · cases houter
    · split at houter <;> cases houter
      rfl
  · split at h <;> cases h
    rfl

/-- A copy that comes is refused by the disk alone. -/
theorem isBlamed_receive {disk : Local.Disk} {destination : String}
    {since : Option Calendar.Instant} (hnames : Names (fetchRequest url since) answer)
    (h : (receive disk url destination since answer).2 = .error failure)
    (hlocal : failure.isLocal = false) :
    IsBlamed r .asking (fetchRequest url since) answer failure := by
  cases answer with
  | error fault =>
    cases h
    exact isBlamed_fault hnames rfl
  | ok response =>
    have hfault := exchangeFault?_of_ne (fetchRequest url since) (by simp) response
    rw [receive] at h
    split at h
    · split at h
      · cases h
      · rw [isLocal_of_writeDestination (Fallible.map_eq_error.mp h)] at hlocal
        cases hlocal
    · split at h <;> cases h
      exact isBlamed_ofStatus hfault (by simp) (by simp) (by simp) (by simp)

theorem concludes_download (r : Repository) (disk : Local.Disk) (p : ResourcePath)
    (destination : String) :
    Concludes r .asking ((download r disk p destination).map Prod.snd) := by
  refine ⟨_, _, rfl, fun answer hnames => ⟨_, rfl, fun failure h hlocal => ?_⟩⟩
  exact isBlamed_receive hnames (Fallible.map_eq_error.mp h) hlocal

theorem concludes_downloadIfNewer (r : Repository) (disk : Local.Disk) (p : ResourcePath)
    (destination : String) (t : Calendar.Instant) :
    Concludes r .asking
      ((downloadIfNewer r disk p destination t).map fun outcome => success outcome.2) := by
  refine ⟨_, _, rfl, fun answer hnames => ⟨_, rfl, fun failure h hlocal => ?_⟩⟩
  exact isBlamed_receive hnames (Fallible.map_eq_error.mp h) hlocal

/-- A report with a member that is no collection where the collection was to be listed. -/
theorem exists_self_of_membersAmong {p : ResourcePath} {entries : List Resource}
    (h : membersAmong r p entries = none) :
    ∃ entry ∈ entries, entry.isCollection = false ∧ r.pathOfHref entry.href = p := by
  unfold membersAmong at h
  split at h
  · next hany =>
    obtain ⟨entry, hmem, hself⟩ := List.any_eq_true.mp hany
    simp only [isSelf, Bool.and_eq_true, decide_eq_true_eq, Bool.not_eq_true'] at hself
    exact ⟨entry, hmem, hself.2, hself.1⟩
  · cases h

theorem concludes_list (r : Repository) (p : ResourcePath) :
    Concludes r .listing (list r p) := by
  refine ⟨_, _, rfl, fun answer hnames => ⟨_, rfl, fun failure h _ => ?_⟩⟩
  rcases findingOf_cases (r.collectionUrl p) .one answer with
    ⟨fault, hfault, hfinding⟩ | ⟨response, report, rfl, hfault, hfinding, hreport⟩
  · rw [hfinding] at h
    cases h
    exact isBlamed_fault hnames hfault
  · rw [hfinding] at h
    dsimp only at h
    by_cases hpresent : response.status.code = 200 ∨ response.status.code = 207
    · rw [if_pos (isPresent_iff.mpr hpresent)] at h
      cases report with
      | none => cases h
      | some m =>
        dsimp only at h
        split at h
        · cases h
        · next hmembers =>
          cases h
          obtain ⟨entry, hmem, hcollection, hself⟩ := exists_self_of_membersAmong hmembers
          refine isBlamed_status hfault rfl rfl ?_ fun _ _ => ?_
          · rcases hpresent with h | h <;>
              simp [Role.kindOfStatus, Failure.isDenial, h, Failure.kind]
          · exact ⟨m, hreport m rfl, p, rfl, entry, hmem, hcollection, hself⟩
    · rw [if_neg (mt isPresent_iff.mp hpresent)] at h
      cases h
      exact isBlamed_ofStatus hfault (by simp) (by simp) (by simp) fun _ => hpresent

theorem concludes_resourceExists (r : Repository) (p : ResourcePath) :
    Concludes r .asking (resourceExists r p) := by
  refine ⟨_, _, rfl, fun answer hnames => ⟨_, rfl, fun failure h _ => ?_⟩⟩
  cases answer with
  | error fault =>
    cases h
    exact isBlamed_fault hnames rfl
  | ok response =>
    have hfault := exchangeFault?_of_ne { method := .head, url := r.url p } (by simp) response
    dsimp only at h
    split at h
    · cases h
    · split at h <;> cases h
      exact isBlamed_ofStatus hfault (by simp) (by simp) (by simp) (by simp)

theorem concludes_collectionExists (r : Repository) (p : ResourcePath) :
    Concludes r .asking (collectionExists r p) := by
  refine ⟨_, _, rfl, fun answer hnames => ⟨_, rfl, fun failure h _ => ?_⟩⟩
  rcases findingOf_cases (r.collectionUrl p) .zero answer with
    ⟨fault, hfault, hfinding⟩ | ⟨response, report, rfl, hfault, hfinding, -⟩
  · rw [hfinding] at h
    cases h
    exact isBlamed_fault hnames hfault
  · rw [hfinding] at h
    dsimp only at h
    by_cases hpresent : response.status.code = 200 ∨ response.status.code = 207
    · rw [if_pos (isPresent_iff.mpr hpresent)] at h
      cases h
    · rw [if_neg (mt isPresent_iff.mp hpresent)] at h
      split at h <;> cases h
      exact isBlamed_ofStatus hfault (by simp) (by simp) (by simp) fun _ => hpresent

theorem concludes_isCapable (r : Repository) : Concludes r .asking (isCapable r) := by
  refine ⟨_, _, rfl, fun answer hnames => ⟨_, rfl, fun failure h _ => ?_⟩⟩
  cases answer with
  | error fault =>
    cases h
    exact isBlamed_fault hnames rfl
  | ok response => cases h

/-! ## All operations -/

/-- An operation that fails, and not for its arguments or the disk, fails for the last answer. -/
theorem Operation.failure_attributed (r : Repository) (disk : Local.Disk) (op : Operation)
    {server : σ → Request → Answer × σ} (hserver : NamesRequests server) (s : σ)
    (hresult : ((op.dialogue r disk).run server s).1 = .error failure)
    (hlocal : failure.isLocal = false) :
    IsAttributed r op.role ((op.dialogue r disk).transcript server s) failure := by
  cases op with
  | upload source name => exact (blames_upload r disk source _).isAttributed hserver hresult hlocal
  | uploadTree source name =>
    exact ((blames_uploadTree r disk source _).map _).isAttributed hserver hresult hlocal
  | ensureCollection name =>
    exact (blames_ensureCollection r _).isAttributed hserver hresult hlocal
  | createCollection name =>
    exact (concludes_createCollection r _).isAttributed hserver hresult hlocal
  | download name destination =>
    exact (concludes_download r disk _ destination).isAttributed hserver hresult hlocal
  | downloadIfNewer name destination t =>
    exact (concludes_downloadIfNewer r disk _ destination t).isAttributed hserver hresult hlocal
  | list name => exact (concludes_list r _).map.isAttributed hserver hresult hlocal
  | resourceExists name =>
    exact (concludes_resourceExists r _).map.isAttributed hserver hresult hlocal
  | collectionExists name =>
    exact (concludes_collectionExists r _).map.isAttributed hserver hresult hlocal
  | isCapable => exact (concludes_isCapable r).map.isAttributed hserver hresult hlocal

/-- A server that knows no collection and has each one when it is to be made. It takes the first
file, and is silent for the next one. -/
def lapsingServer (files : Nat) (request : Request) : Answer × Nat :=
  match request.method with
  | .propfind => (.ok { status := ⟨404, none⟩ }, files)
  | .mkcol => (.ok { status := ⟨405, none⟩ }, files)
  | _ =>
    if files = 0 then (.ok { status := ⟨204, none⟩ }, 1)
    else (.error (.timeout request.url), files + 1)

/-- A directory with a file and, below it, another one. -/
def lapsingDisk : Local.Disk where
  entries := [([['d']], .directory), ([['d'], ['a']], .file [7]), ([['d'], ['b']], .directory),
    ([['d'], ['b'], ['c']], .file [8])]
  current := []

theorem failure_attributed_lapsing :
    let upload := (Operation.uploadTree "d" "t").dialogue ⟨"http://host".toList, []⟩ lapsingDisk
    let failure := Failure.exchange (.transport (.timeout "http://host/t/b/c"))
    NamesRequests lapsingServer ∧ (upload.run lapsingServer 0).1 = .error failure ∧
      failure.isLocal = false ∧
      IsAttributed ⟨"http://host".toList, []⟩ .settling (upload.transcript lapsingServer 0)
        failure := by
  intro upload failure
  have hserver : NamesRequests lapsingServer := by
    intro files request fault h
    unfold lapsingServer at h
    split at h
    · cases h
    · cases h
    · split at h <;> cases h
      rfl
  have hresult : (upload.run lapsingServer 0).1 = .error failure := by decide +kernel
  exact ⟨hserver, hresult, rfl, Operation.failure_attributed ⟨"http://host".toList, []⟩ lapsingDisk
    (.uploadTree "d" "t") hserver 0 hresult rfl⟩

end Transfer

end DavCourier
