import DavCourier.Proofs.ResourcePath
import DavCourier.Proofs.Server.Faithful
import DavCourier.Proofs.Transfer.Transcript

/-!
# Storing a file on a faithful server

`Pending` says how far `store` has come : what is left of the dialogue, and what the tree has
by then. Where the tree admits the file, one request leads from a pending dialogue to a
pending or finished one, and `Progress` says what it may do to the tree (`Pending.step`).
-/

namespace DavCourier.Transfer

open Http Dav Server

variable {r : Repository} {p : ResourcePath} {content : Bytes}

/-! ## The dialogues by their requests -/

theorem targetAmong_singleton (entry : Resource) (href : String) :
    targetAmong [entry] href = some entry := by
  unfold targetAmong
  dsimp only
  by_cases h : Href.comparable entry.href.toList = Href.comparable href.toList
  · simp only [List.find?_cons, h, decide_true]
  · simp only [List.find?_cons, h, decide_false, List.find?_nil]

/-- What a probe of a faithful server finds. -/
theorem findingOf_of_reports (url : String) {response : Response} {item? : Option Item}
    (h : Reports item? response) : ∃ finding, findingOf url (.ok response) = .ok finding ∧
      finding.isPresent = item?.isSome ∧ (item? = none → finding.isNotFound = true) ∧
        ∀ item, item? = some item → ∀ href, ∃ entry, finding.target? href = some entry ∧
          entry.isCollection = item.isCollection := by
  cases item? with
  | none =>
    have hcode : response.status.code = 404 := h
    refine ⟨⟨response.status, none⟩, ?_, ?_, fun _ => ?_, nofun⟩
    · rw [findingOf, if_neg (by rw [hcode]; decide)]
    · rw [Finding.isPresent, hcode]
      decide
    · rw [Finding.isNotFound, hcode]
      decide
  | some item =>
    obtain ⟨hcode, report, entry, hparse, hentries, hkind⟩ := h
    refine ⟨⟨response.status, some report⟩, ?_, ?_, nofun, ?_⟩
    · rw [findingOf, if_pos hcode, hparse]
    · rw [Finding.isPresent, hcode]
      rfl
    · intro item heq href
      cases heq
      refine ⟨entry, ?_, hkind⟩
      rw [Finding.target?, Option.bind_some, hentries, targetAmong_singleton]

/-- A collection is ensured with one probe, if the root of the repository is not meant. What
follows depends on what is there. -/
theorem ensureCollection_ask (r : Repository) (h : p.isRoot = false) : ∃ next,
    ensureCollection r p = .ask (probeRequest (r.collectionUrl p) .zero) next ∧
      ∀ response item?, Reports item? response → next (.ok response) =
        match item? with
        | none => createChain r p.chain
        | some .collection => .done (.ok ())
        | some (.file _) => .done (.error (.occupied (r.collectionUrl p))) := by
  rw [ensureCollection, if_neg (by rw [h]; exact Bool.false_ne_true)]
  refine ⟨_, rfl, fun response item? hreports => ?_⟩
  obtain ⟨finding, hfinding, hpresent, hmissing, htarget⟩ :=
    findingOf_of_reports (r.collectionUrl p) hreports
  dsimp only [Dialogue.bind]
  rw [hfinding]
  dsimp only
  rw [hpresent]
  cases item? with
  | none => rw [if_neg (by simp), hmissing rfl, if_pos rfl]
  | some item =>
    obtain ⟨entry, hentry, hkind⟩ := htarget item rfl (r.href p)
    rw [if_pos (by rfl), hentry]
    dsimp only
    rw [hkind]
    cases item <;> rfl

/-- A chain of collections starts with a request for the first one. The others follow if it
is there afterwards. -/
theorem createChain_ask (r : Repository) (p : ResourcePath) (ps : List ResourcePath) : ∃ next,
    createChain r (p :: ps) = .ask (creationRequest (r.url p)) next ∧
      (∀ response : Response, response.status.code = 201 ∨ response.status.code = 405 →
        next (.ok response) = createChain r ps) ∧
      ∀ response : Response, response.status.code = 409 →
        next (.ok response) = .done (.error (.parentMissing (r.url p))) := by
  refine ⟨_, rfl, fun response h => ?_, fun response h => ?_⟩
  · have houtcome : chainOutcome (r.url p) (Creation.ofStatus response.status) = .ok () := by
      rcases h with h | h <;> simp [Creation.ofStatus, h, chainOutcome]
    dsimp only [Dialogue.bind, Except.map]
    rw [houtcome]
  · have houtcome : chainOutcome (r.url p) (Creation.ofStatus response.status) =
        .error (.parentMissing (r.url p)) := by
      simp [Creation.ofStatus, h, chainOutcome]
    dsimp only [Dialogue.bind, Except.map]
    rw [houtcome]

theorem putContent_ask (r : Repository) (p : ResourcePath) (content : Bytes) : ∃ next,
    putContent r p content = .ask (storeRequest (r.url p) content) next ∧
      ∀ response : Response, next (.ok response) =
        .done (putOutcome response.status (r.url p) response.status.isSuccess) :=
  ⟨_, rfl, fun _ => rfl⟩

theorem putOutcome_of_success {status : Status} {url : String} (h : status.isSuccess = true) :
    putOutcome status url status.isSuccess = .ok () := by
  have hlt : status.code.toNat < 300 := by
    simp only [Status.isSuccess, Bool.and_eq_true, decide_eq_true_eq] at h
    exact UInt16.lt_iff_toNat_lt.mp h.2
  have hne : ∀ code : UInt16, 300 ≤ code.toNat → status.code ≠ code := by
    rintro code hcode rfl
    omega
  have hdenial : Failure.isDenial status = false := by
    simp [Failure.isDenial, hne 401 (by decide), hne 403 (by decide), hne 407 (by decide)]
  rw [putOutcome, hdenial, h]
  by_cases hcode : status.code = 200 ∨ status.code = 201
  · rw [if_pos hcode]
  · rw [if_neg hcode, if_neg Bool.false_ne_true, if_neg (hne 404 (by decide)),
      if_neg (hne 411 (by decide)), if_pos rfl]

theorem putOutcome_of_collection {status : Status} {url : String} (h : status.code = 405) :
    putOutcome status url status.isSuccess = .error (.refused url status) := by
  simp [putOutcome, Status.isSuccess, Failure.isDenial, Failure.ofStatus, h]

/-! ## The stages of storing a file -/

/-- What is done once the collections on the way are ensured, or not. -/
def finish (r : Repository) (p : ResourcePath) (content : Bytes) :
    Except Failure Unit → Dialogue (Except Failure Unit)
  | .error failure => .done (.error failure)
  | .ok () => putContent r p content

/-- What is left to do when the first `n` collections on the way are there. -/
def remaining (r : Repository) (p : ResourcePath) (content : Bytes) (n : Nat) :
    Dialogue (Except Failure Unit) :=
  (createChain r (p.parent.chain.drop n)).bind (finish r p content)

theorem store_eq (h : p.isRoot = false) :
    store r p content = (ensureCollection r p.parent).bind (finish r p content) := by
  rw [store, if_neg (by rw [h]; exact Bool.false_ne_true)]
  rfl

theorem remaining_length :
    remaining r p content p.parent.segments.length = putContent r p content := by
  rw [remaining, ResourcePath.chain_drop_length]
  rfl

/-- A file right below the root is stored at once. -/
theorem store_of_isRoot (h : p.isRoot = false) (hparent : p.parent.isRoot = true) :
    store r p content = putContent r p content := by
  rw [store_eq h, ensureCollection, if_pos hparent]
  rfl

/-- What is left to do when a probe has found the item in the place of the parent, or none. -/
def afterProbe (r : Repository) (p : ResourcePath) (content : Bytes) :
    Option Item → Dialogue (Except Failure Unit)
  | none => remaining r p content 0
  | some .collection => putContent r p content
  | some (.file _) => .done (.error (.occupied (r.collectionUrl p.parent)))

/-- Any other file is stored after a probe of its collection. -/
theorem store_ask (r : Repository) (content : Bytes) (h : p.isRoot = false)
    (hparent : p.parent.isRoot = false) : ∃ next,
    store r p content = .ask (probeRequest (r.collectionUrl p.parent) .zero) next ∧
      ∀ response item?, Reports item? response →
        next (.ok response) = afterProbe r p content item? := by
  obtain ⟨next, hask, hnext⟩ := ensureCollection_ask r hparent
  refine ⟨fun answer => (next answer).bind (finish r p content), ?_,
    fun response item? hreports => ?_⟩
  · rw [store_eq h, hask]
    rfl
  · dsimp only
    rw [hnext response item? hreports]
    cases item? with
    | none => rfl
    | some item => cases item <;> rfl

/-- A dialogue that still has to store the file, and has come as far as the tree says. -/
inductive Pending (r : Repository) (p : ResourcePath) (content : Bytes) (t : Tree) :
    Dialogue (Except Failure Unit) → Prop where
  | probing : p.parent.isRoot = false → Pending r p content t (store r p content)
  | creating {n : Nat} : n ≤ p.parent.segments.length →
      t.at? (p.parent.segments.take n) = some .collection →
      Pending r p content t (remaining r p content n)

/-- What one request may do to the tree, and where it leads. -/
inductive Progress (r : Repository) (p : ResourcePath) (content : Bytes) (t : Tree) :
    Request → Tree → Dialogue (Except Failure Unit) → Prop where
  | unchanged {request : Request} {t' : Tree} {d : Dialogue (Except Failure Unit)} :
      request.method ≠ .put → t' = t → Pending r p content t' d →
      Progress r p content t request t' d
  | created {request : Request} {t' : Tree} {d : Dialogue (Except Failure Unit)} {l : Location} :
      request.method ≠ .put → l <+: p.segments → l ≠ p.segments → t.Puts l .collection t' →
      Pending r p content t' d → Progress r p content t request t' d
  | stored {t' : Tree} : t.Puts p.segments (.file content) t' →
      Progress r p content t (storeRequest (r.url p) content) t' (.done (.ok ()))

/-- Where its collection is, the file is only to be stored. -/
theorem pending_putContent {t : Tree} (h : t.at? p.parent.segments = some .collection) :
    Pending r p content t (putContent r p content) := by
  rw [← remaining_length]
  refine .creating (Nat.le_refl _) ?_
  rw [List.take_length]
  exact h

theorem pending_store (t : Tree) (h : p.isRoot = false) :
    Pending r p content t (store r p content) := by
  cases hparent : p.parent.isRoot with
  | false => exact .probing hparent
  | true =>
    rw [store_of_isRoot h hparent]
    refine pending_putContent ?_
    rw [ResourcePath.isRoot_iff.mp hparent]
    exact t.root

/-- A stage is reached for good, as long as no collection goes away. -/
theorem Pending.mono {t t' : Tree} {d : Dialogue (Except Failure Unit)}
    (h : Pending r p content t d)
    (hkept : ∀ l, t.at? l = some .collection → t'.at? l = some .collection) :
    Pending r p content t' d := by
  cases h with
  | probing hparent => exact .probing hparent
  | creating hn hitem => exact .creating hn (hkept _ hitem)

/-! ## One request -/

variable {σ : Type} {server : σ → Request → Answer × σ} {tree : σ → Tree}

theorem code_ne_of_reports {response : Response} {item? : Option Item}
    (h : Reports item? response) : response.status.code ≠ 409 := by
  cases item? with
  | none =>
    have hcode : response.status.code = 404 := h
    rw [hcode]
    decide
  | some item =>
    rw [h.1]
    decide

/-- The first request of the probing stage, which leads on to the creating stage. -/
theorem step_probing (hf : IsFaithful r server tree) (hp : p.isRoot = false) {s : σ}
    (hadmits : (tree s).Admits p.segments) (hparent : p.parent.isRoot = false) :
    ∃ request next response s', store r p content = .ask request next ∧
      server s request = (.ok response, s') ∧ response.status.code ≠ 409 ∧
        Progress r p content (tree s) request (tree s') (next (.ok response)) := by
  obtain ⟨next, hask, hnext⟩ := store_ask r content hp hparent
  obtain ⟨response, s', hserve, hreports, htree⟩ := hf.probe s p.parent
  refine ⟨_, next, response, s', hask, hserve, code_ne_of_reports hreports,
    .unchanged nofun htree ?_⟩
  rw [hnext response _ hreports, htree]
  cases hitem : (tree s).at? p.parent.segments with
  | none => exact .creating (Nat.zero_le _) (tree s).root
  | some item =>
    cases item with
    | collection => exact pending_putContent hitem
    | file c => exact absurd hitem (hadmits.onWay _ p.parent_onWay (p.parent_ne hp) c)

/-- One more collection on the way. -/
theorem step_creating (hf : IsFaithful r server tree) (hp : p.isRoot = false) {s : σ}
    (hadmits : (tree s).Admits p.segments) {n : Nat} (hn : n < p.parent.segments.length)
    (hitem : (tree s).at? (p.parent.segments.take n) = some .collection) :
    ∃ request next response s', remaining r p content n = .ask request next ∧
      server s request = (.ok response, s') ∧ response.status.code ≠ 409 ∧
        Progress r p content (tree s) request (tree s') (next (.ok response)) := by
  obtain ⟨next, hask, hgo, -⟩ := createChain_ask r (p.parent.take (n + 1))
    (p.parent.chain.drop (n + 1))
  obtain ⟨response, s', hserve, hends⟩ := hf.create s (p.parent.take (n + 1))
  have hremaining : remaining r p content n =
      .ask (creationRequest (r.url (p.parent.take (n + 1))))
        fun answer => (next answer).bind (finish r p content) := by
    rw [remaining, ResourcePath.chain_drop hn, hask]
    rfl
  have hway : (p.parent.take (n + 1)).segments <+: p.parent.segments := List.take_prefix _ _
  have hne := ResourcePath.ne_of_prefix_parent hp hway
  have habove : (tree s).at? (p.parent.take (n + 1)).segments.dropLast = some .collection := by
    rw [ResourcePath.dropLast_take_succ hn]
    exact hitem
  cases hpresent : (tree s).at? (p.parent.take (n + 1)).segments with
  | none =>
    obtain ⟨t', hcreate, hputs⟩ := Tree.create_of_absent hpresent habove
    rw [hcreate] at hends
    obtain ⟨hcode, htree⟩ := hends
    refine ⟨_, _, response, s', hremaining, hserve, by rw [hcode]; decide, ?_⟩
    rw [hgo response (Or.inl hcode)]
    refine .created nofun (hway.trans p.parent_onWay) hne (htree ▸ hputs) (.creating hn ?_)
    rw [htree]
    exact hputs.here
  | some item =>
    rw [Tree.create_of_present hpresent] at hends
    obtain ⟨hcode, htree⟩ := hends
    refine ⟨_, _, response, s', hremaining, hserve, by rw [hcode]; decide, ?_⟩
    rw [hgo response (Or.inr hcode)]
    refine .unchanged nofun htree (.creating hn ?_)
    rw [htree]
    cases item with
    | collection => exact hpresent
    | file c =>
      exact absurd hpresent (hadmits.onWay _ (hway.trans p.parent_onWay) hne c)

/-- The last request stores the file. -/
theorem step_storing (hf : IsFaithful r server tree) (content : Bytes) {s : σ}
    (hfree : (tree s).at? p.segments ≠ some .collection)
    (hitem : (tree s).at? p.parent.segments = some .collection) :
    ∃ next response s', putContent r p content = .ask (storeRequest (r.url p) content) next ∧
      server s (storeRequest (r.url p) content) = (.ok response, s') ∧
        response.status.isSuccess = true ∧ next (.ok response) = .done (.ok ()) ∧
          (tree s).Puts p.segments (.file content) (tree s') := by
  obtain ⟨next, hask, hnext⟩ := putContent_ask r p content
  obtain ⟨response, s', hserve, hends⟩ := hf.store s p content
  obtain ⟨t', hstore, hputs⟩ := Tree.store_of_free hitem hfree
  rw [hstore] at hends
  obtain ⟨hsuccess, htree⟩ := hends
  refine ⟨next, response, s', hask, hserve, hsuccess, ?_, htree ▸ hputs⟩
  rw [hnext, putOutcome_of_success hsuccess]

theorem Pending.step (hf : IsFaithful r server tree) (hp : p.isRoot = false) {s : σ}
    (hadmits : (tree s).Admits p.segments) {d : Dialogue (Except Failure Unit)}
    (h : Pending r p content (tree s) d) :
    ∃ request next response s', d = .ask request next ∧
      server s request = (.ok response, s') ∧ response.status.code ≠ 409 ∧
        Progress r p content (tree s) request (tree s') (next (.ok response)) := by
  cases h with
  | probing hparent => exact step_probing hf hp hadmits hparent
  | @creating n hn hitem =>
    rcases Nat.lt_or_eq_of_le hn with hlt | rfl
    · exact step_creating hf hp hadmits hlt hitem
    · rw [List.take_length] at hitem
      obtain ⟨next, response, s', hask, hserve, hsuccess, hdone, hputs⟩ :=
        step_storing hf content hadmits.target hitem
      refine ⟨_, next, response, s', remaining_length.trans hask, hserve, ?_, ?_⟩
      · intro hcode
        rw [Status.isSuccess, hcode] at hsuccess
        exact absurd hsuccess (by decide)
      · rw [hdone]
        exact .stored hputs

/-- A disk with one file. -/
def fileDisk : Local.Disk where
  entries := [([['f']], .file [7])]
  current := []

end DavCourier.Transfer
