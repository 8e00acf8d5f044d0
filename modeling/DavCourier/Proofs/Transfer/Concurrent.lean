import DavCourier.Proofs.Transfer.Clients
import DavCourier.Proofs.Transfer.Upload

/-!
# Uploads at the same time

Several clients upload to one faithful server. `AtWork` is what holds at any time, in
whatever order the server answers them : each client is at a stage that the tree bears out, or
it is done and its file was stored. No request of one client takes away what another one
needs, as collections stay (`AtWork.step`). So all of them succeed, and in the end the tree
has what each upload alone would have given it : `concurrent_uploads`.
-/

namespace DavCourier.Transfer

open Http Server

/-! ## What was stored last -/

/-- The content of the last request to store a file at an address. -/
def lastStored (log : List (Request × Answer)) (url : String) : Option Bytes :=
  (log.find? fun e => e.1.method = .put ∧ e.1.url = url).bind fun e => e.1.body

theorem lastStored_cons_of_method {e : Request × Answer} (h : e.1.method ≠ .put)
    (log : List (Request × Answer)) (url : String) :
    lastStored (e :: log) url = lastStored log url := by
  rw [lastStored, List.find?_cons_of_neg (by simp [h]), lastStored]

theorem lastStored_cons_self (url : String) (content : Bytes) (answer : Answer)
    (log : List (Request × Answer)) :
    lastStored ((storeRequest url content, answer) :: log) url = some content := by
  rw [lastStored, List.find?_cons_of_pos (by simp [storeRequest])]
  rfl

theorem lastStored_cons_of_ne {url url' : String} (h : url' ≠ url) (content : Bytes)
    (answer : Answer) (log : List (Request × Answer)) :
    lastStored ((storeRequest url' content, answer) :: log) url = lastStored log url := by
  rw [lastStored, List.find?_cons_of_neg (by simp [storeRequest, h]), lastStored]

/-! ## The invariant -/

variable {ι σ : Type} {server : σ → Request → Answer × σ} {tree : σ → Tree}
  {r : Repository} {p : ι → ResourcePath} {content : ι → Bytes}

/-- What holds while clients store files at the paths `p`, from the tree `t₀` on. -/
structure AtWork (r : Repository) (tree : σ → Tree) (p : ι → ResourcePath) (content : ι → Bytes)
    (t₀ : Tree) (c : Clients ι (Except Failure Unit) σ) : Prop where
  admits : ∀ i, (tree c.state).Admits (p i).segments
  /-- A client is at a stage, or its file was stored. -/
  stages : ∀ i, Pending r (p i) (content i) (tree c.state) (c.dialogues i) ∨
    c.dialogues i = .done (.ok ()) ∧ (lastStored c.log (r.url (p i))).isSome
  /-- A path holds what was stored there last. -/
  targets : ∀ i, (tree c.state).at? (p i).segments =
    ((lastStored c.log (r.url (p i))).map Item.file).or (t₀.at? (p i).segments)
  others : ∀ l, (∀ i, ¬ l <+: (p i).segments) → (tree c.state).at? l = t₀.at? l
  answers : ∀ e ∈ c.log, ∃ response, e.2 = .ok response ∧ response.status.code ≠ 409

namespace AtWork

variable {t₀ : Tree} {c c' : Clients ι (Except Failure Unit) σ}

theorem start {s : σ} (hname : ∀ i, (p i).isRoot = false)
    (hadmits : ∀ i, (tree s).Admits (p i).segments) :
    AtWork r tree p content (tree s)
      (Clients.start s fun i => store r (p i) (content i)) where
  admits := hadmits
  stages i := Or.inl (pending_store _ (hname i))
  targets _ := rfl
  others _ _ := rfl
  answers := nofun

theorem answers_cons (h : AtWork r tree p content t₀ c) {request : Request}
    {response : Response} (hcode : response.status.code ≠ 409) :
    ∀ e ∈ (request, .ok response) :: c.log, ∃ response : Response, e.2 = .ok response ∧
      response.status.code ≠ 409 := by
  intro e he
  rcases List.mem_cons.mp he with rfl | he
  · exact ⟨response, rfl, hcode⟩
  · exact h.answers e he

variable [DecidableEq ι]

/-- The stages once a client goes on. The others stay at theirs. -/
theorem stages_goOn (h : AtWork r tree p content t₀ c) {i : ι} {s : σ} {e : Request × Answer}
    {d : Dialogue (Except Failure Unit)}
    (hd : Pending r (p i) (content i) (tree s) d ∨
      d = .done (.ok ()) ∧ (lastStored (e :: c.log) (r.url (p i))).isSome)
    (hkept : ∀ l, (tree c.state).at? l = some .collection → (tree s).at? l = some .collection)
    (hlog : ∀ url, (lastStored c.log url).isSome → (lastStored (e :: c.log) url).isSome) (j : ι) :
    Pending r (p j) (content j) (tree s) ((c.goOn i s d [e]).dialogues j) ∨
      (c.goOn i s d [e]).dialogues j = .done (.ok ()) ∧
        (lastStored (e :: c.log) (r.url (p j))).isSome := by
  by_cases heq : j = i
  · subst heq
    rw [Clients.dialogues_goOn_self]
    exact hd
  · rw [Clients.dialogues_goOn_of_ne heq]
    rcases h.stages j with hpending | ⟨hdone, hstored⟩
    · exact Or.inl (hpending.mono hkept)
    · exact Or.inr ⟨hdone, hlog _ hstored⟩

/-- A request that stores nothing, and at most creates a collection on the way to a file. -/
theorem goOn_pending (h : AtWork r tree p content t₀ c) {i : ι} {s : σ} {request : Request}
    {response : Response} {d : Dialogue (Except Failure Unit)} (hmethod : request.method ≠ .put)
    (hcode : response.status.code ≠ 409) (hd : Pending r (p i) (content i) (tree s) d)
    (hadmits : ∀ j, (tree s).Admits (p j).segments)
    (hkept : ∀ l, (tree c.state).at? l = some .collection → (tree s).at? l = some .collection)
    (htargets : ∀ j, (tree s).at? (p j).segments = (tree c.state).at? (p j).segments)
    (hothers : ∀ l, (∀ j, ¬ l <+: (p j).segments) → (tree s).at? l = (tree c.state).at? l) :
    AtWork r tree p content t₀ (c.goOn i s d [(request, .ok response)]) := by
  have hlog : ∀ url, lastStored ((request, .ok response) :: c.log) url = lastStored c.log url :=
    lastStored_cons_of_method hmethod c.log
  refine ⟨hadmits, ?_, fun j => ?_, fun l hl => (hothers l hl).trans (h.others l hl),
    h.answers_cons hcode⟩
  · exact h.stages_goOn (Or.inl hd) hkept fun url hstored => by rw [hlog]; exact hstored
  · rw [Clients.log_goOn, List.singleton_append, hlog]
    exact (htargets j).trans (h.targets j)

/-- A request that stores a file. -/
theorem goOn_stored (h : AtWork r tree p content t₀ c)
    (hdisjoint : ∀ i j, (p i).segments <+: (p j).segments → (p i).segments = (p j).segments)
    {i : ι} {s : σ} {response : Response} (hcode : response.status.code ≠ 409)
    (hputs : (tree c.state).Puts (p i).segments (.file (content i)) (tree s)) :
    AtWork r tree p content t₀ (c.goOn i s (.done (.ok ()))
      [(storeRequest (r.url (p i)) (content i), .ok response)]) := by
  have hself := lastStored_cons_self (r.url (p i)) (content i) (.ok response) c.log
  refine ⟨fun j => (h.admits j).of_stored (hdisjoint i j) hputs, ?_, fun j => ?_,
    fun l hl => ?_, h.answers_cons hcode⟩
  · refine h.stages_goOn (Or.inr ⟨rfl, ?_⟩) (fun l => hputs.at?_collection ?_) fun url hstored => ?_
    · rw [hself]
      rfl
    · intro hcollection
      exact absurd hcollection (h.admits i).target
    · by_cases heq : r.url (p i) = url
      · rw [← heq, hself]
        rfl
      · rw [lastStored_cons_of_ne heq]
        exact hstored
  · rw [Clients.log_goOn, List.singleton_append]
    by_cases heq : p j = p i
    · rw [heq, hself]
      exact hputs.here
    · have hurl : r.url (p i) ≠ r.url (p j) := fun hurl => heq (r.url_injective hurl).symm
      have hsegments : (p j).segments ≠ (p i).segments := fun hsegments =>
        heq (ResourcePath.ext_segments hsegments)
      rw [lastStored_cons_of_ne hurl]
      exact (hputs.others _ hsegments).trans (h.targets j)
  · rw [← h.others l hl]
    refine hputs.others l ?_
    rintro rfl
    exact hl i (List.prefix_refl _)

theorem step (hf : IsFaithful r server tree) (hname : ∀ i, (p i).isRoot = false)
    (hdisjoint : ∀ i j, (p i).segments <+: (p j).segments → (p i).segments = (p j).segments)
    (h : AtWork r tree p content t₀ c) (hstep : Clients.Step server c c') :
    AtWork r tree p content t₀ c' := by
  cases hstep with
  | @answer i request next answer s hask hserve =>
    rcases h.stages i with hpending | ⟨hdone, -⟩
    · obtain ⟨_, _, response, _, hask', hserve', hcode, hprogress⟩ :=
        hpending.step hf (hname i) (h.admits i)
      cases hask.symm.trans hask'
      cases hserve.symm.trans hserve'
      generalize htree : tree s = t at hprogress
      generalize next (.ok response) = d at hprogress
      cases hprogress with
      | unchanged hmethod hsame hd =>
        subst htree
        exact h.goOn_pending hmethod hcode hd (hsame ▸ h.admits) (fun l hl => hsame ▸ hl)
          (fun j => by rw [hsame]) fun l _ => by rw [hsame]
      | @created _ _ _ l hmethod hl hne hputs hd =>
        subst htree
        have hother : ∀ j, l ≠ (p j).segments := by
          rintro j rfl
          exact hne (hdisjoint j i hl)
        refine h.goOn_pending hmethod hcode hd (fun j => (h.admits j).of_created (hother j) hputs)
          (fun m => hputs.at?_collection fun _ => rfl)
          (fun j => hputs.others _ (Ne.symm (hother j))) fun m hm => hputs.others m ?_
        rintro rfl
        exact hm i hl
      | stored hputs =>
        subst htree
        exact h.goOn_stored hdisjoint hcode hputs
    · rw [hask] at hdone
      cases hdone

theorem steps (hf : IsFaithful r server tree) (hname : ∀ i, (p i).isRoot = false)
    (hdisjoint : ∀ i j, (p i).segments <+: (p j).segments → (p i).segments = (p j).segments)
    (h : AtWork r tree p content t₀ c)
    (hsteps : Relation.ReflTransGen (Clients.Step server) c c') :
    AtWork r tree p content t₀ c' := by
  induction hsteps with
  | refl => exact h
  | tail _ hstep ih => exact ih.step hf hname hdisjoint hstep

omit [DecidableEq ι] in
/-- A client that is done has stored its file. -/
theorem of_done (hf : IsFaithful r server tree) (hname : ∀ i, (p i).isRoot = false)
    (h : AtWork r tree p content t₀ c) {i : ι} {result : Except Failure Unit}
    (hdone : c.dialogues i = .done result) :
    result = .ok () ∧ ∃ body, lastStored c.log (r.url (p i)) = some body ∧
      (tree c.state).at? (p i).segments = some (.file body) := by
  rcases h.stages i with hpending | ⟨hok, hstored⟩
  · obtain ⟨_, _, _, _, hask, -⟩ := hpending.step hf (hname i) (h.admits i)
    rw [hdone] at hask
    cases hask
  · obtain ⟨body, hbody⟩ := Option.isSome_iff_exists.mp hstored
    cases hdone.symm.trans hok
    refine ⟨rfl, body, hbody, ?_⟩
    rw [h.targets i, hbody]
    rfl

end AtWork

/-- Clients that upload files to different places, none of them on the way to another one,
do not disturb each other, in whatever order the server answers them. Those that are done have
succeeded, and no answer was a conflict. Once all are done, each place has what was stored
there last, all around it are collections, and nothing else has changed. -/
theorem concurrent_uploads [DecidableEq ι] (hf : IsFaithful r server tree)
    {disk : ι → Local.Disk} {source name : ι → String}
    (hread : ∀ i, readSource (disk i) (source i) = .ok (content i))
    (hname : ∀ i, (ResourcePath.ofString (name i)).isRoot = false) {s : σ}
    (hadmits : ∀ i, (tree s).Admits (ResourcePath.ofString (name i)).segments)
    (hdisjoint : ∀ i j, (ResourcePath.ofString (name i)).segments <+:
      (ResourcePath.ofString (name j)).segments →
        (ResourcePath.ofString (name i)).segments = (ResourcePath.ofString (name j)).segments)
    {c : Clients ι (Except Failure Unit) σ}
    (hsteps : Relation.ReflTransGen (Clients.Step server)
      (Clients.start s fun i => upload r (disk i) (source i) (.ofString (name i))) c) :
    (∀ i result, c.dialogues i = .done result → result = .ok ()) ∧
      (∀ e ∈ c.log, ∃ response : Response, e.2 = .ok response ∧ response.status.code ≠ 409) ∧
      ((∀ i, ∃ result, c.dialogues i = .done result) →
        (∀ i, ∃ body, lastStored c.log (r.url (.ofString (name i))) = some body ∧
          (tree c.state).at? (ResourcePath.ofString (name i)).segments = some (.file body)) ∧
        (∀ i l, l <+: (ResourcePath.ofString (name i)).segments →
          l ≠ (ResourcePath.ofString (name i)).segments →
            (tree c.state).at? l = some .collection) ∧
        ∀ l, (∀ i, ¬ l <+: (ResourcePath.ofString (name i)).segments) →
          (tree c.state).at? l = (tree s).at? l) := by
  have hstore : (fun i => upload r (disk i) (source i) (.ofString (name i))) =
      fun i => store r (.ofString (name i)) (content i) :=
    funext fun i => upload_eq_store (hname i) (hread i)
  rw [hstore] at hsteps
  have h := (AtWork.start hname hadmits).steps hf hname hdisjoint hsteps
  refine ⟨fun i result hdone => (h.of_done hf hname hdone).1, h.answers, fun hall => ?_⟩
  have hfiles : ∀ i, ∃ body, lastStored c.log (r.url (.ofString (name i))) = some body ∧
      (tree c.state).at? (ResourcePath.ofString (name i)).segments = some (.file body) := by
    intro i
    obtain ⟨result, hdone⟩ := hall i
    exact (h.of_done hf hname hdone).2
  refine ⟨hfiles, fun i l hl hne => ?_, h.others⟩
  obtain ⟨body, -, hfile⟩ := hfiles i
  exact Tree.at?_onWay hfile hl hne

theorem concurrent_uploads_two : ∃ c : Clients Bool (Except Failure Unit) Tree,
    Relation.ReflTransGen (Clients.Step (serve ⟨"http://host".toList, []⟩))
        (Clients.start Tree.bare fun i => upload ⟨"http://host".toList, []⟩ fileDisk
          "f" (.ofString (if i then "a/b" else "a/c"))) c ∧
      (∀ i, c.dialogues i = .done (.ok ())) ∧ c.state.at? [['a']] = some .collection ∧
        ∃ body, c.state.at? [['a'], ['b']] = some (.file body) := by
  have hsegments : (ResourcePath.ofString (if true then "a/b" else "a/c")).segments =
      [['a'], ['b']] := by decide
  have hread : readSource fileDisk "f" = .ok [7] := by decide
  obtain ⟨c, hsteps, hall⟩ := Clients.exists_steps_done (serve ⟨"http://host".toList, []⟩)
    (Clients.start Tree.bare fun i : Bool => upload ⟨"http://host".toList, []⟩ fileDisk
      "f" (.ofString (if i then "a/b" else "a/c")))
  obtain ⟨hok, -, hend⟩ := concurrent_uploads (isFaithful_serve ⟨"http://host".toList, []⟩)
    (fun _ => hread) (by decide) (fun i => Tree.admits_bare (by revert i; decide)) (by decide)
    hsteps
  obtain ⟨hfiles, hway, -⟩ := hend hall
  refine ⟨c, hsteps, fun i => ?_, ?_, ?_⟩
  · obtain ⟨result, hdone⟩ := hall i
    rw [hdone, hok i result hdone]
  · exact hway true [['a']] (by decide) (by decide)
  · obtain ⟨body, -, hfile⟩ := hfiles true
    rw [hsegments] at hfile
    exact ⟨body, hfile⟩

end DavCourier.Transfer
