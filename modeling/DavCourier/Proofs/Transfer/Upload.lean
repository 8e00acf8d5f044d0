import DavCourier.Proofs.Transfer.Store

/-!
# Uploads to a faithful server

`upload_refines` : an upload does what one would do by hand, which is to make all missing
collections on the way and to store the file. It does so exactly where the tree admits the
file, by `Pending.run`. Anywhere else it fails, and the tree stays as it is
(`run_store_of_not_admits`). An upload that is repeated creates nothing.
-/

namespace DavCourier.Transfer

open Http Dav Server

variable {σ : Type} {server : σ → Request → Answer × σ} {tree : σ → Tree} {r : Repository}
  {p : ResourcePath} {content : Bytes}

/-! ## Where the tree admits the file -/

/-- From any stage on the run ends well, and the tree has the file and the collections around
it. -/
theorem Pending.run (hf : IsFaithful r server tree) (hp : p.isRoot = false)
    {d : Dialogue (Except Failure Unit)} {s : σ} (hadmits : (tree s).Admits p.segments)
    (h : Pending r p content (tree s) d) :
    ∃ s', d.run server s = (.ok (), s') ∧ (tree s).Extends p.segments content (tree s') := by
  induction d generalizing s with
  | done result =>
    obtain ⟨_, _, _, _, hask, -⟩ := h.step hf hp hadmits
    cases hask
  | ask request next ih =>
    obtain ⟨_, _, response, s₁, hask, hserve, -, hprogress⟩ := h.step hf hp hadmits
    cases hask
    rw [Dialogue.run_ask hserve]
    generalize ht : tree s₁ = t at hprogress
    generalize hd : next (.ok response) = d at hprogress
    cases hprogress with
    | unchanged _ htree hpending =>
      subst hd ht
      obtain ⟨s', hrun, hextends⟩ := ih _ (htree ▸ hadmits) hpending
      exact ⟨s', hrun, htree ▸ hextends⟩
    | created _ hl hne hputs hpending =>
      subst hd ht
      obtain ⟨s', hrun, hextends⟩ := ih _ (hadmits.of_created hne hputs) hpending
      exact ⟨s', hrun, hextends.of_created hl hputs⟩
    | stored hputs =>
      subst ht
      exact ⟨s₁, rfl, Tree.extends_of_stored hputs⟩

/-! ## Where it does not -/

/-- A chain ends at the first file on the way, and creates nothing. -/
theorem run_createChain_of_file (hf : IsFaithful r server tree) {q : ResourcePath} {n : Nat}
    (hn : n < q.segments.length) {s : σ} {c : Bytes}
    (hfile : (tree s).at? (q.segments.take n) = some (.file c)) {k : Nat} (hk : k ≤ n) :
    ∃ failure s', (createChain r (q.chain.drop k)).run server s = (.error failure, s') ∧
      tree s' = tree s := by
  obtain ⟨next, hask, hgo, hfail⟩ := createChain_ask r (q.take (k + 1)) (q.chain.drop (k + 1))
  obtain ⟨response, s₁, hserve, hends⟩ := hf.create s (q.take (k + 1))
  rw [ResourcePath.chain_drop (by omega), hask, Dialogue.run_ask hserve]
  by_cases hkn : k = n
  · -- the first location below the file, where nothing can be created
    subst hkn
    have habsent : (tree s).at? (q.take (k + 1)).segments = none := by
      refine Tree.at?_eq_none (by rw [hfile]; exact nofun)
        (List.take_prefix_take_left (Nat.le_succ k)) ?_
      intro (heq : q.segments.take k = q.segments.take (k + 1))
      have hlen := congrArg List.length heq
      rw [List.length_take, List.length_take] at hlen
      omega
    have habove : (tree s).at? (q.take (k + 1)).segments.dropLast ≠ some .collection := by
      rw [ResourcePath.dropLast_take_succ hn, hfile]
      exact nofun
    rw [Tree.create_of_orphan habsent habove] at hends
    rw [hfail response hends.1]
    exact ⟨_, s₁, rfl, hends.2⟩
  · -- a location up to the file, where something is
    obtain ⟨_, hpresent⟩ : ∃ item, (tree s).at? (q.take (k + 1)).segments = some item :=
      Tree.exists_at?_onWay hfile (List.take_prefix_take_left (by omega))
    rw [Tree.create_of_present hpresent] at hends
    rw [hgo response (Or.inr hends.1)]
    obtain ⟨failure, s', hrun, htree⟩ :=
      run_createChain_of_file hf hn (hends.2 ▸ hfile) (show k + 1 ≤ n by omega)
    exact ⟨failure, s', hrun, htree.trans hends.2⟩
termination_by n - k

/-- The probe leaves the tree as it is, and what follows depends on the place of the parent. -/
theorem run_store_probe (hf : IsFaithful r server tree) (content : Bytes) (hp : p.isRoot = false)
    (hparent : p.parent.isRoot = false) (s : σ) : ∃ response s₁, tree s₁ = tree s ∧
      (store r p content).run server s =
        (afterProbe r p content ((tree s).at? p.parent.segments)).run server s₁ ∧
      (store r p content).transcript server s =
        (probeRequest (r.collectionUrl p.parent) .zero, .ok response) ::
          (afterProbe r p content ((tree s).at? p.parent.segments)).transcript server s₁ := by
  obtain ⟨next, hask, hnext⟩ := store_ask r content hp hparent
  obtain ⟨response, s₁, hserve, hreports, htree⟩ := hf.probe s p.parent
  have hafter := hnext response _ hreports
  refine ⟨response, s₁, htree, ?_, ?_⟩
  · rw [hask, Dialogue.run_ask hserve, hafter]
  · rw [hask, Dialogue.transcript_ask hserve, hafter]

/-- Where its collection is, a file is stored after no more than a probe. -/
theorem run_store_of_collection (hf : IsFaithful r server tree) (content : Bytes)
    (hp : p.isRoot = false) {s : σ} (h : (tree s).at? p.parent.segments = some .collection) :
    ∃ s₁ exchanges, (store r p content).run server s = (putContent r p content).run server s₁ ∧
      (store r p content).transcript server s =
        exchanges ++ (putContent r p content).transcript server s₁ ∧
      tree s₁ = tree s ∧ ∀ e ∈ exchanges, e.1.method ≠ .mkcol := by
  cases hparent : p.parent.isRoot with
  | true =>
    rw [store_of_isRoot hp hparent]
    exact ⟨s, [], rfl, rfl, rfl, nofun⟩
  | false =>
    obtain ⟨response, s₁, htree, hrun, htranscript⟩ := run_store_probe hf content hp hparent s
    rw [h] at hrun htranscript
    refine ⟨s₁, [_], hrun, htranscript, htree, fun e he => ?_⟩
    rw [List.mem_singleton.mp he]
    exact nofun

/-- A collection cannot be replaced by a file. -/
theorem run_putContent_of_collection (hf : IsFaithful r server tree) (content : Bytes) {s : σ}
    (h : (tree s).at? p.segments = some .collection) : ∃ failure s',
      (putContent r p content).run server s = (.error failure, s') ∧ tree s' = tree s := by
  obtain ⟨next, hask, hnext⟩ := putContent_ask r p content
  obtain ⟨response, s', hserve, hends⟩ := hf.store s p content
  rw [Tree.store_of_collection h] at hends
  rw [hask, Dialogue.run_ask hserve, hnext, putOutcome_of_collection hends.1]
  exact ⟨_, s', rfl, hends.2⟩

theorem isRoot_eq_false {t : Tree} {q : ResourcePath} (h : t.at? q.segments ≠ some .collection) :
    q.isRoot = false := by
  cases hroot : q.isRoot with
  | false => rfl
  | true =>
    rw [ResourcePath.isRoot_iff.mp hroot] at h
    exact absurd t.root h

theorem run_store_of_absent (hf : IsFaithful r server tree) (hp : p.isRoot = false) {s : σ}
    (h : ¬ (tree s).Admits p.segments) (habsent : (tree s).at? p.parent.segments = none) :
    ∃ failure s', (store r p content).run server s = (.error failure, s') ∧
      tree s' = tree s := by
  have hmissing : (tree s).at? p.parent.segments ≠ some .collection := by
    rw [habsent]
    exact (Option.some_ne_none _).symm
  have hparent : p.parent.isRoot = false := isRoot_eq_false hmissing
  obtain ⟨m, hm, hne, c, hfile⟩ : ∃ m, m <+: p.segments ∧ m ≠ p.segments ∧
      ∃ c, (tree s).at? m = some (.file c) := by
    by_contra hnone
    refine h ⟨fun m hm hne c hfile => hnone ⟨m, hm, hne, c, hfile⟩, ?_⟩
    have hbelow := Tree.at?_eq_none hmissing p.parent_onWay (ResourcePath.parent_ne hp)
    rw [hbelow]
    exact (Option.some_ne_none _).symm
  have hway : m <+: p.parent.segments := prefix_dropLast hm hne
  have hlt : m.length < p.parent.segments.length := by
    refine Nat.lt_of_le_of_ne hway.length_le fun hlen => ?_
    rw [hway.eq_of_length hlen, habsent] at hfile
    cases hfile
  rw [List.prefix_iff_eq_take.mp hway] at hfile
  obtain ⟨_, s₁, htree, hrun, -⟩ := run_store_probe hf content hp hparent s
  rw [← htree] at hfile
  obtain ⟨failure, s', hchain, htree'⟩ :=
    run_createChain_of_file hf hlt hfile (Nat.zero_le m.length)
  rw [hrun, habsent, afterProbe, remaining, Dialogue.run_bind, hchain]
  exact ⟨failure, s', rfl, htree'.trans htree⟩

/-- Where the tree does not admit the file, nothing is stored and the tree stays as it is. -/
theorem run_store_of_not_admits (hf : IsFaithful r server tree) (hp : p.isRoot = false) {s : σ}
    (h : ¬ (tree s).Admits p.segments) : ∃ failure s',
      (store r p content).run server s = (.error failure, s') ∧ tree s' = tree s := by
  cases hitem : (tree s).at? p.parent.segments with
  | none => exact run_store_of_absent hf hp h hitem
  | some item =>
    cases item with
    | collection =>
      have htarget : (tree s).at? p.segments = some .collection := by
        by_contra hfree
        exact h (Tree.admits_of_free hitem hfree)
      obtain ⟨s₁, _, hrun, -, htree, -⟩ := run_store_of_collection hf content hp hitem
      obtain ⟨failure, s', hput, htree'⟩ :=
        run_putContent_of_collection hf content (htree ▸ htarget)
      exact ⟨failure, s', hrun.trans hput, htree'.trans htree⟩
    | file c =>
      have hparent : p.parent.isRoot = false :=
        isRoot_eq_false (by rw [hitem]; exact nofun)
      obtain ⟨_, s', htree, hrun, -⟩ := run_store_probe hf content hp hparent s
      rw [hitem] at hrun
      exact ⟨_, s', hrun, htree⟩

/-! ## Uploads -/

/-- A file that is there is stored again without a request for a collection. -/
theorem run_store_again (hf : IsFaithful r server tree) (hp : p.isRoot = false) {s : σ}
    (h : (tree s).at? p.segments = some (.file content)) : ∃ s',
      (store r p content).run server s = (.ok (), s') ∧ tree s' = tree s ∧
        ∀ e ∈ (store r p content).transcript server s, e.1.method ≠ .mkcol := by
  have habove : (tree s).at? p.parent.segments = some .collection :=
    Tree.at?_dropLast h
  obtain ⟨s₁, exchanges, hrun, htranscript, htree, hprobe⟩ :=
    run_store_of_collection hf content hp habove
  rw [← htree] at h habove
  obtain ⟨next, response, s', hask, hserve, -, hdone, hputs⟩ :=
    step_storing hf content (by rw [h]; exact nofun) habove
  refine ⟨s', ?_, (hputs.eq_of_at? h).trans htree, ?_⟩
  · rw [hrun, hask, Dialogue.run_ask hserve, hdone]
    rfl
  · rw [htranscript, hask, Dialogue.transcript_ask hserve, hdone]
    intro e he
    rcases List.mem_append.mp he with he | he
    · exact hprobe e he
    · rw [List.mem_singleton.mp he]
      exact nofun

theorem upload_eq_store {disk : Local.Disk} {source : String} (hp : p.isRoot = false)
    (hread : readSource disk source = .ok content) :
    upload r disk source p = store r p content := by
  rw [upload, if_neg (by rw [hp]; exact Bool.false_ne_true), hread]

/-- An upload succeeds if and only if no file is on the way to the name and no collection has
it. Then the tree has the content of the source there, the collections around it and
otherwise what it had, and a second upload creates nothing and changes nothing. An upload that
fails leaves the tree as it is. -/
theorem upload_refines (hf : IsFaithful r server tree) {disk : Local.Disk} {source name : String}
    (hread : readSource disk source = .ok content)
    (hname : (ResourcePath.ofString name).isRoot = false) (s : σ) :
    ∃ result s', (upload r disk source (.ofString name)).run server s = (result, s') ∧
      (result = .ok () ↔ (tree s).Admits (ResourcePath.ofString name).segments) ∧
      (result = .ok () →
        (tree s).Extends (ResourcePath.ofString name).segments content (tree s') ∧
          ∃ s'', (upload r disk source (.ofString name)).run server s' = (.ok (), s'') ∧
            tree s'' = tree s' ∧
            ∀ e ∈ (upload r disk source (.ofString name)).transcript server s',
              e.1.method ≠ .mkcol) ∧
      (result ≠ .ok () → tree s' = tree s) := by
  rw [upload_eq_store hname hread]
  by_cases hadmits : (tree s).Admits (ResourcePath.ofString name).segments
  · obtain ⟨s', hrun, hextends⟩ :=
      Pending.run hf hname hadmits (pending_store (tree s) hname)
    exact ⟨.ok (), s', hrun, ⟨fun _ => hadmits, fun _ => rfl⟩,
      fun _ => ⟨hextends, run_store_again hf hname hextends.target⟩, fun h => absurd rfl h⟩
  · obtain ⟨failure, s', hrun, htree⟩ := run_store_of_not_admits hf hname hadmits
    exact ⟨.error failure, s', hrun, ⟨nofun, fun h => absurd h hadmits⟩, nofun, fun _ => htree⟩

theorem upload_refines_bare : ∃ t,
    (upload ⟨"http://host".toList, []⟩ fileDisk "f" (.ofString "a//b")).run
        (serve ⟨"http://host".toList, []⟩) Tree.bare = (.ok (), t) ∧
      t.at? [['a']] = some .collection ∧ t.at? [['a'], ['b']] = some (.file [7]) := by
  have hsegments : (ResourcePath.ofString "a//b").segments = [['a'], ['b']] := by decide
  have hread : readSource fileDisk "f" = .ok [7] := by decide
  obtain ⟨result, t, hrun, hiff, hok, -⟩ :=
    upload_refines (isFaithful_serve ⟨"http://host".toList, []⟩) hread
      (show (ResourcePath.ofString "a//b").isRoot = false by decide) Tree.bare
  rw [hsegments] at hiff hok
  have hresult := hiff.mpr (Tree.admits_bare (List.cons_ne_nil _ _))
  obtain ⟨hextends, -⟩ := hok hresult
  rw [hresult] at hrun
  exact ⟨t, hrun, hextends.onWay _ (by decide) (by decide), hextends.target⟩

end DavCourier.Transfer
