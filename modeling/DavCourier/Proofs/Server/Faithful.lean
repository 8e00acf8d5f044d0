import DavCourier.Proofs.Dav.RoundTrip
import DavCourier.Proofs.Repository.Address
import DavCourier.Proofs.Server.Tree
import DavCourier.Transfer.Upload

/-!
# Faithful servers

A server is faithful (`IsFaithful`) if its state stands for a tree, a probe reports what the
tree has, and the requests to create a collection and to store a file change the tree as
`Tree.create` and `Tree.store` say. Nothing is assumed of other requests. `serve` is such a
server (`isFaithful_serve`).
-/

namespace DavCourier.Server

open Http Dav Transfer

/-- The answer to a probe where the item is, or where none is. -/
def Reports (item? : Option Item) (response : Response) : Prop :=
  match item? with
  | none => response.status.code = 404
  | some item => response.status.code = 207 ∧
      ∃ report entry, MultiStatus.parse response.body = .ok (some report) ∧
        report.entries = [entry] ∧ entry.isCollection = item.isCollection

/-- The answer to a request for a change of the tree `t`, and the tree `t'` after it : the
change is made with a status of success, or the status says what stands against it. -/
def Ends (isSuccess : Status → Prop) (outcome : Except UInt16 Tree) (response : Response)
    (t t' : Tree) : Prop :=
  match outcome with
  | .ok changed => isSuccess response.status ∧ t' = changed
  | .error code => response.status.code = code ∧ t' = t

/-- A server of a repository whose states stand for trees. -/
structure IsFaithful {σ : Type} (r : Repository) (server : σ → Request → Answer × σ)
    (tree : σ → Tree) : Prop where
  probe : ∀ s p, ∃ response s',
    server s (probeRequest (r.collectionUrl p) .zero) = (.ok response, s') ∧
      Reports ((tree s).at? p.segments) response ∧ tree s' = tree s
  create : ∀ s p, ∃ response s', server s (creationRequest (r.url p)) = (.ok response, s') ∧
    Ends (fun status => status.code = 201) ((tree s).create p.segments) response
      (tree s) (tree s')
  store : ∀ s p content, ∃ response s',
    server s (storeRequest (r.url p) content) = (.ok response, s') ∧
      Ends (fun status => status.isSuccess = true) ((tree s).store p.segments content) response
        (tree s) (tree s')

/-! ## A faithful server -/

/-- An answer without headers. -/
def reply (code : UInt16) (body : Bytes) : Answer :=
  .ok { status := { code := code }, body := body }

/-- The answer to a probe. -/
def reportOn (url : String) : Option Item → Answer
  | none => reply 404 []
  | some item =>
    let entry : Resource := { href := url, isCollection := item.isCollection }
    reply 207 (Utf8.encodeString (MultiStatus.empty.insert entry).render)

/-- The answer to a request for a change, and the tree after it. -/
def settle (t : Tree) : Except UInt16 Tree → Answer × Tree
  | .ok changed => (reply 201 [], changed)
  | .error code => (reply code [], t)

/-- A server whose state is its tree. -/
def serve (r : Repository) (t : Tree) (request : Request) : Answer × Tree :=
  match r.namesOf? request.url, request.method with
  | some l, .propfind => (reportOn request.url (t.at? l), t)
  | some l, .mkcol => settle t (t.create l)
  | some l, .put => settle t (t.store l (request.body.getD []))
  | _, _ => (reply 400 [], t)

theorem reports_reportOn {url : String} (h : url ≠ "") (item? : Option Item) :
    ∃ response, reportOn url item? = .ok response ∧ Reports item? response := by
  cases item? with
  | none => exact ⟨_, rfl, rfl⟩
  | some item =>
    let entry : Resource := { href := url, isCollection := item.isCollection }
    let m : MultiStatus := MultiStatus.empty.insert entry
    have hentries : m.readBack.entries = [entry.readBack] := by
      have hkept : ([entry].filter fun e => e.href ≠ "") = [entry] :=
        List.filter_cons_of_pos (decide_eq_true h)
      have hback : m.readBack =
          MultiStatus.ofList (([entry].filter fun e => e.href ≠ "").map Resource.readBack) := rfl
      rw [hback, hkept]
      exact MultiStatus.entries_ofList (List.pairwise_singleton _ _)
    have hparse := MultiStatus.parse_render_eq m
    refine ⟨{ status := { code := 207 }, body := Utf8.encodeString m.render }, rfl, rfl,
      m.readBack, entry.readBack, ?_, hentries, rfl⟩
    dsimp only
    exact hparse

theorem ends_settle (isSuccess : Status → Prop) (h : isSuccess { code := 201 }) (t : Tree)
    (outcome : Except UInt16 Tree) : ∃ response t', settle t outcome = (.ok response, t') ∧
      Ends isSuccess outcome response t t' := by
  cases outcome with
  | ok changed => exact ⟨_, _, rfl, h, rfl⟩
  | error code => exact ⟨_, _, rfl, rfl, rfl⟩

theorem collectionUrl_ne (r : Repository) (p : ResourcePath) : r.collectionUrl p ≠ "" := by
  intro h
  have hchars : (r.collectionUrl p).toList = r.baseUrl ++ Repository.escaped p ++ ['/'] :=
    String.toList_ofList
  rw [h] at hchars
  exact List.append_ne_nil_of_right_ne_nil _ (List.cons_ne_nil _ _) hchars.symm

theorem isFaithful_serve (r : Repository) : IsFaithful r (serve r) id where
  probe t p := by
    obtain ⟨response, hreport, h⟩ :=
      reports_reportOn (collectionUrl_ne r p) (t.at? p.segments)
    refine ⟨response, t, ?_, h, rfl⟩
    rw [serve, probeRequest, r.namesOf?_collectionUrl p, ← hreport]
  create t p := by
    rw [serve, creationRequest, r.namesOf?_url p]
    exact ends_settle (fun status => status.code = 201) rfl t (t.create p.segments)
  store t p content := by
    rw [serve, storeRequest, r.namesOf?_url p]
    exact ends_settle (fun status => status.isSuccess = true) rfl t
      (t.store p.segments content)

end DavCourier.Server
