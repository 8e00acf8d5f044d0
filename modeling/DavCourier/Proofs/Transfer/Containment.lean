import DavCourier.Command.Run
import DavCourier.Proofs.Repository.Reference
import DavCourier.Proofs.Transfer.Operation

/-!
# Where requests go

Whatever the arguments, the disk and the server say, all requests of a session are for addresses
below the one of its settings : `requests_inside`. What follows that address are steps in plain
characters and escapes, and none of them spells a way out (`IsStep`).

A path has only clean segments, however it came about. So it is enough that every request is for
the address of a path (`IsForPath`), which one operation keeps from another (`Dialogue.Asks.bind`).
-/

namespace DavCourier

open Http Percent

/-! ## Addresses below a base -/

/-- A step down in an address. It spells a name that is one segment of a path. -/
structure IsStep (step : List Char) : Prop where
  ne_nil : step ≠ []
  isEscaped : IsEscaped step
  spells : ∃ name, Reads step name ∧ IsSegment name

/-- Steps down from a base, with a slash before each and maybe one after them. -/
def IsInside (base : List Char) (url : String) : Prop :=
  ∃ (steps : List (List Char)) (ending : List Char), (∀ step ∈ steps, IsStep step) ∧
    (ending = [] ∨ ending = ['/']) ∧
    url.toList = base ++ Url.joinSegments steps ++ ending

namespace Repository

variable (r : Repository) (p : ResourcePath)

theorem isStep_of_mem {step : List Char} (h : step ∈ p.segments.map encode) : IsStep step := by
  obtain ⟨name, hname, rfl⟩ := List.mem_map.mp h
  have hsegment := p.clean name hname
  exact ⟨encode_ne_nil hsegment.1, isEscaped_encode name, name, reads_encode name, hsegment⟩

theorem isInside_url : IsInside r.baseUrl (r.url p) := by
  refine ⟨p.segments.map encode, [], fun step => isStep_of_mem p, Or.inl rfl, ?_⟩
  rw [url, String.toList_ofList, Url.escaped_eq, List.append_nil]

theorem isInside_collectionUrl : IsInside r.baseUrl (r.collectionUrl p) := by
  refine ⟨p.segments.map encode, ['/'], fun step => isStep_of_mem p, Or.inr rfl, ?_⟩
  rw [collectionUrl, String.toList_ofList, Url.escaped_eq]

end Repository

namespace Transfer

/-! ## Requests of a dialogue -/

namespace Dialogue

variable {α β σ : Type} {allowed : Request → Prop}

/-- All requests are allowed, whatever the answers. -/
def Asks (allowed : Request → Prop) : Dialogue α → Prop
  | .done _ => True
  | .ask request next => allowed request ∧ ∀ answer, (next answer).Asks allowed

namespace Asks

theorem bind {d : Dialogue α} {f : α → Dialogue β} (hd : d.Asks allowed)
    (hf : ∀ a, (f a).Asks allowed) : (d.bind f).Asks allowed := by
  induction d with
  | done a => exact hf a
  | ask request next ih => exact ⟨hd.1, fun answer => ih answer (hd.2 answer)⟩

theorem map {d : Dialogue α} (hd : d.Asks allowed) (f : α → β) : (d.map f).Asks allowed :=
  hd.bind fun _ => trivial

theorem mono {allowed' : Request → Prop} {d : Dialogue α} (h : d.Asks allowed)
    (himp : ∀ request, allowed request → allowed' request) : d.Asks allowed' := by
  induction d with
  | done a => trivial
  | ask request next ih => exact ⟨himp _ h.1, fun answer => ih answer (h.2 answer)⟩

theorem inOrder {ds : List (Dialogue (Except Failure Unit))} (h : ∀ d ∈ ds, d.Asks allowed) :
    (inOrder ds).Asks allowed := by
  induction ds with
  | nil => trivial
  | cons d ds ih =>
    obtain ⟨hd, hds⟩ := List.forall_mem_cons.mp h
    refine hd.bind fun result => ?_
    split
    · trivial
    · exact ih hds

theorem send {request : Request} (h : allowed request) : (send request).Asks allowed :=
  ⟨h, fun _ => trivial⟩

theorem of_mem_transcript {d : Dialogue α} (hd : d.Asks allowed)
    {server : σ → Request → Answer × σ} {s : σ} {e : Request × Answer}
    (he : e ∈ d.transcript server s) : allowed e.1 := by
  induction d generalizing s with
  | done a => cases he
  | ask request next ih =>
    rcases List.mem_cons.mp he with rfl | he
    · exact hd.1
    · exact ih _ (hd.2 _) he

end Asks

end Dialogue

/-- The request is for the address of a path. -/
def IsForPath (r : Repository) (request : Request) : Prop :=
  ∃ p, request.url = r.url p ∨ request.url = r.collectionUrl p

variable (r : Repository) (disk : Local.Disk) (p : ResourcePath)

theorem isInside_of_isForPath {request : Request} (h : IsForPath r request) :
    IsInside r.baseUrl request.url := by
  obtain ⟨p, h | h⟩ := h
  · rw [h]
    exact r.isInside_url p
  · rw [h]
    exact r.isInside_collectionUrl p

/-! ## Operations -/

theorem asks_create : (create (r.url p)).Asks (IsForPath r) :=
  (Dialogue.Asks.send ⟨p, Or.inl rfl⟩).map _

theorem asks_createChain (ps : List ResourcePath) : (createChain r ps).Asks (IsForPath r) := by
  induction ps with
  | nil => trivial
  | cons p ps ih =>
    refine (asks_create r p).bind fun outcome => ?_
    split
    · trivial
    · split
      · trivial
      · exact ih

theorem asks_probe (depth : Dav.Depth) : (probe (r.collectionUrl p) depth).Asks (IsForPath r) :=
  (Dialogue.Asks.send ⟨p, Or.inr rfl⟩).map _

theorem asks_ensureCollection : (ensureCollection r p).Asks (IsForPath r) := by
  unfold ensureCollection
  split
  · trivial
  · refine (asks_probe r p .zero).bind fun result => ?_
    repeat' split
    all_goals first | trivial | exact asks_createChain r p.chain

theorem asks_store (content : Bytes) : (store r p content).Asks (IsForPath r) := by
  unfold store
  split
  · trivial
  · refine (asks_ensureCollection r p.parent).bind fun result => ?_
    split
    · trivial
    · exact (Dialogue.Asks.send ⟨p, Or.inl rfl⟩).map _

theorem asks_upload (source : String) : (upload r disk source p).Asks (IsForPath r) := by
  unfold upload
  split
  · trivial
  · split
    · trivial
    · exact asks_store r p _

theorem asks_uploadTree (source : String) : (uploadTree r disk source p).Asks (IsForPath r) := by
  unfold uploadTree
  split
  · split
    · trivial
    · refine (Dialogue.Asks.inOrder fun d hd => ?_).map _
      obtain ⟨names, -, rfl⟩ := List.mem_map.mp hd
      exact asks_upload r disk _ _
  · trivial

theorem asks_fetch (destination : String) (since : Option Calendar.Instant) :
    (fetch r disk p destination since).Asks (IsForPath r) :=
  (Dialogue.Asks.send ⟨p, Or.inl rfl⟩).map _

theorem asks_list : (list r p).Asks (IsForPath r) :=
  (asks_probe r p .one).map _

theorem asks_resourceExists : (resourceExists r p).Asks (IsForPath r) :=
  (Dialogue.Asks.send ⟨p, Or.inl rfl⟩).map _

theorem Operation.asks (op : Operation) : (op.dialogue r disk).Asks (IsForPath r) := by
  cases op with
  | upload source name => exact asks_upload r disk _ source
  | uploadTree source name => exact (asks_uploadTree r disk _ source).map _
  | ensureCollection name => exact asks_ensureCollection r _
  | createCollection name => exact (asks_create r _).map _
  | download name destination => exact ((asks_fetch r disk _ destination none).map _).map _
  | downloadIfNewer name destination t => exact (asks_fetch r disk _ destination t).map _
  | list name => exact (asks_list r _).map _
  | resourceExists name => exact (asks_resourceExists r _).map _
  | collectionExists name => exact ((asks_probe r _ .zero).map _).map _
  | isCapable => exact ((Dialogue.Asks.send ⟨.root, Or.inr rfl⟩).map _).map _

/-! ## Commands -/

theorem isForPath_probeUrl (depth : Dav.Depth) {request : Request}
    (h : request.url = Command.probeUrl r p depth) : IsForPath r request := by
  cases depth with
  | zero => exact ⟨p, Or.inl h⟩
  | one => exact ⟨p, Or.inr h⟩
  | infinity => exact ⟨p, Or.inr h⟩

theorem asks_invocation (invocation : Command.Invocation) :
    (invocation.run r disk).Asks (IsForPath r) := by
  cases invocation with
  | put file resource => exact (asks_upload r disk _ file).map _
  | putDirectory directory destination => exact (asks_uploadTree r disk _ directory).map _
  | get resource destination => exact ((asks_fetch r disk _ destination none).map _).map _
  | list directory json => exact (asks_list r _).map _
  | check resource => exact (asks_resourceExists r _).map _
  | make directory => exact ((asks_create r _).map _).map _
  | probe path text =>
    rw [Command.Invocation.run]
    cases Dav.Depth.ofString? text with
    | none => trivial
    | some depth =>
      exact ((Dialogue.Asks.send (isForPath_probeUrl r _ depth rfl)).map _).map _

/-! ## Sessions -/

/-- Every operation and every command of a session asks for addresses below the one of its
settings only. -/
theorem requests_inside {s : Settings} {r : Repository} (h : openSession s = .ok r)
    (disk : Local.Disk) {σ : Type} (server : σ → Request → Answer × σ) (t : σ) :
    (∀ op : Operation, ∀ e ∈ (op.dialogue r disk).transcript server t,
      IsInside s.urlChars e.1.url) ∧
    (∀ invocation : Command.Invocation, ∀ e ∈ (invocation.run r disk).transcript server t,
      IsInside s.urlChars e.1.url) := by
  have hbase : r.baseUrl = s.urlChars := by
    rw [(openSession_eq_ok.mp h).2]
    rfl
  rw [← hbase]
  constructor
  · intro op e he
    exact isInside_of_isForPath r ((op.asks r disk).of_mem_transcript he)
  · intro invocation e he
    exact isInside_of_isForPath r ((asks_invocation r disk invocation).of_mem_transcript he)

/-- Settings with a marker, and with blanks and slashes around their address. -/
def wrappedSettings : Settings := { repositoryUrl := " dav:http://h/r// " }

/-- A new collection whose name tries to get out. -/
def hostileCreation (r : Repository) : Dialogue (Except Failure Unit) :=
  (Operation.createCollection "..\\../a/./%2e%2e/ü b\\").dialogue r
    (.blank [] (List.forall_mem_nil _))

theorem requests_inside_hostile : ∃ r, openSession wrappedSettings = .ok r ∧
    ((hostileCreation r).transcript (constantServer (.ok { status := ⟨201, none⟩ })) ()).map
      (fun e => e.1.url) = ["http://h/r/a/%252e%252e/%C3%BC%20b"] ∧
    IsInside wrappedSettings.urlChars "http://h/r/a/%252e%252e/%C3%BC%20b" := by
  have hopen : openSession wrappedSettings = .ok ⟨"http://h/r".toList, "/r".toList⟩ := by
    decide +kernel
  have hlog : (hostileCreation ⟨"http://h/r".toList, "/r".toList⟩).transcript
      (constantServer (.ok { status := ⟨201, none⟩ })) () =
      [(creationRequest "http://h/r/a/%252e%252e/%C3%BC%20b", .ok { status := ⟨201, none⟩ })] := by
    decide +kernel
  refine ⟨_, hopen, by rw [hlog]; rfl, ?_⟩
  have hinside := (requests_inside hopen (.blank [] (List.forall_mem_nil _))
    (constantServer (.ok { status := ⟨201, none⟩ })) ()).1
    (.createCollection "..\\../a/./%2e%2e/ü b\\")
  exact hinside _ (hlog ▸ List.mem_cons_self)

end Transfer

end DavCourier
