import DavCourier.Proofs.ResourcePath.Written
import DavCourier.Proofs.Transfer.Containment
import DavCourier.Proofs.Transfer.Directory

/-!
# Names that are handed on

An upload brings a name into normal form, and what it hands to its next step is brought into
normal form again : the name around the file, the names on the way to it, and the name of a file
below a destination. All these names are in normal form already, and every request is for one of
them (`asks_upload_handedOn`). The normal form of one name after another one is what the second
name says from the first one, of which no more is left than the normal form : `normalForm_stable`.
-/

namespace DavCourier.Transfer

open Http ResourcePath

/-! ## Requests for names -/

/-- The request is for the address of one of these names. -/
def IsForName (r : Repository) (names : List String) (request : Request) : Prop :=
  ∃ n ∈ names, request.url = r.url (.ofString n) ∨ request.url = r.collectionUrl (.ofString n)

/-- What an upload of a name hands from step to step : the name in normal form, the name around
it, and the names on the way to that one. -/
def handedOn (name : String) : List String :=
  normalForm name :: around name :: wayTo (around name)

/-- An operation with other names of resources. -/
def Operation.mapName (f : String → String) : Operation → Operation
  | upload source name => .upload source (f name)
  | uploadTree source name => .uploadTree source (f name)
  | ensureCollection name => .ensureCollection (f name)
  | createCollection name => .createCollection (f name)
  | download name destination => .download (f name) destination
  | downloadIfNewer name destination t => .downloadIfNewer (f name) destination t
  | list name => .list (f name)
  | resourceExists name => .resourceExists (f name)
  | collectionExists name => .collectionExists (f name)
  | isCapable => .isCapable

variable {r : Repository} {disk : Local.Disk} {name : String}

theorem isForName_toString {p : ResourcePath} {names : List String} (h : p.toString ∈ names)
    {request : Request} (hurl : request.url = r.url p ∨ request.url = r.collectionUrl p) :
    IsForName r names request := by
  refine ⟨_, h, ?_⟩
  rwa [ofString_toString]

theorem asks_createChain_names {ps : List ResourcePath} {names : List String}
    (h : ∀ p ∈ ps, p.toString ∈ names) : (createChain r ps).Asks (IsForName r names) := by
  induction ps with
  | nil => trivial
  | cons p ps ih =>
    obtain ⟨hp, hps⟩ := List.forall_mem_cons.mp h
    have hcreate : (create (r.url p)).Asks (IsForName r names) :=
      (Dialogue.Asks.send (isForName_toString hp (Or.inl rfl))).map _
    refine hcreate.bind fun outcome => ?_
    split
    · trivial
    · split
      · trivial
      · exact ih hps

/-- The collections that are asked for are the one of a path and those on the way to it. -/
theorem asks_ensureCollection_names {p : ResourcePath} {names : List String}
    (hp : p.toString ∈ names) (hchain : ∀ q ∈ p.chain, q.toString ∈ names) :
    (ensureCollection r p).Asks (IsForName r names) := by
  have hprobe : (probe (r.collectionUrl p) .zero).Asks (IsForName r names) :=
    (Dialogue.Asks.send (isForName_toString hp (Or.inr rfl))).map _
  unfold ensureCollection
  split
  · trivial
  · refine hprobe.bind fun result => ?_
    repeat' split
    all_goals first | trivial | exact asks_createChain_names hchain

theorem asks_store_handedOn (name : String) (content : Bytes) :
    (store r (.ofString name) content).Asks (IsForName r (handedOn name)) := by
  have haround : (ResourcePath.ofString name).parent.toString ∈ handedOn name :=
    List.mem_cons_of_mem _ List.mem_cons_self
  have hchain : ∀ q ∈ (ResourcePath.ofString name).parent.chain, q.toString ∈ handedOn name := by
    intro q hq
    rw [← ofString_around] at hq
    exact List.mem_cons_of_mem _ (List.mem_cons_of_mem _ (List.mem_map_of_mem hq))
  have hname : (ResourcePath.ofString name).toString ∈ handedOn name := List.mem_cons_self
  unfold store
  split
  · trivial
  · refine (asks_ensureCollection_names haround hchain).bind fun result => ?_
    split
    · trivial
    · exact (Dialogue.Asks.send (isForName_toString hname (Or.inl rfl))).map _

theorem asks_upload_handedOn (source : String) :
    (upload r disk source (.ofString name)).Asks (IsForName r (handedOn name)) := by
  unfold upload
  split
  · trivial
  · split
    · trivial
    · exact asks_store_handedOn name _

theorem asks_uploadTree_handedOn {source : String} {place : Local.Place}
    (hsource : disk.follow source.toList = .ok (.directory place)) :
    (uploadTree r disk source (.ofString name)).Asks fun request =>
      ∃ file ∈ disk.filesBelow place, IsForName r (handedOn (nameBelow name file.1)) request := by
  cases hwalk : disk.walk source.toList place with
  | error stop =>
    rw [uploadTree, hsource]
    dsimp only
    rw [hwalk]
    trivial
  | ok files =>
    obtain ⟨-, rfl⟩ := (Local.Disk.walk_eq_ok_iff (Local.Disk.at?_of_follow hsource)).mp hwalk
    rw [uploadTree_of_walk hsource hwalk]
    generalize hds : ((disk.filesBelow place).map Prod.fst).map
      (uploadBelow r disk source (.ofString name)) = ds
    have hall : ∀ d ∈ ds, d.Asks fun request => ∃ file ∈ disk.filesBelow place,
        IsForName r (handedOn (nameBelow name file.1)) request := by
      intro d hd
      rw [← hds, List.map_map] at hd
      obtain ⟨file, hfile, hd⟩ := List.mem_map.mp hd
      have hasks : d.Asks (IsForName r (handedOn (nameBelow name file.1))) := by
        rw [← hd, Function.comp, uploadBelow_ofString, uploadOf]
        -- the name is only handed on, whatever it is
        generalize nameBelow name file.1 = target
        exact asks_upload_handedOn _
      exact hasks.mono fun request h => ⟨file, hfile, h⟩
    exact (Dialogue.Asks.inOrder hall).map _

/-! ## Names in normal form -/

theorem normalForm_of_mem_wayTo {n : String} (h : n ∈ wayTo name) : normalForm n = n := by
  obtain ⟨p, -, rfl⟩ := List.mem_map.mp h
  exact normalForm_toString p

theorem normalForm_of_mem_handedOn {n : String} (h : n ∈ handedOn name) : normalForm n = n := by
  rcases List.mem_cons.mp h with rfl | h
  · exact normalForm_toString (ResourcePath.ofString name)
  · rcases List.mem_cons.mp h with rfl | h
    · exact normalForm_toString (ResourcePath.ofString name).parent
    · exact normalForm_of_mem_wayTo h

/-- A name after another one says what it says from the place that the first one leads to. -/
theorem ofString_append (a b : String) :
    ResourcePath.ofString (a ++ "/" ++ b) = (ResourcePath.ofString a).resolve b.toList := by
  have hchars : (a ++ "/" ++ b).toList = a.toList ++ '/' :: b.toList := by simp
  rw [ResourcePath.ofString, hchars, ofChars_append]
  rfl

theorem ofString_append_normalForm (a b : String) :
    ResourcePath.ofString (normalForm a ++ "/" ++ b) = ResourcePath.ofString (a ++ "/" ++ b) := by
  rw [ofString_append, ofString_append, ofString_normalForm]

theorem segments_ofString_append (a : String) {b : String} (h : ['.', '.'] ∉ pieces b.toList) :
    (ResourcePath.ofString (a ++ "/" ++ b)).segments =
      (ResourcePath.ofString a).segments ++ (ResourcePath.ofString b).segments := by
  rw [ofString_append, segments_resolve _ h]
  rfl

theorem isSegment_of_mem_splitAt (h : normalForm name ≠ "") {segment : List Char}
    (hmem : segment ∈ Text.splitAt '/' (normalForm name).toList) : IsSegment segment := by
  have hsegments := segmentsOf_normalForm name
  rw [segmentsOf, if_neg h] at hsegments
  exact (ResourcePath.ofString name).clean _ (hsegments ▸ hmem)

/-- What is brought into normal form once more in a transfer is in normal form : the names of
the requests of an upload, which are handed on from its steps, and the destination, which the
names of files come after. -/
structure HandsOnNormalForms (r : Repository) (disk : Local.Disk) (name : String) : Prop where
  settled : ∀ n, n ∈ handedOn name ∨ n ∈ wayTo name → normalForm n = n
  ensures : (ensureCollection r (.ofString name)).Asks (IsForName r (normalForm name :: wayTo name))
  uploads : ∀ source, (upload r disk source (.ofString name)).Asks (IsForName r (handedOn name))
  uploadsTree : ∀ source place, disk.follow source.toList = .ok (.directory place) →
    (uploadTree r disk source (.ofString name)).Asks fun request =>
      ∃ file ∈ disk.filesBelow place, IsForName r (handedOn (nameBelow name file.1)) request
  below : ∀ names, normalForm (nameBelow name names) =
    normalForm (name ++ "/" ++ String.ofList (Text.join '/' names))

theorem handsOnNormalForms (r : Repository) (disk : Local.Disk) (name : String) :
    HandsOnNormalForms r disk name := by
  refine ⟨fun n hn => hn.elim normalForm_of_mem_handedOn normalForm_of_mem_wayTo,
    asks_ensureCollection_names List.mem_cons_self fun q hq => ?_,
    fun source => asks_upload_handedOn source, fun source place => asks_uploadTree_handedOn,
    fun names => ?_⟩
  · exact List.mem_cons_of_mem _ (List.mem_map_of_mem hq)
  · rw [normalForm, ofString_nameBelow, normalForm, ofString_append, String.toList_ofList]

theorem Operation.dialogue_mapName (r : Repository) (disk : Local.Disk) (op : Operation) :
    (op.mapName normalForm).dialogue r disk = op.dialogue r disk := by
  cases op <;> simp only [mapName, dialogue, ofString_normalForm]

/-- A normal form holds clean segments, and stays as it is when it is brought into normal form
again, on its own, before another name or on the way through a transfer. A name without steps back
adds its segments to those of the name before it. -/
theorem normalForm_stable :
    (∀ a, normalForm a ≠ "" → ∀ s ∈ Text.splitAt '/' (normalForm a).toList,
      s ≠ [] ∧ '\\' ∉ s ∧ s ≠ ['.'] ∧ s ≠ ['.', '.']) ∧
    (∀ a, normalForm (normalForm a) = normalForm a) ∧
    (∀ a b, normalForm (a ++ "/" ++ b) = normalForm (normalForm a ++ "/" ++ b)) ∧
    (∀ a b, ['.', '.'] ∉ pieces b.toList → segmentsOf (normalForm (a ++ "/" ++ b)) =
      segmentsOf (normalForm a) ++ segmentsOf (normalForm b)) ∧
    (∀ r disk name, HandsOnNormalForms r disk name) ∧
    ∀ r disk (op : Operation), (op.mapName normalForm).dialogue r disk = op.dialogue r disk := by
  refine ⟨fun a ha s hs => ?_, fun a => ?_, fun a b => ?_, fun a b hb => ?_, handsOnNormalForms,
    Operation.dialogue_mapName⟩
  · obtain ⟨hne, hdot, hdots, -, hback⟩ := isSegment_of_mem_splitAt ha hs
    exact ⟨hne, hback, hdot, hdots⟩
  · rw [normalForm, ofString_normalForm, normalForm]
  · rw [normalForm, normalForm, ofString_append_normalForm]
  · rw [segmentsOf_normalForm, segmentsOf_normalForm, segmentsOf_normalForm,
      segments_ofString_append a hb]

theorem normalForm_stable_spelled :
    normalForm "x/../a/./c\\d/" = "a/c/d" ∧ ['.', '.'] ∉ pieces "./c\\d/".toList ∧
      segmentsOf (normalForm ("x/../a" ++ "/" ++ "./c\\d/")) =
        segmentsOf (normalForm "x/../a") ++ segmentsOf (normalForm "./c\\d/") ∧
      ∀ s ∈ Text.splitAt '/' (normalForm "x/../a/./c\\d/").toList,
        s ≠ [] ∧ '\\' ∉ s ∧ s ≠ ['.'] ∧ s ≠ ['.', '.'] := by
  obtain ⟨hclean, -, -, hsegments, -⟩ := normalForm_stable
  have hform : normalForm "x/../a/./c\\d/" = "a/c/d" := by decide +kernel
  have hdots : ['.', '.'] ∉ pieces "./c\\d/".toList := by decide +kernel
  exact ⟨hform, hdots, hsegments "x/../a" _ hdots, hclean _ (by rw [hform]; decide)⟩

end DavCourier.Transfer
