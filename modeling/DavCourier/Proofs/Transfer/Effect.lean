import DavCourier.Proofs.Calendar.Order
import DavCourier.Proofs.Local.Placing
import DavCourier.Proofs.Transfer.Download

/-!
# What a download changes

An answer brings a copy if it has the status 200 and does not say that the copy is no newer than the
instant that was asked for (`Brings`). Any other answer changes nothing. A copy is written where it
can be, and then the disk has it and the directories around it (`writeDestination_ok`). Where it
cannot, the download fails, and the disk has at most the directories around the file and what
remains of it (`writeDestination_error`). Every download asks once and does this with the answer :
`download_changes`.

So a download that fails can take away a file : one that may not be changed, but is in a directory
that may (`download_locked`). It does so for a forfeit file, and for no other.
-/

namespace DavCourier.Transfer

open Http Calendar

variable {σ : Type} {disk : Local.Disk} {url destination : String} {since : Option Instant}
  {answer : Answer} {response : Response}

/-! ## Writing a copy -/

/-- What a write that failed makes of a disk. -/
structure Failed (disk : Local.Disk) (path : List Char) (content : Bytes) (disk' : Local.Disk) :
    Prop where
  /-- Where no file can be, at most directories around it are new. -/
  gains : ¬ disk.IsPlaceable path → Local.Disk.Gains (disk.around path) disk disk'
  /-- Elsewhere all of them are there, and what remains of the file. -/
  leaves : disk.IsPlaceable path → disk.Leaves path content disk'

/-- A write that failed keeps all that was there, unless a file is forfeit. -/
theorem Failed.keeps_iff {path : List Char} {content : Bytes} {disk' : Local.Disk}
    (h : Failed disk path content disk') :
    disk.Keeps disk' ↔ ¬ disk.IsForfeit path content := by
  by_cases hd : disk.IsPlaceable path
  · exact (h.leaves hd).keeps_iff hd
  · exact iff_of_true (h.gains hd).keeps fun hforfeit => hd hforfeit.placeable

/-- Whatever happens, making the directories around a file makes no more than these. -/
theorem makeEnclosing_gains (disk : Local.Disk) (destination : String) :
    Local.Disk.Gains (disk.around destination.toList) disk
      (makeEnclosing disk destination).1 := by
  unfold makeEnclosing
  split
  · exact .refl _ _
  · next outer houter =>
    have hgains := Local.Disk.makeAll_gains disk houter
    split <;> next hmade => rwa [hmade] at hgains

theorem makeEnclosing_of_isPlaceable (hd : disk.IsPlaceable destination.toList) :
    ∃ disk', makeEnclosing disk destination = (disk', .ok ()) ∧
      Local.Disk.Gains (disk.around destination.toList) disk disk' ∧
      disk'.IsPaved (disk.start destination.toList)
        (Local.steps destination.toList).dropLast := by
  unfold makeEnclosing
  split
  · next hnone =>
    rw [Local.steps_of_enclosing?_eq_none hnone]
    exact ⟨disk, rfl, .refl _ _, Local.Disk.along_nil _ _ _⟩
  · next outer houter =>
    obtain ⟨disk', hmade, hrest⟩ := Local.Disk.makeAll_of_isPlaceable hd houter
    exact ⟨disk', by rw [hmade], hrest⟩

/-- A content that can be written is stored. -/
theorem writeDestination_ok {content : Bytes}
    (hwritable : disk.IsWritable destination.toList content) :
    (writeDestination disk destination content).2 = .ok () ∧
      disk.Stores destination.toList content (writeDestination disk destination content).1 := by
  obtain ⟨disk', hmade, hgains, hpaved⟩ := makeEnclosing_of_isPlaceable hwritable.toIsPlaceable
  obtain ⟨disk'', hwrite, hstores⟩ := hwritable.stores hgains hpaved
  rw [writeDestination, hmade]
  dsimp only
  rw [hwrite]
  exact ⟨rfl, hstores⟩

/-- A content that cannot be written is not. -/
theorem writeDestination_error {content : Bytes}
    (hnot : ¬ disk.IsWritable destination.toList content) : ∃ failure,
      (writeDestination disk destination content).2 = .error failure ∧ failure.kind = .failed ∧
      Failed disk destination.toList content (writeDestination disk destination content).1 := by
  by_cases hd : disk.IsPlaceable destination.toList
  · obtain ⟨disk', hmade, hgains, hpaved⟩ := makeEnclosing_of_isPlaceable hd
    obtain ⟨disk'', fault, hwrite, hleaves⟩ := hd.leaves hgains hpaved hnot
    rw [writeDestination, hmade]
    dsimp only
    rw [hwrite]
    exact ⟨_, rfl, rfl, fun hnone => absurd hd hnone, fun _ => hleaves⟩
  · have hgains := makeEnclosing_gains disk destination
    unfold writeDestination
    split
    · next disk' failure hmade =>
      rw [hmade] at hgains
      refine ⟨failure, rfl, ?_, fun _ => hgains, fun hplace => absurd hplace hd⟩
      unfold makeEnclosing at hmade
      split at hmade
      · cases hmade
      · split at hmade <;> cases hmade
        rfl
    · next disk' hmade =>
      rw [hmade] at hgains
      obtain ⟨fault, hwrite, hdiscard⟩ :=
        Local.Disk.write_of_not_isPlaceable hgains hd content
      rw [hwrite]
      dsimp only
      rw [hdiscard]
      exact ⟨_, rfl, rfl, fun _ => hgains, fun hplace => absurd hplace hd⟩

/-! ## Doing what the answer says -/

/-- The answer brings a copy, and does not say that it is no newer than the instant. -/
structure Brings (since : Option Instant) (answer : Answer) (response : Response) : Prop where
  answered : answer = .ok response
  code : response.status.code = 200
  newer : ∀ t value modified, since = some t → response.header? "Last-Modified" = some value →
    MailDate.read? value = some modified → t.IsBefore modified

theorem isStale_eq_false_iff : isStale since response = false ↔
    ∀ t value modified, since = some t → response.header? "Last-Modified" = some value →
      MailDate.read? value = some modified → t.IsBefore modified := by
  unfold isStale
  cases since with
  | none => simp
  | some t =>
    cases hdate : (response.header? "Last-Modified").bind MailDate.read? with
    | none =>
      refine iff_of_true rfl fun _ value modified _ hvalue hread => ?_
      rw [hvalue, Option.bind_some, hread] at hdate
      cases hdate
    | some modified =>
      dsimp only
      rw [← Bool.not_eq_true, Instant.isUpTo_iff, not_not]
      constructor
      · rintro h _ value modified' ⟨⟩ hvalue hread
        rw [hvalue, Option.bind_some, hread] at hdate
        cases hdate
        exact h
      · intro h
        obtain ⟨value, hvalue, hread⟩ := Option.bind_eq_some_iff.mp hdate
        exact h t value modified rfl hvalue hread

theorem exists_brings_iff {p : Response → Prop} :
    (∃ response', Brings since (.ok response) response' ∧ p response') ↔
      Brings since (.ok response) response ∧ p response := by
  refine ⟨?_, fun h => ⟨response, h⟩⟩
  rintro ⟨response', h, hp⟩
  cases h.answered
  exact ⟨h, hp⟩

theorem receive_of_brings (h : Brings since answer response) :
    receive disk url destination since answer =
      ((writeDestination disk destination response.body).1,
        (writeDestination disk destination response.body).2.map fun () => true) := by
  obtain ⟨rfl, hcode, hnewer⟩ := h
  rw [receive, if_pos hcode, if_neg (by simp [isStale_eq_false_iff.mpr hnewer])]

theorem receive_of_not_brings (h : ∀ response, ¬ Brings since answer response) :
    (receive disk url destination since answer).1 = disk ∧
      (receive disk url destination since answer).2 ≠ .ok true := by
  cases answer with
  | error fault => exact ⟨rfl, by simp [receive]⟩
  | ok response =>
    by_cases hcode : response.status.code = 200
    · rw [receive, if_pos hcode]
      by_cases hstale : isStale since response = true
      · rw [if_pos hstale]
        exact ⟨rfl, by simp⟩
      · exact absurd ⟨rfl, hcode, isStale_eq_false_iff.mp (Bool.eq_false_iff.mpr hstale)⟩
          (h response)
    · rw [receive, if_neg hcode]
      split <;> exact ⟨rfl, by simp⟩

/-- What a download does with an answer : the disk after it and its result. -/
structure Changes {α : Type} (disk : Local.Disk) (destination : String) (since : Option Instant)
    (answer : Answer) (disk' : Local.Disk) (result : Except Failure α) : Prop where
  /-- Without a copy the disk stays. -/
  unchanged : (∀ response, ¬ Brings since answer response) → disk' = disk
  /-- A copy is written if that is possible. -/
  written : ∀ response, Brings since answer response →
    disk.IsWritable destination.toList response.body →
    (∃ a, result = .ok a) ∧ disk.Stores destination.toList response.body disk'
  /-- If not, the download fails. -/
  failed : ∀ response, Brings since answer response →
    ¬ disk.IsWritable destination.toList response.body →
    (∃ failure, result = .error failure ∧ failure.kind = .failed) ∧
      Failed disk destination.toList response.body disk'
  /-- Then what was there stays, unless a file is forfeit. -/
  keeps_iff : ∀ response, Brings since answer response →
    ¬ disk.IsWritable destination.toList response.body →
    (disk.Keeps disk' ↔ ¬ disk.IsForfeit destination.toList response.body)

theorem receive_changes (disk : Local.Disk) (url destination : String) (since : Option Instant)
    (answer : Answer) : Changes disk destination since answer
      (receive disk url destination since answer).1
      (receive disk url destination since answer).2 where
  unchanged h := (receive_of_not_brings h).1
  written response h hwritable := by
    obtain ⟨hok, hstores⟩ := writeDestination_ok hwritable
    rw [receive_of_brings h, hok]
    exact ⟨⟨true, rfl⟩, hstores⟩
  failed response h hnot := by
    obtain ⟨failure, herror, hkind, hfailed⟩ := writeDestination_error hnot
    rw [receive_of_brings h, herror]
    exact ⟨⟨failure, rfl, hkind⟩, hfailed⟩
  keeps_iff response h hnot := by
    obtain ⟨failure, herror, hkind, hfailed⟩ := writeDestination_error hnot
    rw [receive_of_brings h]
    exact hfailed.keeps_iff

theorem Changes.map {α β : Type} {disk' : Local.Disk} {result : Except Failure α} (f : α → β)
    (h : Changes disk destination since answer disk' result) :
    Changes disk destination since answer disk' (result.map f) where
  unchanged := h.unchanged
  written response hbrings hwritable := by
    obtain ⟨⟨a, rfl⟩, hstores⟩ := h.written response hbrings hwritable
    exact ⟨⟨f a, rfl⟩, hstores⟩
  failed response hbrings hnot := by
    obtain ⟨⟨failure, rfl, hkind⟩, hfailed⟩ := h.failed response hbrings hnot
    exact ⟨⟨failure, rfl, hkind⟩, hfailed⟩
  keeps_iff := h.keeps_iff

/-- A copy was written if and only if the answer brought one that can be written. -/
theorem receive_eq_true_iff : (receive disk url destination since answer).2 = .ok true ↔
    ∃ response, Brings since answer response ∧
      disk.IsWritable destination.toList response.body := by
  by_cases hbrings : ∃ response, Brings since answer response
  · obtain ⟨response, h⟩ := hbrings
    rw [receive_of_brings h]
    by_cases hwritable : disk.IsWritable destination.toList response.body
    · rw [(writeDestination_ok hwritable).1]
      exact iff_of_true rfl ⟨response, h, hwritable⟩
    · obtain ⟨failure, herror, -⟩ := writeDestination_error hwritable
      rw [herror]
      refine iff_of_false nofun ?_
      rintro ⟨response', h', hwritable'⟩
      cases h.answered.symm.trans h'.answered
      exact hwritable hwritable'
  · refine iff_of_false (receive_of_not_brings (not_exists.mp hbrings)).2 ?_
    rintro ⟨response, h, -⟩
    exact hbrings ⟨response, h⟩

/-! ## Downloads -/

theorem transcript_fetch (r : Repository) (disk : Local.Disk) (p : ResourcePath)
    (destination : String) (since : Option Instant) (server : σ → Request → Answer × σ) (s : σ) :
    (fetch r disk p destination since).transcript server s =
      [(fetchRequest (r.url p) since, (server s (fetchRequest (r.url p) since)).1)] := by
  rw [fetch, Dialogue.transcript_map]
  rfl

theorem run_fetch (r : Repository) (disk : Local.Disk) (p : ResourcePath) (destination : String)
    (since : Option Instant) (server : σ → Request → Answer × σ) (s : σ) :
    ((fetch r disk p destination since).run server s).1 =
      receive disk (r.url p) destination since
        (server s (fetchRequest (r.url p) since)).1 := by
  rw [fetch, Dialogue.run_map]
  rfl

/-- Both downloads ask once, and change what the answer says. The one with an instant also tells
whether it wrote the copy. -/
theorem download_changes (r : Repository) (disk : Local.Disk) (name destination : String)
    (t : Instant) (server : σ → Request → Answer × σ) (s : σ) :
    (∃ answer,
      (download r disk (.ofString name) destination).transcript server s =
        [(fetchRequest (r.url (.ofString name)) none, answer)] ∧
      Changes disk destination none answer
        ((download r disk (.ofString name) destination).run server s).1.1
        ((download r disk (.ofString name) destination).run server s).1.2) ∧
    ∃ answer,
      (downloadIfNewer r disk (.ofString name) destination t).transcript server s =
        [(fetchRequest (r.url (.ofString name)) (some t), answer)] ∧
      Changes disk destination (some t) answer
        ((downloadIfNewer r disk (.ofString name) destination t).run server s).1.1
        ((downloadIfNewer r disk (.ofString name) destination t).run server s).1.2 ∧
      (((downloadIfNewer r disk (.ofString name) destination t).run server s).1.2 = .ok true ↔
        ∃ response, Brings (some t) answer response ∧
          disk.IsWritable destination.toList response.body) := by
  constructor
  · refine ⟨(server s (fetchRequest (r.url (.ofString name)) none)).1, ?_, ?_⟩
    · rw [download, Dialogue.transcript_map, transcript_fetch]
    · rw [download, Dialogue.run_map, run_fetch]
      exact (receive_changes disk _ destination none _).map _
  · refine ⟨(server s (fetchRequest (r.url (.ofString name)) (some t))).1,
      transcript_fetch r disk (.ofString name) destination (some t) server s, ?_⟩
    rw [downloadIfNewer, run_fetch]
    exact ⟨receive_changes disk _ destination (some t) _, receive_eq_true_iff⟩

/-- A disk with a file that may not be changed, in a directory that may. -/
def lockedDisk : Local.Disk where
  entries := [([['f']], .file [1])]
  current := []
  unwritable := [([['f']], .denied)]

/-- A copy cannot be written over such a file, and then the file is gone. -/
theorem download_locked :
    lockedDisk.at? [['f']] = some (.file [1]) ∧
    ((download ⟨"http://host".toList, []⟩ lockedDisk (.ofString "a") "f").run
      (constantServer (.ok { status := ⟨200, none⟩, body := [7, 8] })) ()).1.2 =
        .error (.writeRefused "f" (.refused .denied)) ∧
    ((download ⟨"http://host".toList, []⟩ lockedDisk (.ofString "a") "f").run
      (constantServer (.ok { status := ⟨200, none⟩, body := [7, 8] })) ()).1.1.at? [['f']] =
        none := by
  decide +kernel

end DavCourier.Transfer
