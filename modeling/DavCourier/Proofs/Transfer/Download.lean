import DavCourier.Proofs.Local.Writing
import DavCourier.Proofs.Transfer.Course
import DavCourier.Transfer.Download

/-!
# What a download leaves

A download asks once and does what the answer says. Where a file was written, the answer has the
status 200 and its body is what the path of the file leads to (`delivers_of_receive`); where none
was, the disk is the one from before (`receive_without_writing`). A download without an instant
also succeeds where none was written : the answer that nothing was modified, which it never asked
for, is no failure. Any other download that succeeds delivers : `download_delivers_iff`.
-/

namespace DavCourier.Transfer

open Http

variable {σ : Type} {server : σ → Request → Answer × σ} {disk disk' : Local.Disk}
  {url destination : String} {since : Option Calendar.Instant} {answer : Answer}

/-- The answer has the status 200, and the path leads to a file with its body. -/
def Delivers (answer : Answer) (disk : Local.Disk) (destination : String) : Prop :=
  ∃ response place, answer = .ok response ∧ response.status.code = 200 ∧
    disk.follow destination.toList = .ok (.file place response.body false)

theorem follow_of_writeDestination {content : Bytes}
    (h : writeDestination disk destination content = (disk', .ok ())) :
    ∃ place, disk'.follow destination.toList = .ok (.file place content false) := by
  unfold writeDestination at h
  split at h
  · cases h
  · split at h
    · next hwrite =>
      cases h
      exact Local.Disk.follow_of_write hwrite
    · cases h

/-- A copy that was written is the body of an answer with the status 200. -/
theorem delivers_of_receive
    (h : receive disk url destination since answer = (disk', .ok true)) :
    Delivers answer disk' destination := by
  cases answer with
  | error fault => cases h
  | ok response =>
    by_cases hcode : response.status.code = 200
    · rw [receive, if_pos hcode] at h
      by_cases hstale : isStale since response = true
      · rw [if_pos hstale] at h
        cases h
      · rw [if_neg hstale] at h
        obtain ⟨hdisk, hresult⟩ := Prod.mk.inj h
        obtain ⟨⟨⟩, hwrite, -⟩ := Fallible.map_eq_ok.mp hresult
        obtain ⟨place, hplace⟩ := follow_of_writeDestination (Prod.ext hdisk hwrite)
        exact ⟨response, place, rfl, hcode, hplace⟩
    · rw [receive, if_neg hcode] at h
      split at h <;> cases h

/-- Where no copy was written the disk stays, and the answer said that there is nothing new. -/
theorem receive_without_writing
    (h : receive disk url destination since answer = (disk', .ok false)) : disk' = disk ∧
      (hasCode 304 answer = true ∨
        ∃ response, answer = .ok response ∧ isStale since response = true) := by
  cases answer with
  | error fault => cases h
  | ok response =>
    by_cases hcode : response.status.code = 200
    · rw [receive, if_pos hcode] at h
      by_cases hstale : isStale since response = true
      · rw [if_pos hstale] at h
        cases h
        exact ⟨rfl, Or.inr ⟨response, rfl, hstale⟩⟩
      · rw [if_neg hstale] at h
        obtain ⟨⟨⟩, -, hwritten⟩ := Fallible.map_eq_ok.mp (Prod.mk.inj h).2
        cases hwritten
    · rw [receive, if_neg hcode] at h
      split at h
      · next hmodified =>
        cases h
        exact ⟨rfl, Or.inl (decide_eq_true hmodified)⟩
      · cases h

theorem not_delivers_of_hasCode (h : hasCode 304 answer = true) :
    ¬ Delivers answer disk destination := by
  rintro ⟨response, place, rfl, hcode, -⟩
  simp [hasCode, hcode] at h

/-- A download that succeeds asked once. The body of the answer is in the file unless the answer
said that nothing was modified, and then nothing was changed. -/
theorem download_delivers_iff (r : Repository) (disk : Local.Disk) (name destination : String)
    (server : σ → Request → Answer × σ) (s : σ) {disk' : Local.Disk}
    (h : ((download r disk (.ofString name) destination).run server s).1 = (disk', .ok ())) :
    ∃ answer, (download r disk (.ofString name) destination).transcript server s =
        [(fetchRequest (r.url (.ofString name)) none, answer)] ∧
      (Delivers answer disk' destination ↔ hasCode 304 answer = false) ∧
      (hasCode 304 answer = true → disk' = disk) := by
  obtain ⟨answer, s', hserve⟩ : ∃ answer s',
      server s (fetchRequest (r.url (.ofString name)) none) = (answer, s') := ⟨_, _, rfl⟩
  have hrun : ((download r disk (.ofString name) destination).run server s).1 =
      ((receive disk (r.url (.ofString name)) destination none answer).1,
        (receive disk (r.url (.ofString name)) destination none answer).2.map fun _ => ()) := by
    rw [download, fetch, Dialogue.map, Dialogue.map, Dialogue.send]
    simp only [Dialogue.bind, Dialogue.run, hserve]
  rw [hrun] at h
  obtain ⟨hdisk, hresult⟩ := Prod.mk.inj h
  obtain ⟨written, hwritten, -⟩ := Fallible.map_eq_ok.mp hresult
  have hreceive : receive disk (r.url (.ofString name)) destination none answer =
      (disk', .ok written) := Prod.ext hdisk hwritten
  refine ⟨answer, ?_, ?_⟩
  · rw [download, fetch, Dialogue.map, Dialogue.map, Dialogue.send]
    simp only [Dialogue.bind, Dialogue.transcript, hserve]
  · cases written with
    | true =>
      have hdelivers := delivers_of_receive hreceive
      have hcode : hasCode 304 answer = false :=
        Bool.eq_false_iff.mpr fun hcode => not_delivers_of_hasCode hcode hdelivers
      exact ⟨iff_of_true hdelivers hcode, fun h304 => absurd h304 (by simp [hcode])⟩
    | false =>
      obtain ⟨hsame, hcode | ⟨response, -, hstale⟩⟩ := receive_without_writing hreceive
      · exact ⟨iff_of_false (not_delivers_of_hasCode hcode) (by simp [hcode]), fun _ => hsame⟩
      · cases hstale

/-- A download to a file in a directory that is new. -/
def nestedDownload : Dialogue (Local.Disk × Except Failure Unit) :=
  download ⟨"http://host".toList, []⟩ fileDisk (.ofString "a") "x/../y/./f"

theorem download_delivers_nested :
    (nestedDownload.run (constantServer (.ok { status := ⟨200, none⟩, body := [7, 8] })) ()).1.2 =
      .ok () ∧
    Delivers (.ok { status := ⟨200, none⟩, body := [7, 8] })
      (nestedDownload.run (constantServer (.ok { status := ⟨200, none⟩, body := [7, 8] })) ()).1.1
      "x/../y/./f" := by
  have hresult : (nestedDownload.run
      (constantServer (.ok { status := ⟨200, none⟩, body := [7, 8] })) ()).1.2 = .ok () := by
    decide +kernel
  obtain ⟨answer, hlog, hiff, -⟩ := download_delivers_iff ⟨"http://host".toList, []⟩ fileDisk "a"
    "x/../y/./f" (constantServer (.ok { status := ⟨200, none⟩, body := [7, 8] })) ()
    (Prod.ext rfl hresult)
  obtain ⟨-, rfl⟩ := Prod.mk.inj (List.singleton_inj.mp hlog)
  exact ⟨hresult, hiff.mpr rfl⟩

/-- A download succeeds where nothing was modified, also without a file from before. -/
theorem download_not_modified :
    (nestedDownload.run (constantServer (.ok { status := ⟨304, none⟩ })) ()).1.2 = .ok () ∧
    (nestedDownload.run (constantServer (.ok { status := ⟨304, none⟩ })) ()).1.1.follow
      "x/../y/./f".toList = .error .notFound ∧
    ¬ Delivers (.ok { status := ⟨304, none⟩ })
      (nestedDownload.run (constantServer (.ok { status := ⟨304, none⟩ })) ()).1.1
      "x/../y/./f" :=
  ⟨by decide +kernel, by decide +kernel, not_delivers_of_hasCode rfl⟩

end DavCourier.Transfer
