import DavCourier.Proofs.Calendar.MailDate
import DavCourier.Proofs.Transfer.Effect

/-!
# Downloads of newer copies

A copy that is dated as headers write an instant is dated with its whole second, since the date is
read back (`Instant.read?_httpDate`) and can be read at all (`isReadable_httpDate`). So it is
written if and only if that second is after the instant that was asked for. It is never written for
its own instant, and it is written for every instant before one for which it was :
`downloadIfNewer_dated`.
-/

namespace DavCourier.Transfer

open Http Calendar

variable {disk : Local.Disk} {url destination : String} {t u : Instant}
  {response : Response}

/-! ## Dates in headers -/

/-- The date of an instant has only characters that can be read in a header. -/
theorem isReadable_httpDate (hyear : 0 ≤ u.year ∧ u.year ≤ 9999) :
    isReadable u.httpDate = true := by
  have hweekdays : ∀ i : Fin 7, isReadable (String.ofList (weekdayName i)) = true := by decide
  have hmonths : ∀ i : Fin 12, isReadable (String.ofList (monthName i)) = true := by decide
  have hdigits : ∀ width n, isReadable (String.ofList (Numeral.padded width n)) = true := by
    intro width n
    rw [isReadable, String.toList_ofList, List.all_eq_true]
    intro c hc
    have hdigit := Char.isDigit_iff_toNat.mp ((Numeral.isDecimal_padded width n).isDigit c hc)
    have hrange : 0x30 ≤ c.toNat ∧ c.toNat ≤ 0x39 := hdigit
    simp
    omega
  have hmonth : ((Date.ofDays u.days).month - 1).toNat < 12 := by
    have := Date.isValid_iff.mp (Date.isValid_ofDays u.days)
    omega
  have hweekday := hweekdays ⟨weekday u.days, weekday_lt u.days⟩
  have hmonth := hmonths ⟨_, hmonth⟩
  simp only [isReadable, String.toList_ofList] at hweekday hmonth hdigits
  rw [isReadable, Instant.httpDate_eq hyear, String.toList_ofList, MailDate.written]
  simp only [List.all_append, List.all_cons, hweekday, hmonth, hdigits, Bool.true_and]
  decide

/-- A response of status 200 with the date of an instant as the first one of its copy. -/
structure IsDated (response : Response) (u : Instant) : Prop where
  code : response.status.code = 200
  date : ∃ field, (response.headers.find? fun h => lowerName h.1 = lowerName "Last-Modified") =
    some (field, u.httpDate)

/-- A copy that is dated with an instant is brought to those who ask for one newer than an instant
before its whole second. -/
theorem brings_iff (hutc : u.IsUtc) (hyear : 0 ≤ u.year ∧ u.year ≤ 9999)
    (hdated : IsDated response u) :
    Brings (some t) (.ok response) response ↔ t.IsBefore u.whole := by
  have hread := Instant.read?_httpDate hutc hyear
  have hvalue : response.header? "Last-Modified" = some u.httpDate := by
    obtain ⟨field, hfind⟩ := hdated.date
    rw [Response.header?, hfind, Option.bind_some, if_pos (isReadable_httpDate hyear)]
  constructor
  · rintro ⟨-, -, hnewer⟩
    exact hnewer t u.httpDate u.whole rfl hvalue hread
  · intro hbefore
    refine ⟨rfl, hdated.code, fun t' value modified ht' hvalue' hread' => ?_⟩
    obtain rfl : t = t' := Option.some.inj ht'
    obtain rfl : u.httpDate = value := Option.some.inj (hvalue.symm.trans hvalue')
    obtain rfl : u.whole = modified := Option.some.inj (hread.symm.trans hread')
    exact hbefore

theorem receive_of_old (hutc : u.IsUtc) (hyear : 0 ≤ u.year ∧ u.year ≤ 9999)
    (hdated : IsDated response u) (hold : ¬ t.IsBefore u.whole) :
    receive disk url destination (some t) (.ok response) = (disk, .ok false) := by
  have hstale : isStale (some t) response = true := by
    by_contra hfresh
    rw [Bool.not_eq_true, isStale_eq_false_iff] at hfresh
    exact hold ((brings_iff hutc hyear hdated).mp ⟨rfl, hdated.code, hfresh⟩)
  rw [receive, if_pos hdated.code, if_pos hstale]

/-- The date of an instant is read back as its whole second, and a copy with that date is written
for the instants before this second and for no others. -/
theorem downloadIfNewer_dated (r : Repository) (disk : Local.Disk) (name destination : String)
    (hutc : u.IsUtc) (hyear : 0 ≤ u.year ∧ u.year ≤ 9999) :
    MailDate.read? u.httpDate = some u.whole ∧
    ∀ {σ : Type} (server : σ → Request → Answer × σ) (s : σ) (response : Response) (t : Instant),
      IsDated response u →
      (server s (fetchRequest (r.url (.ofString name)) (some t))).1 = .ok response →
      (((downloadIfNewer r disk (.ofString name) destination t).run server s).1.2 = .ok true ↔
        t.IsBefore u.whole ∧ disk.IsWritable destination.toList response.body) ∧
      (t.IsBefore u.whole → disk.IsWritable destination.toList response.body →
        disk.Stores destination.toList response.body
          ((downloadIfNewer r disk (.ofString name) destination t).run server s).1.1) ∧
      (¬ t.IsBefore u.whole →
        ((downloadIfNewer r disk (.ofString name) destination t).run server s).1 =
          (disk, .ok false)) ∧
      (t = u → ((downloadIfNewer r disk (.ofString name) destination t).run server s).1 =
        (disk, .ok false)) ∧
      ∀ t' : Instant, t'.IsBefore t →
        (server s (fetchRequest (r.url (.ofString name)) (some t'))).1 = .ok response →
        ((downloadIfNewer r disk (.ofString name) destination t).run server s).1.2 = .ok true →
        ((downloadIfNewer r disk (.ofString name) destination t').run server s).1 =
          ((downloadIfNewer r disk (.ofString name) destination t).run server s).1 := by
  refine ⟨Instant.read?_httpDate hutc hyear, fun {σ} server s response t hdated hserve => ?_⟩
  have hrun : ∀ t, (server s (fetchRequest (r.url (.ofString name)) (some t))).1 = .ok response →
      ((downloadIfNewer r disk (.ofString name) destination t).run server s).1 =
        receive disk (r.url (.ofString name)) destination (some t) (.ok response) := by
    intro t hserve
    rw [downloadIfNewer, run_fetch, hserve]
  have hbrings : ∀ {t}, Brings (some t) (.ok response) response ↔ t.IsBefore u.whole :=
    brings_iff hutc hyear hdated
  have hwritten : (receive disk (r.url (.ofString name)) destination (some t) (.ok response)).2 =
      .ok true ↔ t.IsBefore u.whole ∧ disk.IsWritable destination.toList response.body := by
    rw [receive_eq_true_iff, exists_brings_iff, hbrings]
  rw [hrun t hserve]
  refine ⟨hwritten, fun hbefore hwritable => ?_, receive_of_old hutc hyear hdated, ?_, ?_⟩
  · exact ((receive_changes disk _ destination (some t) (.ok response)).written response
      (hbrings.mpr hbefore) hwritable).2
  · rintro rfl
    exact receive_of_old hutc hyear hdated t.not_isBefore_whole
  · intro t' hearlier hserve' htrue
    have hbefore := (hwritten.mp htrue).1
    rw [hrun t' hserve', receive_of_brings (hbrings.mpr hbefore),
      receive_of_brings (hbrings.mpr (hearlier.trans hbefore))]

/-- Half a second into the leap second at the end of 2016. -/
def leapSecond : Instant := ⟨1483228799, 1500000000⟩

/-- A copy with the date of the leap second. -/
def leapCopy : Response where
  status := ⟨200, none⟩
  headers := [("last-modified", leapSecond.httpDate)]
  body := [7]

/-- A copy with the date of a leap second is written for the last instant before it. -/
theorem downloadIfNewer_leapSecond :
    leapSecond.IsUtc ∧ (0 ≤ leapSecond.year ∧ leapSecond.year ≤ 9999) ∧
    MailDate.read? leapSecond.httpDate = some ⟨1483228799, 1000000000⟩ ∧
    ((downloadIfNewer ⟨"http://host".toList, []⟩ (.blank [] nofun) (.ofString "a") "f"
      ⟨1483228799, 999999999⟩).run (constantServer (.ok leapCopy)) ()).1.2 = .ok true := by
  have hutc : leapSecond.IsUtc := fun _ => by decide
  have hyear : 0 ≤ leapSecond.year ∧ leapSecond.year ≤ 9999 := by decide
  have hwritable : (Local.Disk.blank [] nofun).IsWritable "f".toList [7] :=
    ⟨⟨⟨by decide, by decide⟩, ⟨[], ['f'], by decide, by decide, by decide⟩, by decide, nofun,
      nofun, by decide⟩, by decide, by decide⟩
  obtain ⟨hread, hdownload⟩ := downloadIfNewer_dated ⟨"http://host".toList, []⟩
    (.blank [] nofun) "a" "f" hutc hyear
  exact ⟨hutc, hyear, hread, (hdownload (constantServer (.ok leapCopy)) () leapCopy _
    ⟨rfl, "last-modified", by decide⟩ rfl).1.mpr ⟨by decide, hwritable⟩⟩

end DavCourier.Transfer
