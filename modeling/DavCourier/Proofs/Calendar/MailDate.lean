import DavCourier.Calendar.MailDate
import DavCourier.Proofs.Calendar.Date
import DavCourier.Proofs.Calendar.Order
import DavCourier.Proofs.Text.Blank
import DavCourier.Proofs.Text.Numeral

/-!
# Instants read back

Mail dates are read as headers write them. Each part of a date is read up to where the next one
starts, and leaves the rest (`digits?_padded`, `name?_append`), so the parts that were written are
the ones that are read (`parts?_written`). Those of an instant stand for its whole second
(`parts_instant`), in every year that is written with four digits : `read?_httpDate`.
-/

namespace DavCourier.Calendar

/-- The name of a day of the week. -/
def weekdayName (i : Nat) : List Char :=
  ((weekdayNames[i]?).getD "").toList

/-- The name of a month, where the first is 0. -/
def monthName (i : Nat) : List Char :=
  ((monthNames[i]?).getD "").toList

namespace MailDate

open Numeral (IsDecimal padded)

variable {rest : List Char}

/-! ## The parts of a date one by one -/

theorem digits?_append {least most n : Nat} {ds : List Char} (h : IsDecimal ds n)
    (hleast : least ≤ ds.length) (hmost : ds.length ≤ most)
    (hrest : ds.length = most ∨ ∀ c ∈ rest.head?, c.isDigit = false) :
    digits? least most (ds ++ rest) = some (n, rest) := by
  have hhead : ∀ c ∈ (rest.take (most - ds.length)).head?, c.isDigit = false := by
    rcases hrest with heq | hrest
    · rw [heq, Nat.sub_self, List.take_zero]
      nofun
    · intro c hc
      rw [List.head?_take] at hc
      split at hc
      · cases hc
      · exact hrest c hc
  have hdigits : ((ds ++ rest).take most).takeWhile Char.isDigit = ds := by
    rw [List.take_append, List.take_of_length_le hmost]
    exact (Text.cut_append_of_head h.isDigit hhead).1
  rw [digits?, hdigits, if_neg (Nat.not_lt.mpr hleast), Numeral.value?_eq_some_iff.mpr h,
    List.drop_left, Option.map_some]

/-- A number in as many digits as there may be. -/
theorem digits?_padded {least width n : Nat} (hwidth : 0 < width) (hleast : least ≤ width)
    (h : n < 10 ^ width) : digits? least width (padded width n ++ rest) = some (n, rest) := by
  have hlength := Numeral.length_padded hwidth h
  exact digits?_append (Numeral.isDecimal_padded width n) (hleast.trans_eq hlength.symm)
    hlength.le (Or.inl hlength)

/-- A year in four digits is the year that they spell. -/
theorem year?_padded {n : Nat} (h : n < 10 ^ 4) (hrest : ∀ c ∈ rest.head?, c.isDigit = false) :
    year? (padded 4 n ++ rest) = some (n, rest) := by
  have hlength := Numeral.length_padded (by decide) h
  have hle : (padded 4 n).length ≤ (padded 4 n ++ rest).length := by
    rw [List.length_append]
    exact Nat.le_add_right _ _
  rw [year?, digits?_append (Numeral.isDecimal_padded 4 n) (by omega) hle (Or.inr hrest),
    Option.map_some]
  dsimp only
  rw [List.length_append, Nat.add_sub_cancel, hlength]
  rfl

theorem name?_append {names : List String} {w : List Char} {i : Nat} (hlength : w.length = 3)
    (hfind : names.findIdx? (fun s => s.toList.map Text.lower == w.map Text.lower) = some i) :
    name? names (w ++ rest) = some (i, rest) := by
  have htake : (w ++ rest).take 3 = w := List.take_left' hlength
  have hdrop : (w ++ rest).drop 3 = rest := List.drop_left' hlength
  simp only [name?, htake, hfind, hdrop]

theorem name?_weekdayName {i : Nat} (h : i < 7) :
    name? weekdayNames (weekdayName i ++ rest) = some (i, rest) := by
  have hnames : ∀ i : Fin 7, (weekdayName i).length = 3 ∧ weekdayNames.findIdx?
      (fun s => s.toList.map Text.lower == (weekdayName i).map Text.lower) = some i.val := by
    decide
  exact name?_append (hnames ⟨i, h⟩).1 (hnames ⟨i, h⟩).2

theorem name?_monthName {i : Nat} (h : i < 12) :
    name? monthNames (monthName i ++ rest) = some (i, rest) := by
  have hnames : ∀ i : Fin 12, (monthName i).length = 3 ∧ monthNames.findIdx?
      (fun s => s.toList.map Text.lower == (monthName i).map Text.lower) = some i.val := by
    decide
  exact name?_append (hnames ⟨i, h⟩).1 (hnames ⟨i, h⟩).2

/-! ## The blanks before a part -/

theorem skipBlanks_append {w : List Char} (h : w.head?.any (!Text.isBlank ·) = true)
    (rest : List Char) : skipBlanks (w ++ rest) = w ++ rest := by
  cases w with
  | nil => cases h
  | cons c w => exact List.dropWhile_cons_of_neg (by simpa using h)

theorem skipBlanks_blank (cs : List Char) : skipBlanks (' ' :: cs) = skipBlanks cs :=
  List.dropWhile_cons_of_pos rfl

theorem skipBlanks_padded (width n : Nat) :
    skipBlanks (padded width n ++ rest) = padded width n ++ rest := by
  have h := Numeral.isDecimal_padded width n
  obtain ⟨c, cs, hcs⟩ := List.exists_cons_of_ne_nil h.ne_nil
  have hc : Text.isBlank c = false :=
    Text.isBlank_of_isDigit (h.isDigit c (by rw [hcs]; exact List.mem_cons_self))
  exact skipBlanks_append (by simp [hcs, hc]) rest

theorem skipBlanks_weekdayName {i : Nat} (h : i < 7) :
    skipBlanks (weekdayName i ++ rest) = weekdayName i ++ rest := by
  have hnames : ∀ i : Fin 7, (weekdayName i).head?.any (!Text.isBlank ·) = true := by decide
  exact skipBlanks_append (hnames ⟨i, h⟩) rest

theorem skipBlanks_monthName {i : Nat} (h : i < 12) :
    skipBlanks (monthName i ++ rest) = monthName i ++ rest := by
  have hnames : ∀ i : Fin 12, (monthName i).head?.any (!Text.isBlank ·) = true := by decide
  exact skipBlanks_append (hnames ⟨i, h⟩) rest

/-! ## The whole date -/

/-- A date and a time as headers write them. -/
def written (weekday : Nat) (date : Date) (hour minute second : Nat) : List Char :=
  weekdayName weekday ++ (',' :: ' ' :: (padded 2 date.day.toNat ++ (' ' ::
    (monthName (date.month - 1).toNat ++ (' ' :: (padded 4 date.year.toNat ++ (' ' ::
    (padded 2 hour ++ (':' :: (padded 2 minute ++ (':' :: (padded 2 second ++
    ' ' :: "GMT".toList))))))))))))

theorem parts?_written {weekday hour minute second : Nat} {date : Date} (hweekday : weekday < 7)
    (hyear : 0 ≤ date.year ∧ date.year ≤ 9999) (hmonth : 1 ≤ date.month ∧ date.month ≤ 12)
    (hday : 1 ≤ date.day ∧ date.day ≤ 99) (hhour : hour < 10 ^ 2) (hminute : minute < 10 ^ 2)
    (hsecond : second < 10 ^ 2) : parts? (written weekday date hour minute second) =
      some ⟨some weekday, date, hour, minute, second, 0⟩ := by
  have hcolon : ∀ cs, skipBlanks (':' :: cs) = ':' :: cs := fun cs =>
    List.dropWhile_cons_of_neg (by decide)
  have hmark : ∀ c cs, mark? c (c :: cs) = some cs := fun c cs => if_pos rfl
  have hblanks : ∀ cs, blanks? (' ' :: cs) = some (skipBlanks cs) := fun cs => rfl
  have hzone : skipBlanks "GMT".toList = "GMT".toList ∧ zone? "GMT".toList = some (0, []) := by
    decide
  have hd : date.day.toNat < 10 ^ 2 := by omega
  have hm : (date.month - 1).toNat < 12 := by omega
  have hy : date.year.toNat < 10 ^ 4 := by omega
  have hblank : ∀ cs : List Char, ∀ c ∈ (' ' :: cs).head?, c.isDigit = false := by
    rintro cs c ⟨⟩
    decide
  have htwo : ∀ {least n : Nat} {rest : List Char}, least ≤ 2 → n < 10 ^ 2 →
      digits? least 2 (padded 2 n ++ rest) = some (n, rest) := fun hleast hn =>
    digits?_padded (by decide) hleast hn
  have hdate : (⟨date.year.toNat, (date.month - 1).toNat + 1, date.day.toNat⟩ : Date) = date := by
    obtain ⟨year, month, day⟩ := date
    rw [Date.mk.injEq]
    dsimp only at hyear hmonth hday ⊢
    omega
  have hbind : ∀ {α β : Type} (a : α) (f : α → Option β), (some a >>= f) = f a :=
    fun _ _ => rfl
  rw [parts?, written]
  -- the day of the week and the date
  rw [skipBlanks_weekdayName hweekday, weekday?, name?_weekdayName hweekday]
  dsimp only
  rw [hmark, Option.map_some, hbind, skipBlanks_blank, skipBlanks_padded, htwo (by decide) hd,
    hbind, hblanks, hbind, skipBlanks_monthName hm, name?_monthName hm, hbind]
  dsimp only
  rw [hblanks, hbind, skipBlanks_padded, year?_padded hy (hblank _), hbind]
  -- the time and the zone
  dsimp only
  rw [hblanks, hbind, skipBlanks_padded, htwo le_rfl hhour, hbind, hcolon, hmark, hbind,
    skipBlanks_padded, htwo le_rfl hminute, hbind, hcolon, hmark]
  dsimp only
  rw [htwo le_rfl hsecond, hbind]
  dsimp only
  rw [hblanks, hbind, hzone.1, hzone.2, hbind, hdate]
  rfl

end MailDate

/-! ## Instants -/

theorem weekday_lt (days : Int) : weekday days < 7 := by
  unfold weekday
  omega

namespace Instant

/-- The year in which the instant is. -/
def year (u : Instant) : Int :=
  (Date.ofDays u.days).year

/-- Only after the last second of a minute there may be a leap second. -/
def IsUtc (u : Instant) : Prop :=
  1000000000 ≤ u.nanos → u.seconds % 60 = 59

/-- The instant without its part of a second. A leap second stays one. -/
def whole (u : Instant) : Instant :=
  { u with nanos := if 1000000000 ≤ u.nanos then 1000000000 else 0 }

variable {u : Instant}

/-- Without its part of a second an instant is not later. -/
theorem not_isBefore_whole (u : Instant) : ¬ u.IsBefore u.whole := by
  unfold IsBefore whole
  dsimp only
  split <;> omega

theorem secondOfDay_lt (u : Instant) : u.secondOfDay < 86400 := by
  unfold secondOfDay daySeconds
  omega

theorem seconds_eq (u : Instant) : u.seconds = u.days * daySeconds + u.secondOfDay := by
  unfold secondOfDay days daySeconds
  omega

theorem httpDate_eq (hyear : 0 ≤ u.year ∧ u.year ≤ 9999) : u.httpDate = String.ofList
    (MailDate.written (weekday u.days) (Date.ofDays u.days) (u.secondOfDay / 3600)
      (u.secondOfDay / 60 % 60) u.shownSecond) := by
  have hcomma : ", ".toList = [',', ' '] := by decide
  have hlast : " GMT".toList = ' ' :: "GMT".toList := by decide
  unfold year at hyear
  unfold httpDate
  generalize Date.ofDays u.days = date at hyear ⊢
  have htext : yearText date.year = Numeral.padded 4 date.year.toNat := by
    rw [yearText, if_neg (Int.not_lt.mpr hyear.1), if_neg (Int.not_lt.mpr hyear.2)]
  simp only [MailDate.written, weekdayName, monthName, htext, hcomma, hlast, List.append_assoc,
    List.cons_append, List.nil_append]

/-- The parts that are written for an instant stand for its whole second. -/
theorem shownSecond_facts (hutc : u.IsUtc) : u.shownSecond ≤ 60 ∧
    (u.shownSecond = 60 ↔ 1000000000 ≤ u.nanos) ∧
    min u.shownSecond 59 = u.secondOfDay % 60 := by
  have hlt : u.secondOfDay % 60 < 60 := Nat.mod_lt _ (by decide)
  unfold shownSecond
  split
  · next hleap =>
    have hlast : u.secondOfDay % 60 = 59 := by
      have h := hutc hleap
      unfold secondOfDay daySeconds
      omega
    omega
  · next hleap => omega

theorem parts_instant (hutc : u.IsUtc) : MailDate.Parts.instant
    ⟨some (weekday u.days), Date.ofDays u.days, u.secondOfDay / 3600, u.secondOfDay / 60 % 60,
      u.shownSecond, 0⟩ = u.whole := by
  obtain ⟨-, hleap, hmin⟩ := shownSecond_facts hutc
  have hseconds : u.days * daySeconds + (u.secondOfDay / 3600 : Nat) * 3600 +
      (u.secondOfDay / 60 % 60 : Nat) * 60 + (u.secondOfDay % 60 : Nat) - 0 = u.seconds := by
    have h := u.seconds_eq
    omega
  simp only [MailDate.Parts.instant, whole, Date.toDays_ofDays, hleap, hmin]
  rw [hseconds]

theorem read?_httpDate (hutc : u.IsUtc) (hyear : 0 ≤ u.year ∧ u.year ≤ 9999) :
    MailDate.read? u.httpDate = some u.whole := by
  obtain ⟨hsecond, -⟩ := shownSecond_facts hutc
  have hday := u.secondOfDay_lt
  have hvalid := Date.isValid_ofDays u.days
  have hdate := Date.isValid_iff.mp hvalid
  have hlength := monthLength_le (Date.ofDays u.days).year (Date.ofDays u.days).month
  have hparts := MailDate.parts?_written (weekday_lt u.days) hyear ⟨hdate.1, hdate.2.1⟩
    ⟨hdate.2.2.1, by omega⟩ (by omega : u.secondOfDay / 3600 < 10 ^ 2)
    (by omega : u.secondOfDay / 60 % 60 < 10 ^ 2) (by omega : u.shownSecond < 10 ^ 2)
  rw [MailDate.read?, httpDate_eq hyear, String.toList_ofList, hparts]
  dsimp only
  rw [parts_instant hutc]
  have hyears : (Date.ofDays u.whole.days).year ≤ MailDate.yearRange.2 := hyear.2.trans (by decide)
  have hok : MailDate.Parts.isValid ⟨some (weekday u.days), Date.ofDays u.days,
      u.secondOfDay / 3600, u.secondOfDay / 60 % 60, u.shownSecond, 0⟩ = true := by
    have hyear' : (Date.ofDays u.days).year ≤ MailDate.yearRange.2 := hyears
    have hhour : u.secondOfDay / 3600 ≤ 23 := by omega
    have hminute : u.secondOfDay / 60 % 60 ≤ 59 := by omega
    simp [MailDate.Parts.isValid, hvalid, hyear', Date.toDays_ofDays, hhour, hminute, hsecond]
  rw [if_pos]
  simp [hok, hyears]

end Instant

end DavCourier.Calendar
