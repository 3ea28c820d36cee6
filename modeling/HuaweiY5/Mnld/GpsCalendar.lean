import HuaweiY5.Lib.Calendar
import HuaweiY5.Mnld.EpoTime

/-!
# `Mnld.GpsCalendar` — the date `GpsToUtcTime` computes

`GpsToUtcTime` counts the days since the first of January 1980, takes whole years away as long as there are enough days
left, and looks the month up in a table of the days before each month. Years are counted from 1980, so that the rule for
leap years is written with the remainders 20 and 0. The date it arrives at is the calendar's date that many days after
the beginning of GPS time, the sixth of January 1980.
-/

namespace HuaweiY5.Mnld

open List

open Nmea (Tm)
open Calendar

/-! ## The fields -/

/-- `pi2Mo` and `pi2Day`, from the days left in the year. -/
def monthAndDay (days years : Nat) : Nat × Int :=
  let table := doy (fgLeapYear years)
  let mo := table.findIdx (days < ·)
  (mo, if 0 < mo then days - table.getD (mo - 1) 0 + 1 else 0)

def dateFields (daysElapsed : Nat) : Nat × Nat × Int :=
  ((decideYear daysElapsed daysElapsed 0).2,
    monthAndDay (decideYear daysElapsed daysElapsed 0).1 (decideYear daysElapsed daysElapsed 0).2)

/-- The fields of `target_time`. -/
def brokenDown (wn tow : Nat) : Tm :=
  let secElapsed := tow - tow / 86400 * 86400
  let d := dateFields (wn * 7 + tow / 86400 + 5)
  { hour := secElapsed / 3600
    min := secElapsed % 3600 / 60
    sec := secElapsed - secElapsed / 60 * 60
    year := 1980 + d.1 - 1900
    mon := d.2.1 - 1
    mday := d.2.2 }

/-- The fields for any two `int`s: the division is that of C, and the days are converted to an `unsigned int`. -/
def brokenDownInt (wn tow : Int) : Tm :=
  let secElapsed := tow - tow.tdiv 86400 * 86400
  let d := dateFields ((wn * 7 + tow.tdiv 86400 + 5) % 4294967296).toNat
  { hour := secElapsed.tdiv 3600
    min := (secElapsed.tmod 3600).tdiv 60
    sec := secElapsed - secElapsed.tdiv 60 * 60
    year := 1980 + d.1 - 1900
    mon := d.2.1 - 1
    mday := d.2.2 }

theorem brokenDownInt_eq {wn tow : Nat} (hfits : wn * 7 + tow / 86400 + 5 < 4294967296) :
    brokenDownInt wn tow = brokenDown wn tow := by
  have hdays : (((wn : Int) * 7 + (tow : Int).tdiv 86400 + 5) % 4294967296).toNat = wn * 7 + tow / 86400 + 5 := by
    rw [Int.tdiv_eq_ediv_of_nonneg (Int.natCast_nonneg tow)]
    omega
  have hsecs : (tow : Int) - (tow : Int).tdiv 86400 * 86400 = (tow - tow / 86400 * 86400 : Nat) := by
    rw [Int.tdiv_eq_ediv_of_nonneg (Int.natCast_nonneg tow)]
    omega
  unfold brokenDownInt brokenDown
  rw [hdays, hsecs]
  generalize tow - tow / 86400 * 86400 = secs
  simp [Int.tmod_eq_emod_of_nonneg (Int.natCast_nonneg secs),
    Int.tdiv_eq_ediv_of_nonneg (Int.emod_nonneg _ (show (3600 : Int) ≠ 0 by decide))]

theorem gpsToUtcTime_eq (mktime : Tm → Int) (wn tow : Nat) :
    gpsToUtcTime mktime wn tow = mktime (brokenDown wn tow) := rfl

/-! ## The year -/

theorem fgLeapYear_eq (years : Nat) : fgLeapYear years = isLeap (1980 + years) := by
  rw [Bool.eq_iff_iff]
  unfold fgLeapYear isLeap
  simp only [Bool.and_eq_true, Bool.or_eq_true, bne_iff_ne]
  split
  · simp only [beq_iff_eq]
    omega
  · simp only [beq_iff_eq]
    omega

theorem yearPass_eq (days years : Nat) : yearPass days years =
    if days < yearLength (1980 + years) then none else some (days - yearLength (1980 + years)) := by
  have hlen : yearLength (1980 + years) = if fgLeapYear years then 366 else 365 := by rw [fgLeapYear_eq, yearLength]
  rw [hlen]
  unfold yearPass fgLeapYear
  by_cases h100 : years % 100 = 20
  · by_cases h400 : years % 400 = 20
    · simp only [h100, h400, if_true, beq_self_eq_true]
      split_ifs <;> first | rfl | omega
    · simp only [h100, if_true, beq_iff_eq]
      split_ifs <;> first | rfl | omega
  · by_cases h4 : years % 4 = 0
    · simp only [h100, h4, if_false, beq_self_eq_true]
      split_ifs <;> first | rfl | omega
    · simp only [h100, if_false, beq_iff_eq]
      split_ifs <;> first | rfl | omega

theorem yearLength_pos (year : Nat) : 0 < yearLength year := by
  unfold yearLength
  split <;> omega

/-- **The loop over the years** ends, with a day of the year it has come to, and the days counted so far stay the same. -/
theorem decideYear_spec (fuel days years : Nat) (hfuel : days ≤ fuel) :
    let r := decideYear fuel days years
    yearPass r.1 r.2 = none ∧ r.1 < yearLength (1980 + r.2) ∧
      daysBeforeYear (1980 + r.2) + r.1 = daysBeforeYear (1980 + years) + days := by
  induction fuel generalizing days years with
  | zero =>
    have hpos := yearLength_pos (1980 + years)
    have hlt : days < yearLength (1980 + years) := by omega
    exact ⟨by rw [decideYear, yearPass_eq, if_pos hlt], hlt, rfl⟩
  | succ fuel ih =>
    have hpos := yearLength_pos (1980 + years)
    by_cases hlt : days < yearLength (1980 + years)
    · have hpass : yearPass days years = none := by rw [yearPass_eq, if_pos hlt]
      rw [decideYear, hpass]
      exact ⟨hpass, hlt, rfl⟩
    · have hpass : yearPass days years = some (days - yearLength (1980 + years)) := by rw [yearPass_eq, if_neg hlt]
      obtain ⟨hend, hday, hsum⟩ := ih (days - yearLength (1980 + years)) (years + 1) (by omega)
      rw [decideYear, hpass]
      refine ⟨hend, hday, hsum.trans ?_⟩
      show daysBeforeYear (1980 + years) + yearLength (1980 + years) + _ = _
      omega

/-! ## The month -/

theorem doy_eq (leap : Bool) : doy leap = (List.range 12).map fun m => daysBeforeMonth leap (m + 1) := by
  cases leap with
  | false | true => rfl

theorem doy_getElem {leap : Bool} {m : Nat} (h : m < (doy leap).length) :
    (doy leap)[m] = daysBeforeMonth leap (m + 1) := by
  simp [doy_eq]

theorem length_doy (leap : Bool) : (doy leap).length = 12 := by
  rw [doy_eq, length_map, length_range]

/-- **The search for the month** finds the month the day is in. -/
theorem month_spec {year days : Nat} (hdays : days < yearLength year) :
    let mo := (doy (isLeap year)).findIdx (days < ·)
    1 ≤ mo ∧ mo ≤ 12 ∧ daysBeforeMonth (isLeap year) mo ≤ days ∧ days < daysBeforeMonth (isLeap year) (mo + 1) := by
  intro mo
  have hlen := length_doy (isLeap year)
  have hle : mo ≤ 12 := hlen ▸ findIdx_le_length
  have hfound : mo < 12 → days < daysBeforeMonth (isLeap year) (mo + 1) := by
    intro hlt
    have hidx : mo < (doy (isLeap year)).length := by omega
    have h := findIdx_getElem (w := hidx)
    rw [doy_getElem] at h
    exact of_decide_eq_true h
  have hpos : 1 ≤ mo := by
    -- no day comes before January
    rcases Nat.eq_zero_or_pos mo with hzero | hpos
    · have h := hfound (by omega)
      rw [hzero] at h
      exact absurd h (Nat.not_lt_zero days)
    · exact hpos
  refine ⟨hpos, hle, ?_, ?_⟩
  · have h := not_of_lt_findIdx (show mo - 1 < mo by omega)
    rw [doy_getElem, Nat.sub_add_cancel hpos] at h
    simpa using h
  · rcases Nat.lt_or_eq_of_le hle with hlt | heq
    · exact hfound hlt
    · rw [heq, daysBeforeMonth_thirteen]
      exact hdays

/-! ## The date -/

def gpsEpoch : Date := ⟨1980, 1, 6, Nat.one_pos, by decide, by decide, by decide⟩

theorem number_gpsEpoch : gpsEpoch.number = daysBeforeYear 1980 + 5 := by
  have hjanuary : daysBeforeMonth (isLeap 1980) 1 = 0 := by decide
  simp [Date.number, gpsEpoch, hjanuary]

theorem monthAndDay_date {days years : Nat} (hday : days < yearLength (1980 + years)) :
    ∃ date : Date, date.year = 1980 + years ∧ monthAndDay days years = (date.month, (date.day : Int)) ∧
      date.number = daysBeforeYear (1980 + years) + days := by
  obtain ⟨hpos, hle, hlow, hhigh⟩ := month_spec hday
  simp only [monthAndDay, fgLeapYear_eq]
  generalize (doy (isLeap (1980 + years))).findIdx (days < ·) = mo at *
  have hstep := daysBeforeMonth_succ (isLeap (1980 + years)) hpos
  have hget : (doy (isLeap (1980 + years))).getD (mo - 1) 0 = daysBeforeMonth (isLeap (1980 + years)) mo := by
    have hidx : mo - 1 < (doy (isLeap (1980 + years))).length := by
      rw [length_doy]
      omega
    rw [getD_eq_getElem?_getD, getElem?_eq_getElem hidx, doy_getElem, Nat.sub_add_cancel hpos, Option.getD_some]
  refine ⟨⟨1980 + years, mo, days - daysBeforeMonth (isLeap (1980 + years)) mo + 1, hpos, hle, by omega, by omega⟩,
    rfl, ?_, ?_⟩
  · refine Prod.ext rfl ?_
    simp only
    omega
  · simp only [Date.number]
    omega

/-- **The fields of the date**: those of the day so many days after the beginning of GPS time. -/
theorem dateFields_eq (n : Nat) :
    dateFields (n + 5) =
      ((Date.next^[n] gpsEpoch).year - 1980, (Date.next^[n] gpsEpoch).month, ((Date.next^[n] gpsEpoch).day : Int)) := by
  obtain ⟨-, hday, hsum⟩ := decideYear_spec (n + 5) (n + 5) 0 (Nat.le_refl _)
  obtain ⟨date, hyear, hfields, hnumber⟩ := monthAndDay_date hday
  have hdate : date = Date.next^[n] gpsEpoch := by
    apply eq_iterate_next
    rw [hnumber, hsum, number_gpsEpoch, Nat.add_zero]
    omega
  unfold dateFields
  rw [← hdate, hfields, hyear, Nat.add_sub_cancel_left]

theorem year_ge (n : Nat) : 1980 ≤ (Date.next^[n] gpsEpoch).year := by
  induction n with
  | zero => exact Nat.le_refl 1980
  | succ n ih =>
    rw [Function.iterate_succ_apply']
    exact Nat.le_trans ih (year_le_next _)

/-- **`GpsToUtcTime` computes the calendar's date.** For every week and time of week the loop over the years ends by its
    own test, and what is given to `mktime` are the fields of the proleptic Gregorian date that many days after the sixth
    of January 1980, and of the time of that day. The machine's arithmetic computes the same fields as long as `i2Wn * 7`
    does not overflow. -/
theorem gps_to_calendar (wn tow : Nat) :
    (∀ mktime : Tm → Int, gpsToUtcTime mktime wn tow = mktime (brokenDown wn tow)) ∧
    (wn * 7 < 2147483648 → tow < 604800 → brokenDownInt wn tow = brokenDown wn tow) ∧
    let elapsed := wn * 7 + tow / 86400 + 5
    let ended := decideYear elapsed elapsed 0
    let date := Date.next^[7 * wn + tow / 86400] gpsEpoch
    let time := tow % 86400
    yearPass ended.1 ended.2 = none ∧
      brokenDown wn tow =
        { year := date.year - 1900
          mon := date.month - 1
          mday := date.day
          hour := time / 3600
          min := time / 60 % 60
          sec := time % 60 } ∧
      (1 ≤ date.month ∧ date.month ≤ 12) ∧
      (1 ≤ date.day ∧ date.day ≤ monthLength (isLeap date.year) date.month) := by
  refine ⟨fun mktime => gpsToUtcTime_eq mktime wn tow, fun _ _ => brokenDownInt_eq (by omega), ?_⟩
  intro elapsed ended date time
  have hfields : dateFields (7 * wn + tow / 86400 + 5) = (date.year - 1980, date.month, (date.day : Int)) :=
    dateFields_eq _
  have hyear : 1980 ≤ date.year := year_ge _
  have hend := (decideYear_spec elapsed elapsed 0 (Nat.le_refl _)).1
  refine ⟨hend, ?_, ⟨date.month_pos, date.month_le⟩, date.day_pos, date.day_le⟩
  have hsecs : tow - tow / 86400 * 86400 = time := by omega
  unfold brokenDown
  rw [Nat.mul_comm wn 7, hfields, hsecs]
  simp only [Tm.mk.injEq]
  refine ⟨trivial, ?_, ?_, ?_, trivial, trivial⟩
  · omega
  · omega
  · omega

/-- The week in which the ten bits of the broadcast week number begin anew: it starts on the 22nd of August 1999. -/
theorem gps_to_calendar_rollover :
    brokenDownInt (1024 : Nat) (0 : Nat) = brokenDown 1024 0 ∧
      (Date.next^[7 * 1024] gpsEpoch).year = 1999 ∧ (Date.next^[7 * 1024] gpsEpoch).month = 8 ∧
      (Date.next^[7 * 1024] gpsEpoch).day = 22 := by
  obtain ⟨-, hint, -, hdate, hmonth, -⟩ := gps_to_calendar 1024 0
  have hfields : brokenDown 1024 0 = { year := 99, mon := 7, mday := 22, hour := 0, min := 0, sec := 0 } := by
    decide +kernel
  refine ⟨hint (by decide) (by decide), ?_⟩
  rw [hfields] at hdate
  generalize Date.next^[7 * 1024] gpsEpoch = date at hdate hmonth ⊢
  simp only [Tm.mk.injEq] at hdate
  omega

end HuaweiY5.Mnld
