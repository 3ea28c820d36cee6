import Mathlib.Order.Monotone.Basic

/-!
# `Lib.Calendar` — the proleptic Gregorian calendar

A date is a year, a month and a day of that month; the calendar is what comes next after a date. The days are numbered
from the first of January of the year 0. A date has one number, the next date has the next one, and so the date a number
of days after another one is the one with the right number (`eq_iterate_next`): no arithmetic on the calendar is needed
beyond that of the first day of each month and of each year.
-/

namespace Calendar

/-! ## Dates -/

/-- Every fourth year, except every hundredth, except every four-hundredth. -/
def isLeap (year : Nat) : Bool := year % 4 == 0 && (year % 100 != 0 || year % 400 == 0)

variable (d : Date) (leap : Bool)

def monthLength : Nat → Nat
  | 2 => if leap then 29 else 28
  | 4 | 6 | 9 | 11 => 30
  | _ => 31

def yearLength (year : Nat) : Nat := if isLeap year then 366 else 365

@[ext] structure Date where
  year : Nat
  month : Nat
  day : Nat
  month_pos : 1 ≤ month
  month_le : month ≤ 12
  day_pos : 1 ≤ day
  day_le : day ≤ monthLength (isLeap year) month

theorem monthLength_pos (month : Nat) : 1 ≤ monthLength leap month := by
  unfold monthLength
  split
  · split <;> omega
  all_goals omega

def Date.next : Date :=
  if hday : d.day < monthLength (isLeap d.year) d.month then
    ⟨d.year, d.month, d.day + 1, d.month_pos, d.month_le, by omega, hday⟩
  else if hmonth : d.month < 12 then
    ⟨d.year, d.month + 1, 1, by omega, hmonth, Nat.le_refl 1, monthLength_pos _ _⟩
  else ⟨d.year + 1, 1, 1, Nat.le_refl 1, by omega, Nat.le_refl 1, monthLength_pos _ _⟩

theorem year_le_next : d.year ≤ d.next.year := by
  unfold Date.next
  split
  · exact Nat.le_refl _
  · split
    · exact Nat.le_refl _
    · exact Nat.le_succ _

/-! ## Days before a month, a year and a date -/

def daysBeforeMonth (leap : Bool) : Nat → Nat
  | 0 => 0
  | 1 => 0
  | month + 2 => daysBeforeMonth leap (month + 1) + monthLength leap (month + 1)

def daysBeforeYear : Nat → Nat
  | 0 => 0
  | year + 1 => daysBeforeYear year + yearLength year

def Date.number : Nat := daysBeforeYear d.year + daysBeforeMonth (isLeap d.year) d.month + (d.day - 1)

theorem daysBeforeMonth_succ {month : Nat} (h : 1 ≤ month) :
    daysBeforeMonth leap (month + 1) = daysBeforeMonth leap month + monthLength leap month := by
  obtain ⟨m, rfl⟩ := Nat.exists_eq_add_of_le' h
  rfl

theorem daysBeforeMonth_thirteen (year : Nat) : daysBeforeMonth (isLeap year) 13 = yearLength year := by
  unfold yearLength
  cases isLeap year with
  | false | true => rfl

theorem daysBeforeMonth_mono : Monotone (daysBeforeMonth leap) := by
  apply monotone_nat_of_le_succ
  intro month
  cases month with
  | zero => exact Nat.le_refl 0
  | succ month => exact Nat.le_add_right _ _

theorem daysBeforeYear_mono : Monotone daysBeforeYear := monotone_nat_of_le_succ fun _ => Nat.le_add_right _ _

theorem dayOfYear_lt : daysBeforeMonth (isLeap d.year) d.month + (d.day - 1) < yearLength d.year := by
  have hmonth := daysBeforeMonth_succ (isLeap d.year) d.month_pos
  have hyear := daysBeforeMonth_mono (isLeap d.year) (Nat.succ_le_succ d.month_le)
  rw [Nat.succ_eq_add_one, daysBeforeMonth_thirteen] at hyear
  have hpos := d.day_pos
  have hle := d.day_le
  omega

/-- **The next date has the next number.** -/
theorem number_next : d.next.number = d.number + 1 := by
  have hpos := d.day_pos
  have hle := d.day_le
  unfold Date.next
  split
  · simp only [Date.number]
    omega
  · next hday =>
      have hsucc := daysBeforeMonth_succ (isLeap d.year) d.month_pos
      split
      · simp only [Date.number]
        omega
      · next hmonth =>
          -- the last day of December
          have htwelve : d.month = 12 := by
            have := d.month_le
            omega
          have hyear : daysBeforeMonth (isLeap d.year) (12 + 1) = _ := daysBeforeMonth_thirteen d.year
          rw [htwelve] at hsucc hday hle
          show daysBeforeYear d.year + yearLength d.year + 0 + 0 =
            daysBeforeYear d.year + daysBeforeMonth (isLeap d.year) d.month + (d.day - 1) + 1
          rw [htwelve]
          omega

theorem number_iterate_next (n : Nat) : (Date.next^[n] d).number = d.number + n := by
  induction n with
  | zero => rfl
  | succ n ih => rw [Function.iterate_succ_apply', number_next, ih, Nat.add_assoc]

/-! ## Dates by their numbers -/

theorem eq_of_between {f : Nat → Nat} (hf : Monotone f) {m k x : Nat} (hm : f m ≤ x) (hm' : x < f (m + 1))
    (hk : f k ≤ x) (hk' : x < f (k + 1)) : m = k := by
  rcases Nat.lt_trichotomy m k with h | h | h
  · exact absurd (Nat.lt_of_lt_of_le hm' (hf h)) (Nat.not_lt.mpr hk)
  · exact h
  · exact absurd (Nat.lt_of_lt_of_le hk' (hf h)) (Nat.not_lt.mpr hm)

/-- **A number belongs to one date.** -/
theorem number_injective {d e : Date} (h : d.number = e.number) : d = e := by
  have hd := dayOfYear_lt d
  have he := dayOfYear_lt e
  have hyear : d.year = e.year := by
    apply eq_of_between daysBeforeYear_mono (x := d.number)
    · unfold Date.number; omega
    · rw [daysBeforeYear]; unfold Date.number; omega
    · rw [h]; unfold Date.number; omega
    · rw [h, daysBeforeYear]; unfold Date.number; omega
  unfold Date.number at h
  rw [hyear] at h hd
  have hdm := daysBeforeMonth_succ (isLeap e.year) d.month_pos
  have hem := daysBeforeMonth_succ (isLeap e.year) e.month_pos
  have hdle := hyear ▸ d.day_le
  have hele := e.day_le
  have hdpos := d.day_pos
  have hepos := e.day_pos
  have hmonth : d.month = e.month := by
    apply eq_of_between (daysBeforeMonth_mono (isLeap e.year))
      (x := daysBeforeMonth (isLeap e.year) d.month + (d.day - 1))
    · omega
    · omega
    · omega
    · omega
  rw [hmonth] at h
  exact Date.ext hyear hmonth (by omega)

/-- **The date after a number of days** is the one with the right number. -/
theorem eq_iterate_next {d e : Date} {n : Nat} (h : e.number = d.number + n) : e = Date.next^[n] d := by
  apply number_injective
  rw [h, number_iterate_next]

end Calendar
