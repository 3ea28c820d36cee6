import HuaweiY5.Nmea.Reader

/-!
# `Mnld.EpoTime` — the times in an EPO file

An EPO file is a list of records of 72 bytes, each for one satellite and six hours; the first three bytes of a
record count the hours since the GPS epoch. `GpsToUtcTime` turns GPS weeks and seconds into a calendar date and
that, by `mktime`, into the seconds the downloader compares.
-/

namespace HuaweiY5.Mnld

open Codec (Byte)
open Nmea (Tm)

/-! ## GPS time to calendar time -/

/-- One pass of the loop that decides the year; `years` counts from 1980. -/
def yearPass (days years : Nat) : Option Nat :=
  if 365 ≤ days then
    if years % 100 = 20 then
      if years % 400 = 20 then
        if 366 ≤ days then some (days - 366) else none
      else some (days - 365)
    else if years % 4 = 0 then
      if 366 ≤ days then some (days - 366) else none
    else some (days - 365)
  else none

/-- The loop. Every pass takes days away, so their number bounds the passes. -/
def decideYear : Nat → Nat → Nat → Nat × Nat
  | 0, days, years => (days, years)
  | fuel + 1, days, years =>
    match yearPass days years with
    | none => (days, years)
    | some rest => decideYear fuel rest (years + 1)

def fgLeapYear (years : Nat) : Bool := if years % 100 = 20 then years % 400 == 20 else years % 4 == 0

/-- `doy`: the days before each month, with the leap day from March on. -/
def doy (leap : Bool) : List Nat :=
  let table := [0, 31, 59, 90, 120, 151, 181, 212, 243, 273, 304, 334]
  if leap then table.mapIdx fun i d => if 2 ≤ i then d + 1 else d else table

variable (mktime : Tm → Int)

/-- `GpsToUtcTime`, for the whole seconds it is called with. -/
def gpsToUtcTime (wn tow : Nat) : Int :=
  let daysElapsed := wn * 7 + tow / 86400 + 5
  let secElapsed := tow - tow / 86400 * 86400
  let (days, years) := decideYear daysElapsed daysElapsed 0
  let table := doy (fgLeapYear years)
  let mo := table.findIdx (days < ·)
  let day : Int := if 0 < mo then days - table.getD (mo - 1) 0 + 1 else 0
  mktime
    { hour := secElapsed / 3600
      min := secElapsed % 3600 / 60
      sec := secElapsed - secElapsed / 60 * 60
      year := 1980 + years - 1900
      mon := mo - 1
      mday := day }

/-! ## Records -/

def mtkEpoOneSvSize : Nat := 72

/-- `u4GpsSecs` of a record, in 32-bit arithmetic: three bytes of hours, and `after` seconds. -/
def gpsSecs (record : List Byte) (after : Nat) : Nat :=
  let hours := (record.getD 0 0).toNat + 256 * (record.getD 1 0).toNat + 65536 * (record.getD 2 0).toNat
  (hours * 3600 + after) % 4294967296

def recordTime (secs : Nat) : Int := gpsToUtcTime mktime (secs / 604800) (secs % 604800)

/-- `mtk_gps_epo_piece_data_start`, and `mtk_gps_sys_epo_period_start` on another file: the time of the first
    record, if there is one. -/
def dataStart (content : List Byte) : Option Int :=
  if content.length < mtkEpoOneSvSize then none else some (recordTime mktime (gpsSecs content 0))

/-- `mtk_gps_epo_piece_data_end` and `mtk_gps_sys_epo_period_end`: the end of the last record. -/
def dataEnd (content : List Byte) : Option Int :=
  if content.length < mtkEpoOneSvSize then none
  else some (recordTime mktime (gpsSecs (content.drop (content.length - mtkEpoOneSvSize)) 21600))

/-- `mtk_gps_epo_file_time_hal`: start and end of EPOHAL.DAT or else of EPO.DAT, where there is data to read. -/
def epoFileTimeHal (epohal epo : Option (List Byte)) : Option (Int × Int) :=
  (epohal <|> epo).bind fun content =>
    (dataStart mktime content).bind fun start => (dataEnd mktime content).map fun expire => (start, expire)

theorem dataStart_eq_none {mktime : Tm → Int} {content : List Byte} :
    dataStart mktime content = none ↔ content.length < mtkEpoOneSvSize := by
  unfold dataStart
  split <;> simp_all

theorem dataEnd_eq_none {mktime : Tm → Int} {content : List Byte} :
    dataEnd mktime content = none ↔ content.length < mtkEpoOneSvSize := by
  unfold dataEnd
  split <;> simp_all

end HuaweiY5.Mnld
