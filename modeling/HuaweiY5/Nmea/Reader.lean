import HuaweiY5.Lib.Codec
import HuaweiY5.Lib.Framing

/-!
# `Nmea.Reader` — the NMEA parser of mnld

`mtk_mnl_nmea_parser_process` gets a buffer of NMEA text from libmnl, reads it byte by byte into a `NmeaReader` of
its own and parses every line it completes: fixes from GGA, RMC and ACCURACY, the fix mode and the satellites used
in the fix from GSA, the satellites in view from GSV. The line is forwarded to the HAL, and with the last byte of
the buffer the fix and the satellite list collected so far are reported.
-/

namespace HuaweiY5.Nmea

open Codec (Byte)
open Framing

/-! ## Sentences and tokens -/

def chr (c : Char) : Byte := BitVec.ofNat 8 c.toNat

def newline : Byte := chr '\n'

/-- Arithmetic of a 32-bit `int`. -/
def int32 (x : Int) : Int := x.bmod 4294967296

theorem int32_of_bounds {x : Int} (hlo : 0 ≤ x) (hhi : x < 2147483648) : int32 x = x := by
  unfold int32 Int.bmod
  simp only [Nat.cast_ofNat]
  omega

/-- `Token`: the characters from `p` to `end`, and `p[0]`, which is also read where the token is empty. -/
structure Token where
  text : List Byte
  head : Byte
deriving DecidableEq

def maxNmeaTokens : Nat := 24

/-- The loop of `nmea_tokenizer_init` over the characters from `p` to `end`. -/
def tokens : Nat → List Byte → List Token
  | 0, _ => []
  | _ + 1, [] => []
  | n + 1, c :: cs =>
    ⟨(c :: cs).takeWhile (· ≠ chr ','), c⟩ :: tokens n ((c :: cs).dropWhile (· ≠ chr ',')).tail

/-- What `nmea_tokenizer_init` cuts off: the initial `$`, the newline with a carriage return before it, and the
    checksum. -/
def trim (sentence : List Byte) : List Byte :=
  let s := if sentence.head? = some (chr '$') then sentence.tail else sentence
  let s :=
    if s.getLast? = some newline then
      if s.dropLast.getLast? = some (chr '\r') then s.dropLast.dropLast else s.dropLast
    else s
  if 3 ≤ s.length ∧ s[s.length - 3]? = some (chr '*') then s.take (s.length - 3) else s

/-- `nmea_tokenizer_init`. -/
def tokenizerInit (sentence : List Byte) : List Token :=
  (tokens (trim sentence).length (trim sentence)).take maxNmeaTokens

/-- `nmea_tokenizer_get`; past the last token it is the empty string `dummy`. -/
def tokenizerGet (tzer : List Token) (index : Nat) : Token := tzer[index]?.getD ⟨[], 0⟩

/-- The loop of `str2int`. -/
def str2intLoop (sign result : Int) : List Byte → Int
  | [] => int32 (sign * result)
  | c :: cs =>
    if 48 ≤ c.toNat ∧ c.toNat < 58 then str2intLoop sign (int32 (result * 10 + (c.toNat - 48))) cs else -1

def str2int (text : List Byte) : Int :=
  if text.head? = some (chr '-') then str2intLoop (-1) 0 text.tail else str2intLoop 1 0 text

/-! ## The C library -/

/-- A reading of the clock: the UTC date by `gmtime_r`, and how far UTC is from local time. -/
structure Clock where
  year : Int
  mon : Int
  day : Int
  utcDiff : Int
deriving DecidableEq

/-- `struct tm`, as far as it is filled in. -/
structure Tm where
  hour : Int
  min : Int
  sec : Int
  year : Int
  mon : Int
  mday : Int
deriving DecidableEq

/-- The `double` type with what the parser computes on it, `mktime`, and the clock: its n-th reading. -/
structure Libc (D : Type) where
  strtod : List Byte → D
  ofInt : Int → D
  toInt : D → Int
  floor : D → D
  neg : D → D
  add : D → D → D
  sub : D → D → D
  mul : D → D → D
  div : D → D → D
  knots : D
  mktime : Tm → Int
  clock : Nat → Clock

/-- The number a decimal text denotes, up to the first character that is not of it. -/
def decimal (text : List Byte) : Rat :=
  let isDigit := fun b : Byte => decide (48 ≤ b.toNat ∧ b.toNat < 58)
  let s := if text.head? = some (chr '-') then text.tail else text
  let int := s.takeWhile isDigit
  let tail := s.dropWhile isDigit
  let frac := if tail.head? = some (chr '.') then tail.tail.takeWhile isDigit else []
  let value := mkRat ((int ++ frac).foldl (fun n b => 10 * n + (b.toNat - 48)) 0) (10 ^ frac.length)
  if text.head? = some (chr '-') then -value else value

def utcSeconds (tm : Tm) : Int :=
  let mon := tm.mon + 1
  let y := if mon ≤ 2 then tm.year + 1899 else tm.year + 1900
  let yoe := y % 400
  let doy := (153 * (if 2 < mon then mon - 3 else mon + 9) + 2) / 5 + tm.mday - 1
  let days := y / 400 * 146097 + (yoe * 365 + yoe / 4 - yoe / 100 + doy) - 719468
  days * 86400 + tm.hour * 3600 + tm.min * 60 + tm.sec

/-- A library with exact arithmetic and a clock that stands still, for concrete runs. -/
def exactLibc : Libc Rat where
  strtod := decimal
  ofInt := fun x => x
  toInt := fun x => if x < 0 then -(-x).floor else x.floor
  floor := fun x => x.floor
  neg := fun x => -x
  add := fun x y => x + y
  sub := fun x y => x - y
  mul := fun x y => x * y
  div := fun x y => x / y
  knots := mkRat 1942795467 1000000000
  mktime := utcSeconds
  clock := fun _ => ⟨2016, 1, 1, 0⟩

variable {D : Type} (c : Libc D)

/-- `str2float`: what does not fit `temp` is 0. -/
def str2float (text : List Byte) : D := if 16 ≤ text.length then c.ofInt 0 else c.strtod text

variable (tok : Token)

def convertFromHhmm : D :=
  let val := str2float c tok.text
  let degrees := c.toInt (c.div (c.floor val) (c.ofInt 100))
  let minutes := c.sub val (c.mul (c.ofInt degrees) (c.ofInt 100))
  c.add (c.ofInt degrees) (c.div minutes (c.ofInt 60))

/-! ## The reader -/

/-- `gps_location`. -/
structure Fix (D : Type) where
  flags : BitVec 32
  lat : D
  lng : D
  alt : D
  speed : D
  bearing : D
  accuracy : D
  timestamp : Int
deriving DecidableEq

def hasLatLong : BitVec 32 := 0x01
def hasAltitude : BitVec 32 := 0x02
def hasSpeed : BitVec 32 := 0x04
def hasBearing : BitVec 32 := 0x08
def hasAccuracy : BitVec 32 := 0x10

/-- `SV_TYPE`, as far as a satellite gets one. -/
inductive SvType
  | gps
  | glonass
  | bds
  | galileo
deriving DecidableEq

/-- `gnss_sv`; a cleared one has no constellation. -/
structure GnssSv (D : Type) where
  svid : Int
  constellation : Option SvType
  cN0Dbhz : D
  elevation : D
  azimuth : D
  flags : Byte
deriving DecidableEq

/-- `GNSS_MAX_SVS`, the length of `sv_list`. -/
def gnssMaxSvs : Nat := 64

/-- `NMEA_MAX_SIZE`; `in` has one byte more. -/
def nmeaMaxSize : Nat := 255

def nmeaMaxSvInfo : Int := 4

/-- The length of `prn` and of `snr`. -/
def prnSize : Nat := 32

/-- What the reader has parsed, with the table `gnss_sv_used_in_fix`, which outlives it. -/
structure Content (D : Type) where
  utcYear : Int
  utcMon : Int
  utcDay : Int
  utcDiff : Int
  fix : Fix D
  fixMode : Int
  svCount : Int
  numSvs : Int
  svList : List (GnssSv D)
  usedInFix : Nat → Bool
  clockReads : Nat

/-- The line being read: `in` is `line` up to `pos`, and `stale` from there on. -/
structure Frame where
  line : List Byte
  stale : List Byte
  overflow : Bool
deriving DecidableEq

/-- `NmeaReader` with the static table. -/
structure NmeaReader (D : Type) where
  frame : Frame
  content : Content D

/-- The calls the parser makes, and its stores into `sv_list`, `num_svs`, `prn` and `snr`. -/
inductive Effect (D : Type)
  | mnl2halLocation (fix : Fix D)
  | mnldGpsUpdateLocation (fix : Fix D)
  | mnl2halGpsSv (numSvs : Int) (svList : List (GnssSv D))
  | mnl2halNmea (timestamp : Int) (nmea : List Byte) (length : Nat)
  | setSv (index : Int)
  | setNumSvs (numSvs : Int)
  | setPrn (index value : Int)
  | setSnr (index value : Int)
deriving DecidableEq

/-- A record after `memset`. -/
def zeroFix : Fix D := ⟨0, c.ofInt 0, c.ofInt 0, c.ofInt 0, c.ofInt 0, c.ofInt 0, c.ofInt 0, 0⟩

def zeroSv : GnssSv D := ⟨0, none, c.ofInt 0, c.ofInt 0, c.ofInt 0, 0⟩

/-- `nmea_reader_init`. -/
def readerInit (usedInFix : Nat → Bool) : NmeaReader D where
  frame := ⟨[], List.replicate (nmeaMaxSize + 1) 0, false⟩
  content :=
    { utcYear := -1, utcMon := -1, utcDay := -1, utcDiff := (c.clock 0).utcDiff
      fix := zeroFix c, fixMode := 0, svCount := 0, numSvs := 0
      svList := List.replicate gnssMaxSvs (zeroSv c), usedInFix := usedInFix, clockReads := 1 }

/-! ## The updates by one field each -/

/-- `nmea_reader_update_altitude`. -/
def updateAltitude (altitude : Token) (r : Content D) : Content D :=
  if altitude.text = [] then r
  else { r with fix := { r.fix with flags := r.fix.flags ||| hasAltitude, alt := str2float c altitude.text } }

/-- `nmea_reader_update_bearing`. -/
def updateBearing (bearing : Token) (r : Content D) : Content D :=
  if bearing.text = [] then r
  else { r with fix := { r.fix with flags := r.fix.flags ||| hasBearing, bearing := str2float c bearing.text } }

/-- `nmea_reader_update_speed`, from knots to m/s. -/
def updateSpeed (speed : Token) (r : Content D) : Content D :=
  if speed.text = [] then r
  else { r with fix := { r.fix with
    flags := r.fix.flags ||| hasSpeed, speed := c.div (str2float c speed.text) c.knots } }

/-- `nmea_reader_update_accuracy`. -/
def updateAccuracy (accuracy : Token) (r : Content D) : Content D :=
  if accuracy.text = [] then r
  else { r with fix := { r.fix with
    flags := r.fix.flags ||| hasAccuracy, accuracy := str2float c accuracy.text } }

/-- `nmea_reader_update_latlong`. -/
def updateLatlong (latitude : Token) (latitudeHemi : Byte) (longitude : Token) (longitudeHemi : Byte)
    (r : Content D) : Content D :=
  if latitude.text.length < 6 ∨ longitude.text.length < 6 then r
  else
    let lat := convertFromHhmm c latitude
    let lng := convertFromHhmm c longitude
    { r with fix := { r.fix with
      flags := r.fix.flags ||| hasLatLong
      lat := if latitudeHemi = chr 'S' then c.neg lat else lat
      lng := if longitudeHemi = chr 'W' then c.neg lng else lng } }

variable (tzer : List Token) (r : Content D) (svType : SvType) (endTag : Bool)

/-- `nmea_reader_update_time`: without a date yet it is the clock's. -/
def updateTime : Content D :=
  if tok.text.length < 6 then r
  else
    let now := c.clock r.clockReads
    let r :=
      if r.utcYear < 0 then { r with utcYear := now.year, utcMon := now.mon, utcDay := now.day } else r
    let tm : Tm :=
      { hour := str2int (tok.text.take 2)
        min := str2int ((tok.text.drop 2).take 2)
        sec := c.toInt (str2float c (tok.text.drop 4))
        year := r.utcYear - 1900
        mon := r.utcMon - 1
        mday := r.utcDay }
    { r with
      utcDiff := now.utcDiff
      clockReads := r.clockReads + 1
      fix := { r.fix with timestamp := (c.mktime tm - now.utcDiff) * 1000 } }

/-- `nmea_reader_update_date`; `(day|mon|year) < 0` says that one of the three is negative. -/
def updateDate (date time : Token) (r : Content D) : Content D :=
  if date.text.length ≠ 6 then r
  else
    let day := str2int (date.text.take 2)
    let mon := str2int ((date.text.drop 2).take 2)
    let year := str2int (date.text.drop 4) + 2000
    if day < 0 ∨ mon < 0 ∨ year < 0 then r
    else updateTime c time { r with utcYear := year, utcMon := mon, utcDay := day }

/-! ## Satellites -/

/-- The ids `nmea_reader_update_sv_status` tells apart, with the id and the constellation it stores. -/
def constellationOf (prn : Int) : Option (Int × SvType) :=
  if 0 < prn ∧ prn < 32 then some (prn, .gps)
  else if 65 ≤ prn ∧ prn ≤ 96 then some (prn - 64, .glonass)
  else if 201 ≤ prn ∧ prn ≤ 237 then some (prn - 200, .bds)
  else if 401 ≤ prn ∧ prn ≤ 436 then some (prn - 400, .galileo)
  else none

/-- `l[i] = f(l[i])`; outside the list nothing that is modelled changes. -/
def modifyAt {α : Type} (l : List α) (i : Int) (f : α → α) : List α :=
  if 0 ≤ i then l.modify i.toNat f else l

/-- The entry of `sv_list` that `nmea_reader_update_sv_status` writes; of the old one it keeps the other flags. -/
def storeSv (svid : Int) (constellation : SvType) (used : Bool) (elevation azimuth snr : Token) (sv : GnssSv D) :
    GnssSv D :=
  { svid := svid
    constellation := some constellation
    cN0Dbhz := str2float c snr.text
    elevation := c.ofInt (str2int elevation.text)
    azimuth := c.ofInt (str2int azimuth.text)
    flags := if used then sv.flags ||| 0x04 else sv.flags &&& 0xFB }

/-- `nmea_reader_update_sv_status`; the index passed in is not used. -/
def updateSvStatus (prn : Int) (elevation azimuth snr : Token) (r : Content D) : Content D × List (Effect D) :=
  let svIndex := int32 (r.svCount + r.numSvs)
  if (gnssMaxSvs : Int) ≤ svIndex then (r, [])
  else
    match constellationOf prn with
    | none => (r, [])
    | some (svid, constellation) =>
      ({ r with
        svList := modifyAt r.svList svIndex
          (storeSv c svid constellation (r.usedInFix prn.toNat) elevation azimuth snr)
        svCount := int32 (r.svCount + 1) },
       [.setSv svIndex])

theorem updateSvStatus_cases (prn : Int) (elevation azimuth snr : Token) (r : Content D) :
    updateSvStatus c prn elevation azimuth snr r = (r, []) ∨
    ∃ svid constellation, constellationOf prn = some (svid, constellation) ∧
      int32 (r.svCount + r.numSvs) < gnssMaxSvs ∧
      updateSvStatus c prn elevation azimuth snr r =
        ({ r with
          svList := modifyAt r.svList (int32 (r.svCount + r.numSvs))
            (storeSv c svid constellation (r.usedInFix prn.toNat) elevation azimuth snr)
          svCount := int32 (r.svCount + 1) },
         [.setSv (int32 (r.svCount + r.numSvs))]) := by
  unfold updateSvStatus
  by_cases hfull : (gnssMaxSvs : Int) ≤ int32 (r.svCount + r.numSvs)
  · exact .inl (by simp [hfull])
  · cases hprn : constellationOf prn with
    | none => exact .inl (by simp)
    | some sv => exact .inr ⟨sv.1, sv.2, rfl, by omega, by simp [hfull]⟩

/-- The two characters before the sentence id, "for GPS,GLONASS,BDS , GALILEO SV parse". -/
def svTypeOf (talker : List Byte) : SvType :=
  if talker = [chr 'B', chr 'D'] then .bds
  else if talker = [chr 'G', chr 'P'] then .gps
  else if talker = [chr 'G', chr 'L'] then .glonass
  else if talker = [chr 'G', chr 'A'] then .galileo
  else .gps

/-- BDS and GALILEO ids are moved out of the range of the GPS ids. -/
def satelliteId (id : Int) : Int :=
  match svType with
  | .bds => int32 (id + 200)
  | .galileo => int32 (id + 400)
  | .gps | .glonass => id

/-- One pass of the loop over the satellites of a GSV sentence. -/
def gsvSatellite (tzer : List Token) (r : Content D) (idx : Nat) : Content D × List (Effect D) :=
  let base := 4 * (idx + 1)
  let id := str2int (tokenizerGet tzer base).text
  let snr := tokenizerGet tzer (base + 3)
  let u := updateSvStatus c (satelliteId svType id) (tokenizerGet tzer (base + 1)) (tokenizerGet tzer (base + 2))
    snr r
  (u.1, [.setPrn r.svCount id, .setSnr r.svCount (c.toInt (str2float c snr.text))] ++ u.2)

/-- The header of a GSV sentence: the number of sentences, the number of this one, the satellites in view. -/
structure GsvHeader where
  num : Int
  seq : Int
  cnt : Int
deriving DecidableEq

def gsvHeader : GsvHeader :=
  ⟨str2int (tokenizerGet tzer 1).text, str2int (tokenizerGet tzer 2).text, str2int (tokenizerGet tzer 3).text⟩

/-- `sv_num`: how many satellites the loop takes from the sentence. -/
def GsvHeader.svNum (h : GsvHeader) : Nat :=
  (min (int32 (h.cnt - int32 (int32 (h.seq - 1) * nmeaMaxSvInfo))) nmeaMaxSvInfo).toNat

/-- The end of a group: its satellites are added to the list, or everything is dropped. -/
def gsvClose (h : GsvHeader) (r : Content D) : Content D × List (Effect D) :=
  if h.seq = h.num then
    if r.svCount ≤ h.cnt then
      ({ r with numSvs := int32 (r.numSvs + r.svCount) }, [.setNumSvs (int32 (r.numSvs + r.svCount))])
    else ({ r with svCount := 0, numSvs := 0 }, [.setNumSvs 0])
  else (r, [])

/-- "if sequence number is 1, a new set of GSV will be parsed". -/
def gsvOpen (h : GsvHeader) (r : Content D) : Content D :=
  if h.seq = 1 then { r with svCount := 0 } else r

/-- The GSV branch of `nmea_reader_parse`. -/
def parseGsv (tzer : List Token) (r : Content D) : Content D × List (Effect D) :=
  let h := gsvHeader tzer
  let s := feed (gsvSatellite c svType tzer) (gsvOpen h r) (List.range h.svNum)
  ((gsvClose h s.1).1, s.2 ++ (gsvClose h s.1).2)

def Content.locFixed : Bool := r.fixMode == 2 || r.fixMode == 3

/-- The satellites of a GSA sentence: up to the first empty token, twelve at most. -/
def gsaSatellites (tzer : List Token) : List Int :=
  (((List.range 12).map fun idx => tokenizerGet tzer (idx + 3)).takeWhile (·.text ≠ [])).map fun tok =>
    satelliteId svType (str2int tok.text)

/-- The length of `gnss_sv_used_in_fix`. -/
def usedInFixSize : Int := 450

/-- `gnss_sv_used_in_fix[sate_id].used_in_fix = 1`, where the table has the id. -/
def markUsed (used : Nat → Bool) (id : Int) : Nat → Bool :=
  if 0 ≤ id ∧ id < usedInFixSize then fun i => i == id.toNat || used i else used

def parseGsa (tzer : List Token) (r : Content D) : Content D :=
  let r := { r with fixMode := str2int (tokenizerGet tzer 2).text }
  if r.locFixed then { r with usedInFix := (gsaSatellites svType tzer).foldl markUsed r.usedInFix } else r

def parseGga : Content D :=
  let get := tokenizerGet tzer
  updateAltitude c (get 9)
    (updateLatlong c (get 2) (get 3).head (get 4) (get 5).head (updateTime c (get 1) r))

def parseRmc : Content D :=
  let get := tokenizerGet tzer
  if (get 2).head = chr 'A' then
    updateSpeed c (get 7) (updateBearing c (get 8)
      (updateLatlong c (get 3) (get 4).head (get 5) (get 6).head (updateDate c (get 9) (get 1) r)))
  else r

/-! ## The fields of the fix and those of the satellites

GGA and RMC sentences and the accuracy neither read nor write what is known of the satellites. It is said once, of
each update, as commutation with a replacement of the satellite fields. -/

structure Sats (D : Type) where
  svCount : Int
  numSvs : Int
  svList : List (GnssSv D)
  usedInFix : Nat → Bool

def Content.sats : Sats D := ⟨r.svCount, r.numSvs, r.svList, r.usedInFix⟩

def Content.withSats (s : Sats D) : Content D :=
  { r with svCount := s.svCount, numSvs := s.numSvs, svList := s.svList, usedInFix := s.usedInFix }

/-- `f` has nothing to do with the satellites. -/
def Detached (f : Content D → Content D) : Prop := ∀ r s, f (r.withSats s) = (f r).withSats s

theorem Detached.comp {f g : Content D → Content D} (hf : Detached f) (hg : Detached g) :
    Detached (fun r => f (g r)) := by
  intro r s
  show f (g (r.withSats s)) = _
  rw [hg r s, hf]

theorem Detached.sats_eq {f : Content D → Content D} (hf : Detached f) (r : Content D) : (f r).sats = r.sats := by
  have heq : f r = (f r).withSats r.sats := hf r r.sats
  rw [heq]
  rfl

theorem detached_updateAltitude : Detached (updateAltitude c tok) := by
  intro r s
  unfold updateAltitude
  split <;> rfl

theorem detached_updateBearing : Detached (updateBearing c tok) := by
  intro r s
  unfold updateBearing
  split <;> rfl

theorem detached_updateSpeed : Detached (updateSpeed c tok) := by
  intro r s
  unfold updateSpeed
  split <;> rfl

theorem detached_updateAccuracy : Detached (updateAccuracy c tok) := by
  intro r s
  unfold updateAccuracy
  split <;> rfl

theorem detached_updateLatlong (lat : Token) (latHemi : Byte) (lng : Token) (lngHemi : Byte) :
    Detached (updateLatlong c lat latHemi lng lngHemi) := by
  intro r s
  unfold updateLatlong
  split <;> rfl

theorem detached_updateTime : Detached (updateTime c tok) := by
  intro r s
  by_cases hlen : tok.text.length < 6 <;> by_cases hyear : r.utcYear < 0 <;>
    simp [updateTime, hlen, hyear, Content.withSats]

theorem detached_updateDate (date time : Token) : Detached (updateDate c date time) := by
  intro r s
  unfold updateDate
  split
  · rfl
  · dsimp only
    split
    · rfl
    · -- the date fields are set before the time is
      exact detached_updateTime c time
        { r with
          utcYear := str2int (date.text.drop 4) + 2000
          utcMon := str2int ((date.text.drop 2).take 2)
          utcDay := str2int (date.text.take 2) } s

theorem detached_parseGga : Detached (parseGga c tzer) :=
  (detached_updateAltitude c _).comp ((detached_updateLatlong c _ _ _ _).comp (detached_updateTime c _))

theorem detached_parseRmc : Detached (parseRmc c tzer) := by
  intro r s
  unfold parseRmc
  dsimp only
  split
  · exact (detached_updateSpeed c _).comp ((detached_updateBearing c _).comp
      ((detached_updateLatlong c _ _ _ _).comp (detached_updateDate c _ _))) r s
  · rfl

theorem detached_accuracy :
    Detached (fun r => if r.locFixed then updateAccuracy c (tokenizerGet tzer 1) r else r) := by
  intro r s
  show (if r.locFixed = true then _ else _) = (if r.locFixed = true then _ else _ : Content D).withSats s
  split
  · exact detached_updateAccuracy c _ r s
  · rfl

/-! ## Sentences -/

/-- The sentences `nmea_reader_parse` knows. -/
inductive SentenceId
  | gga
  | gsa
  | rmc
  | gsv
  | accuracy
  | unknown
deriving DecidableEq

/-- The comparisons with `memcmp`, after the two characters of the talker. -/
def sentenceId : SentenceId :=
  let id := tok.text.drop 2
  if id.take 3 = [chr 'G', chr 'G', chr 'A'] then .gga
  else if id.take 3 = [chr 'G', chr 'S', chr 'A'] then .gsa
  else if id.take 3 = [chr 'R', chr 'M', chr 'C'] then .rmc
  else if id.take 3 = [chr 'G', chr 'S', chr 'V'] then .gsv
  else if id.take 8 = [chr 'A', chr 'C', chr 'C', chr 'U', chr 'R', chr 'A', chr 'C', chr 'Y'] then .accuracy
  else .unknown

/-- The branches of `nmea_reader_parse`. -/
def dispatch : Content D × List (Effect D) :=
  let tok := tokenizerGet tzer 0
  let svType := svTypeOf (tok.text.take 2)
  match sentenceId tok with
  | .gga => (parseGga c tzer r, [])
  | .gsa => (parseGsa svType tzer r, [])
  | .rmc => (parseRmc c tzer r, [])
  | .gsv => parseGsv c svType tzer r
  | .accuracy => (if r.locFixed then updateAccuracy c (tokenizerGet tzer 1) r else r, [])
  | .unknown => (r, [])

theorem dispatch_gsv {tzer : List Token} (h : sentenceId (tokenizerGet tzer 0) = .gsv) (r : Content D) :
    dispatch c tzer r = parseGsv c (svTypeOf ((tokenizerGet tzer 0).text.take 2)) tzer r := by
  simp [dispatch, h]

theorem dispatch_effects {tzer : List Token} (h : sentenceId (tokenizerGet tzer 0) ≠ .gsv) (r : Content D) :
    (dispatch c tzer r).2 = [] := by
  cases hid : sentenceId (tokenizerGet tzer 0) with
  | gsv => exact absurd hid h
  | gga | gsa | rmc | accuracy | unknown => simp [dispatch, hid]

def Effect.isStore : Effect D → Bool
  | .setSv _ | .setNumSvs _ | .setPrn _ _ | .setSnr _ _ => true
  | _ => false

theorem isStore_updateSvStatus (prn : Int) (elevation azimuth snr : Token) (r : Content D) :
    ∀ e ∈ (updateSvStatus c prn elevation azimuth snr r).2, e.isStore = true := by
  intro e he
  rcases updateSvStatus_cases c prn elevation azimuth snr r with h | ⟨_, _, -, -, h⟩
  · simp [h] at he
  · rw [h] at he
    obtain rfl : e = _ := by simpa using he
    rfl

theorem isStore_gsvClose (h : GsvHeader) (r : Content D) : ∀ e ∈ (gsvClose h r).2, e.isStore = true := by
  intro e he
  unfold gsvClose at he
  split at he
  · split at he
    · obtain rfl : e = _ := by simpa using he
      rfl
    · obtain rfl : e = _ := by simpa using he
      rfl
  · simp at he

theorem isStore_parseGsv (tzer : List Token) (r : Content D) :
    ∀ e ∈ (parseGsv c svType tzer r).2, e.isStore = true := by
  intro e he
  rcases List.mem_append.mp he with he | he
  · refine (feed_invariant (I := fun _ => True) (O := fun e => e.isStore = true) (A := fun _ => True)
      (fun r idx _ _ => ⟨trivial, ?_⟩) trivial (fun _ _ => trivial)).2 e he
    intro e he
    rcases List.mem_append.mp he with he | he
    · rcases (by simpa using he : e = _ ∨ e = _) with rfl | rfl <;> rfl
    · exact isStore_updateSvStatus c _ _ _ _ _ e he
  · exact isStore_gsvClose _ _ e he

theorem isStore_dispatch : ∀ e ∈ (dispatch c tzer r).2, e.isStore = true := by
  by_cases hgsv : sentenceId (tokenizerGet tzer 0) = .gsv
  · rw [dispatch_gsv c hgsv]
    exact isStore_parseGsv c _ _ _
  · simp [dispatch_effects c hgsv]

/-- The location report at the end of `nmea_reader_parse`. -/
def flushLocation (r : Content D) : Content D × List (Effect D) :=
  if r.locFixed && r.fix.flags != 0 && endTag then
    ({ r with fix := { r.fix with flags := 0 } }, [.mnl2halLocation r.fix, .mnldGpsUpdateLocation r.fix])
  else (r, [])

/-- The satellite report. -/
def flushSvs (r : Content D) : Content D × List (Effect D) :=
  if r.numSvs != 0 && endTag then
    if 0 < r.numSvs then
      ({ r with svCount := 0, numSvs := 0, usedInFix := fun _ => false },
       [.mnl2halGpsSv r.numSvs r.svList, .setNumSvs 0])
    else (r, [])
  else (r, [])

def flush (r : Content D) : Content D × List (Effect D) :=
  ((flushSvs endTag (flushLocation endTag r).1).1,
   (flushLocation endTag r).2 ++ (flushSvs endTag (flushLocation endTag r).1).2)

/-- `nmea_reader_parse` reads the sentence to its end: it is long enough, and so is its id. -/
def Readable (sentence : List Byte) : Prop :=
  9 ≤ sentence.length ∧ 5 ≤ (tokenizerGet (tokenizerInit sentence) 0).text.length
  deriving Decidable

/-- `nmea_reader_parse`; `endTag` is `gps_nmea_end_tag`. -/
def parse (r : Content D) (sentence : List Byte) : Content D × List (Effect D) :=
  if Readable sentence then
    let d := dispatch c (tokenizerInit sentence) r
    ((flush endTag d.1).1, d.2 ++ (flush endTag d.1).2)
  else (r, [])

theorem parse_readable {s : List Byte} (h : Readable s) (endTag : Bool) (r : Content D) :
    parse c endTag r s =
      ((flush endTag (dispatch c (tokenizerInit s) r).1).1,
       (dispatch c (tokenizerInit s) r).2 ++ (flush endTag (dispatch c (tokenizerInit s) r).1).2) := if_pos h

theorem parse_discarded {s : List Byte} (h : ¬ Readable s) (endTag : Bool) (r : Content D) :
    parse c endTag r s = (r, []) := if_neg h

/-! ## Bytes -/

/-- `in[pos] = c; pos += 1`. -/
def Frame.push (f : Frame) (b : Byte) : Frame := { f with line := f.line ++ [b], stale := f.stale.drop 1 }

/-- `pos = 0`. -/
def Frame.rewind (f : Frame) : Frame := { f with line := [], stale := f.line ++ f.stale }

/-- `nmea_reader_addc`. -/
def addc (r : NmeaReader D) (b : Byte) : NmeaReader D × List (Effect D) :=
  if r.frame.overflow then ({ r with frame := { r.frame with overflow := b != newline } }, [])
  else if nmeaMaxSize ≤ r.frame.line.length then
    ({ r with frame := { r.frame.rewind with overflow := true } }, [])
  else
    let f := r.frame.push b
    if b = newline then
      let p := parse c endTag r.content f.line
      (⟨f.rewind, p.1⟩, p.2 ++ [.mnl2halNmea p.1.fix.timestamp (f.line ++ f.stale) f.line.length])
    else ({ r with frame := f }, [])

/-- `mtk_mnl_nmea_parser_process`: a reader of its own, and `gps_nmea_end_tag` set for the last byte. -/
def process (usedInFix : Nat → Bool) (buffer : List Byte) : NmeaReader D × List (Effect D) :=
  match buffer.getLast? with
  | none => (readerInit c usedInFix, [])
  | some b =>
    let r := feed (addc c false) (readerInit c usedInFix) buffer.dropLast
    ((addc c true r.1 b).1, r.2 ++ (addc c true r.1 b).2)

end HuaweiY5.Nmea
