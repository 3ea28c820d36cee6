import HuaweiY5.Fm.Tuner

/-!
# `Fm.Core` — the frequency in `fmr_data`: power up, tune, seek, AF and TA switches

The driver takes frequencies in units of 100 kHz, and so do the lists of alternative frequencies; the tuner interface
counts in kHz. `fmr_data.cur_freq` is a 16 bit field that all of them write. A seek runs on the callback thread and
looks at `scan_stop` before each channel, which `FMR_stop_scan` may set at any time; everything else is one step.
-/

namespace HuaweiY5.Fm

/-- `RDS_EVENT_AF`, `RDS_EVENT_TAON` and `RDS_EVENT_TAON_OFF` of the event status. -/
structure RdsEvents where
  af : Bool
  taOn : Bool
  taOnOff : Bool
  deriving DecidableEq

/-- `AF_Info`: the number of alternative frequencies and their table, in 100 kHz. -/
structure AfInfo where
  afNum : Int
  af : List UInt16
  deriving DecidableEq

/-- The frequencies the loops look at: no more than the table holds. -/
def AfInfo.listed (info : AfInfo) : List UInt16 := info.af.take (if info.afNum > 25 then 25 else info.afNum).toNat

/-- `RDSData_Struct`, as far as the switches read it. -/
structure RdsData where
  eventStatus : RdsEvents
  afData : AfInfo
  afonData : AfInfo
  deriving DecidableEq

/-- What `FM_IOCTL_GETCURPAMD` answers: first, and for each frequency of the list. -/
structure Pamd where
  current : UInt16
  level : Nat → UInt16

structure FakeChannel where
  freq : Int
  rssiTh : Int
  deriving DecidableEq

/-- What the driver answers to a soft mute tune and to a desense check; `tuneOk` is its answer to the tune with which a
    stopped seek ends. -/
structure CheckAnswers where
  softMuteOk : Bool
  valid : Bool
  rssi : Int
  desense : Int
  tuneOk : Bool
  deriving DecidableEq

/-- `fm_softmute_tune_t` of a channel found valid. -/
structure Found where
  freq : UInt32
  rssi : Int
  deriving DecidableEq

/-- What a seek is given: its direction, its space, the limits of the band and the channel reported when it fails. -/
structure SeekParm where
  dir : UInt32
  space : UInt32
  minFreq : UInt32
  maxFreq : UInt32
  channel : UInt32
  deriving DecidableEq

/-- Where a seek is: at the first of the channels left, or at the `i`th of the two looked at behind a valid one. -/
inductive Seek
  | idle
  | scan (p : SeekParm) (freq : UInt32) (rest : List UInt32)
  | more (p : SeekParm) (i : Nat) (freq : UInt32) (best : Found)
  deriving DecidableEq

/-- `fmr_data`, with the seek under way. -/
structure FmrData where
  curFreq : UInt16
  backupFreq : UInt16
  scanStop : Bool
  fakeChan : List FakeChannel
  seek : Seek
  tuned : Option UInt16

/-- What a step shows: `FMR_tune` of a frequency in kHz with the frequency the driver was given and its answer, the
    original frequency an AF switch is given, and what a seek returns. -/
inductive CoreEffect
  | tune (freq : UInt32) (request : UInt16) (ok : Bool)
  | original (freq : UInt16)
  | sought (ret : Int) (channel : UInt32)
  deriving DecidableEq

namespace Core

/-! ## Tuning -/

/-- `FMR_pwr_up`: the chip powers up at 98 MHz. -/
def fmrPwrUp (ok : Bool) (s : FmrData) : FmrData := { s with curFreq := 980, tuned := if ok then some 980 else none }

def fmrTune (freq : UInt32) (ok : Bool) (s : FmrData) : FmrData × List CoreEffect :=
  let request := (freq / 100).toUInt16
  ({ s with curFreq := freq.toUInt16, tuned := if ok then some request else s.tuned }, [.tune freq request ok])

/-! ## Seeking -/

/-- `FMR_SevereDensense`: the first entry of the channel decides. -/
def severeDensense (channelNo : UInt32) (rssi : Int) : List FakeChannel → Bool
  | [] => false
  | c :: cs => if ((channelNo / 100).toNat : Int) = c.freq then rssi < c.rssiTh else severeDensense channelNo rssi cs

/-- `FMR_Seek_TuneCheck`: nothing if the seek is to stop, else whether the channel is valid. -/
def seekTuneCheck (a : CheckAnswers) (freq : UInt32) (s : FmrData) : FmrData × Option Bool × List CoreEffect :=
  if s.scanStop then
    let r := fmrTune s.curFreq.toUInt32 a.tuneOk s
    (r.1, none, r.2)
  else if !a.softMuteOk then (s, some false, [])
  -- `FMR_DensenseDetect` looks at the low byte of what the driver answers
  else if a.valid && (a.desense % 256 == 1 || severeDensense freq a.rssi s.fakeChan) then (s, some false, [])
  else (s, some a.valid, [])

def finish (ret : Int) (channel : UInt32) (s : FmrData) : FmrData × List CoreEffect :=
  ({ s with seek := .idle }, [.sought ret channel])

variable (rds : RdsData) (p : SeekParm) (pamd : Pamd)

/-- The next channel `FMR_Seek_More` looks at, if it is in the band; its `seek_dir` and its `step` are bytes. -/
def moreFreq (freq : UInt32) : Option UInt32 :=
  let step := p.space.toUInt8.toUInt32
  if p.dir.toUInt8 = 0 then
    if freq + step > p.maxFreq then none else some (freq + step)
  else
    if freq - step < p.minFreq then none else some (freq - step)

/-- The loop of `FMR_Seek_More`, at its `i`th round. -/
def seekMore (i : Nat) (freq : UInt32) (best : Found) (s : FmrData) : FmrData × List CoreEffect :=
  if i < 2 then
    match moreFreq p freq with
    | some next => ({ s with seek := .more p i next best }, [])
    | none => finish 0 best.freq s
  else finish 0 best.freq s

/-- The next channel of a seek; without one no valid channel was found. -/
def seekNext (rest : List UInt32) (s : FmrData) : FmrData × List CoreEffect :=
  match rest with
  | freq :: rest => ({ s with seek := .scan p freq rest }, [])
  | [] => finish (-1) p.channel s

/-- `for (i = lo; i < hi; i++)`. -/
def countUp (lo hi : Int) : List Int := (List.range (hi - lo).toNat).map fun k : Nat => lo + k

/-- `for (i = hi; i >= lo; i--)`. -/
def countDown (hi lo : Int) : List Int := (List.range (hi - lo + 1).toNat).map fun k : Nat => hi - k

/-- `(int)`. -/
def toInt (n : UInt32) : Int := n.toInt32.toInt

/-- The channels of the loops of `FMR_seek`, in order. -/
def channels (startFreq bandChannelNo : UInt32) : List UInt32 :=
  let start := (startFreq - p.minFreq) / p.space
  let numbers :=
    if p.dir = 0 then countUp (toInt (start + 1)) (toInt bandChannelNo) ++ countUp 0 (toInt start)
    else countDown (toInt (start - 1)) 0 ++ countDown (toInt (bandChannelNo - 1)) (toInt start + 1)
  numbers.map fun i => p.minFreq + p.space * UInt32.ofInt i

/-- `FMR_seek`, to its first channel; the band's spacing is not zero. -/
def fmrSeek (config : BandConfig) (startFreq dir : UInt32) (s : FmrData) : FmrData × List CoreEffect :=
  let startFreq := if config.Within startFreq then startFreq else config.lowerLimit
  let space := config.spacings.headD 0
  let p : SeekParm := ⟨dir, space, config.lowerLimit, config.upperLimit, startFreq⟩
  let bandChannelNo := (config.upperLimit - config.lowerLimit) / space + 1
  if bandChannelNo ≤ 0 then (s, [.sought (-1) startFreq])
  else seekNext p (channels p startFreq bandChannelNo) { s with scanStop := false }

/-- A round of the seek under way: the channel at hand is checked. -/
def check (a : CheckAnswers) (s : FmrData) : FmrData × List CoreEffect :=
  match s.seek with
  | .idle => (s, [])
  | .scan p freq rest =>
    let r := seekTuneCheck a freq s
    let next := match r.2.1 with
      | none => finish (-1) p.channel r.1
      | some false => seekNext p rest r.1
      | some true => seekMore p 0 freq ⟨freq, a.rssi⟩ r.1
    (next.1, r.2.2 ++ next.2)
  | .more p i freq best =>
    let r := seekTuneCheck a freq s
    let next := match r.2.1 with
      | none => finish (-1) p.channel r.1
      | some valid =>
        seekMore p (i + 1) freq (if valid && best.rssi < a.rssi then ⟨freq, a.rssi⟩ else best) r.1
    (next.1, r.2.2 ++ next.2)

/-! ## The switches -/

/-- What a switch returns: its status, the frequency it reports and the frequencies it tuned the driver to. -/
structure Switch where
  ret : Int
  retFreq : UInt16
  requests : List UInt16
  deriving DecidableEq

/-- The loop over the alternative frequencies; `probe` is the frequency tuned to for the level of `setFreq`. -/
def sweep (probe : (swFreq setFreq : UInt16) → UInt16) (orgFreq : UInt16) (level : Nat → UInt16) :
    Nat → List UInt16 → (pamd swFreq : UInt16) → List UInt16 × UInt16 × UInt16
  | _, [], pamd, swFreq => ([], pamd, swFreq)
  | i, setFreq :: rest, pamd, swFreq =>
    if setFreq = orgFreq then sweep probe orgFreq level (i + 1) rest pamd swFreq
    else
      let r :=
        if level i > pamd then sweep probe orgFreq level (i + 1) rest (level i) setFreq
        else sweep probe orgFreq level (i + 1) rest pamd swFreq
      (probe swFreq setFreq :: r.1, r.2)

/-- `-ERR_RDS_NO_DATA`. -/
def errRdsNoData : Int := -1013

def comActiveAf (curFreq : UInt16) : Switch :=
  if !rds.eventStatus.af then ⟨errRdsNoData, 0, []⟩
  else if pamd.current < 8 then
    let r := sweep (fun _ setFreq => setFreq) curFreq pamd.level 0 rds.afData.listed pamd.current curFreq
    let freq := if r.2.1 > 12 ∧ r.2.2 ≠ 0 then r.2.2 else curFreq
    ⟨0, freq, r.1 ++ [freq]⟩
  else ⟨0, curFreq, []⟩

/-- `COM_active_ta`, which measures at `sw_freq`; the second component is what it writes to `backup_freq`. -/
def comActiveTa (curFreq : UInt16) : Switch × Option UInt16 :=
  if rds.eventStatus.taOn then
    let r := sweep (fun swFreq _ => swFreq) curFreq pamd.level 0 rds.afonData.listed pamd.current curFreq
    let freq := if r.2.1 > 21 ∧ r.2.2 ≠ 0 then r.2.2 else curFreq
    (⟨0, freq, r.1 ++ [freq]⟩, some curFreq)
  else (⟨0, curFreq, []⟩, none)

def comDeactiveTa (curFreq backupFreq : UInt16) : Switch :=
  if rds.eventStatus.taOnOff then ⟨0, backupFreq, [backupFreq]⟩ else ⟨0, curFreq, []⟩

/-- The end of `FMR_active_af`, `FMR_active_ta` and `FMR_deactive_ta`. -/
def switched (r : Switch) (s : FmrData) : FmrData :=
  let s := { s with tuned := r.requests.getLast?.or s.tuned }
  if r.ret = 0 ∧ r.retFreq ≠ s.curFreq then { s with curFreq := r.retFreq } else s

/-- `FMR_active_af`. -/
def activeAf (s : FmrData) : FmrData × List CoreEffect :=
  (switched (comActiveAf rds pamd s.curFreq) s, [.original s.curFreq])

/-- `FMR_active_ta`. -/
def activeTa (s : FmrData) : FmrData :=
  let r := comActiveTa rds pamd s.curFreq
  switched r.1 { s with backupFreq := r.2.getD s.backupFreq }

/-- `FMR_deactive_ta`. -/
def deactiveTa (s : FmrData) : FmrData := switched (comDeactiveTa rds s.curFreq s.backupFreq) s

/-! ## All calls -/

/-- `fmr_data` after `FMR_init`. -/
def init (fakeChan : List FakeChannel) : FmrData := ⟨0, 0, false, fakeChan, .idle, none⟩

end Core

/-- A step: a call, a round of the seek under way, or the stop of a seek. -/
inductive CoreMove
  | pwrUp (ok : Bool)
  | tune (freq : UInt32) (ok : Bool)
  | preSearch
  | seek (config : BandConfig) (startFreq dir : UInt32)
  | check (a : CheckAnswers)
  | stopScan
  | activeAf (rds : RdsData) (pamd : Pamd)
  | activeTa (rds : RdsData) (pamd : Pamd)
  | deactiveTa (rds : RdsData)

namespace Core

def step (s : FmrData) : CoreMove → FmrData × List CoreEffect
  | .pwrUp ok => (fmrPwrUp ok s, [])
  | .tune freq ok => fmrTune freq ok s
  | .preSearch => ({ s with scanStop := false }, [])
  | .seek config startFreq dir => fmrSeek config startFreq dir s
  | .check a => check a s
  | .stopScan => ({ s with scanStop := true }, [])
  | .activeAf rds pamd => activeAf rds pamd s
  | .activeTa rds pamd => (activeTa rds pamd s, [])
  | .deactiveTa rds => (deactiveTa rds s, [])

/-- A call of the callback thread comes when no seek is under way; a tune is to a frequency of the band, in kHz. -/
def Enabled (s : FmrData) : CoreMove → Prop
  | .tune freq _ => s.seek = .idle ∧ 87500 ≤ freq ∧ freq ≤ 108000
  | .check _ => s.seek ≠ .idle
  | .stopScan => True
  | _ => s.seek = .idle

def machine (fakeChan : List FakeChannel) : Transducer FmrData CoreMove CoreEffect where
  init := init fakeChan
  enabled := Enabled
  step := step

instance instDecidableMachineEnabled (fakeChan : List FakeChannel) (s : FmrData) :
    (move : CoreMove) → Decidable ((machine fakeChan).enabled s move)
  | .tune _ _ => inferInstanceAs (Decidable (_ ∧ _))
  | .check _ => inferInstanceAs (Decidable (_ ≠ _))
  | .stopScan => isTrue trivial
  | .pwrUp _ | .preSearch | .seek _ _ _ | .activeAf _ _ | .activeTa _ _ | .deactiveTa _ =>
    inferInstanceAs (Decidable (_ = _))

end Core

end HuaweiY5.Fm
