import HuaweiY5.Sensors.SharedSensor

/-!
# `Sensors.Hwmsen` — the driver of the old architecture (Hwmsen.cpp)

One input device announces data of up to six sensors; at an `EV_SYN` the driver fetches the records with an
ioctl, marks their sensors pending and hands the pending ones on. The pending events and mask are indexed by
the driver's own numbering; the mask of active sensors by handle. The two agree except for proximity, whose
index is 5 and whose handle is 7.
-/

namespace HuaweiY5.Sensors

structure Hwmsen where
  mActiveSensors : BitVec 32
  mEnabled : Bool
  mInputReader : InputEventCircularReader
  mHasPendingEvent : Bool
  mDelays : Nat → Int
  mPendingMask : BitVec 32
  mHwmLastTs : Nat → Int
  dataType : BitVec 64
  mPendingEvents : Nat → SensorsEvent

namespace Hwmsen

def indexHandle : Nat → Int
  | 5 => idProximity
  | i => i

def indexType (i : Nat) : Int := indexHandle i + 1

/-- The index of a handle, if it is one of this driver's. -/
def handleIndex (handle : Int) : Option Nat :=
  if handle = idAccelerometer then some 0
  else if handle = idMagnetic then some 1
  else if handle = idOrientation then some 2
  else if handle = idGyroscope then some 3
  else if handle = idLight then some 4
  else if handle = idProximity then some 5
  else none

/-- The driver as its constructor leaves it: 200 ms between frames. -/
def new : Hwmsen :=
  ⟨0, false, .new 4, false, fun _ => 200000000, 0, fun _ => 0, 0, fun i => .pending (indexHandle i) (indexType i)⟩

/-- The results of the ioctls of an `enable` call: the sensor's own, and those that start or stop the
    accelerometer and the magnetic sensor without data. -/
structure EnableReply where
  sensor : Bool
  accelNoData : Bool
  magneticNoData : Bool
  deriving DecidableEq

variable (env : Surroundings) (reply : EnableReply)

/-- `enable` with `en == 1`. -/
def switchOn (handle : Int) (index : Nat) (s : Hwmsen) : Hwmsen × Int :=
  let s := { s with mHwmLastTs := Function.update s.mHwmLastTs index 0 }
  let on := { s with mEnabled := true, mActiveSensors := setBit s.mActiveSensors handle.toNat }
  if reply.sensor then
    if hasBit s.mActiveSensors idOrientation.toNat = false ∧ handle = idOrientation then
      if reply.accelNoData ∧ reply.magneticNoData then (on, 0) else (s, -1)
    else (on, 0)
  else (s, -1)

/-- `enable` with another `en`. -/
def switchOff (handle : Int) (s : Hwmsen) : Hwmsen × Int :=
  let active := clearBit s.mActiveSensors handle.toNat
  let s := { s with mActiveSensors := active, mEnabled := if active = 0 then false else s.mEnabled }
  -- the bit of the orientation is gone, so the test on the mask is always true here
  if handle = idOrientation ∧ ¬ (reply.accelNoData ∧ reply.magneticNoData) then (s, -1)
  else if reply.sensor then (s, 0) else (s, -1)

/-- `enable`: a handle of another driver is ignored. -/
def enable (handle : Int) (en : Bool) (s : Hwmsen) : Hwmsen × Int :=
  match handleIndex handle with
  | some index => if en then s.switchOn reply handle index else s.switchOff reply handle
  | none => (s, 0)

/-- `processEvent`: the two halves of the mask of sensors with data. -/
def processEvent (code : Nat) (value : Int) (s : Hwmsen) : Hwmsen :=
  let low : BitVec 64 := BitVec.ofInt 32 value |>.setWidth 64
  if code = 1 then { s with dataType := (s.dataType &&& 0xFFFFFFFF00000000#64) ||| low }
  else if code = 2 then { s with dataType := (s.dataType &&& 0x00000000FFFFFFFF#64) ||| (low <<< 32) }
  else s

/-- The event a record turns into: three divided values and an accuracy, or the one value of proximity and
    light. -/
def fromRecord (d : HwmSensorData) (index : Nat) (e : SensorsEvent) : SensorsEvent :=
  let e := { e with type := indexType index, sensor := d.sensor, timestamp := d.time }
  if index ≤ 3 then
    { e with
      status := d.status
      data := ((e.data.set 0 ⟨d.value 0, d.valueDivide⟩).set 1 ⟨d.value 1, d.valueDivide⟩).set 2
        ⟨d.value 2, d.valueDivide⟩ }
  else { e with data := e.data.set 0 (.ofInt (d.value 0)) }

/-- One record of `readSensorData`; an unknown sensor is ignored. -/
def readRecord (s : Hwmsen) (d : HwmSensorData) : Hwmsen :=
  match handleIndex d.sensor with
  | some index =>
    { s with
      mPendingMask := setBit s.mPendingMask index
      mPendingEvents := Function.update s.mPendingEvents index (fromRecord d index (s.mPendingEvents index)) }
  | none => s

/-- The records the driver looks at: at most `MAX_SENSOR_DATA_UPDATE_ONCE`, up to the first without update. -/
def records : List HwmSensorData := (env.sensorsData.take 20).takeWhile (fun d => decide (d.update ≠ 0))

def readSensorData (s : Hwmsen) : Hwmsen := { (records env).foldl readRecord s with dataType := 0 }

/-- The number of frames the sensor with an index has missed. -/
def missed (time : Int) (i : Nat) (s : Hwmsen) : Int :=
  let gap := time - s.mHwmLastTs i
  if gap % 2 ^ 64 > (s.mDelays i * 18 % 2 ^ 64) / 10 then
    if s.mDelays i = 1000000000 ∨ s.mHwmLastTs i = 0 then 0 else env.quotient gap (s.mDelays i)
  else 0

/-- The events of a pending sensor: the first four sensors get events made up for a gap. -/
def frame (time : Int) (i : Nat) (s : Hwmsen) (count : Int) : Pass SensorsEvent :=
  let e := { s.mPendingEvents i with timestamp := time }
  if i ≤ 3 then
    (makeUp time (s.mDelays i) (fun _ => true) (s.missed env time i) e count).andThen (ownEvent time)
  else ownEvent time e count

/-- A pending sensor at `EV_SYN`. -/
def deliver (time : Int) (i : Nat) (s : Hwmsen) (count : Int) : Pass Hwmsen :=
  let p := s.frame env time i count
  ⟨{ s with
      mPendingMask := clearBit s.mPendingMask i
      mPendingEvents := Function.update s.mPendingEvents i p.sensor
      mHwmLastTs := if i ≤ 3 then Function.update s.mHwmLastTs i p.sensor.timestamp else s.mHwmLastTs },
    p.stored, p.count⟩

/-- The loop over the sensors at `EV_SYN`. -/
def deliverAll (env : Surroundings) (time : Int) : List Nat → Hwmsen → Int → Pass Hwmsen
  | [], s, count => .keep s count
  | i :: is, s, count =>
    if count ≠ 0 then
      (if s.mActiveSensors ≠ 0 ∧ hasBit s.mPendingMask i = true then s.deliver env time i count
        else .keep s count).andThen (deliverAll env time is)
    else .keep s count

abbrev indices : List Nat := [0, 1, 2, 3, 4, 5]

/-- The rule at `EV_SYN`. -/
def syn (count : Int) (s : Hwmsen) : Pass Hwmsen :=
  deliverAll env env.elapsedRealtimeNano indices (s.readSensorData env) count

/-- `mInputReader.next()`. -/
def next (s : Hwmsen) : Hwmsen := { s with mInputReader := s.mInputReader.next }

/-- One pass of the event loop: after an event of an unknown type `next` is called twice. -/
def pass (count : Int) (s : Hwmsen) : Pass Hwmsen :=
  let event := s.mInputReader.event
  if event.type = .rel then .keep (s.processEvent event.code event.value).next count
  else if event.type = .syn then
    let p := s.syn env count
    { p with sensor := p.sensor.next }
  else .keep s.next.next count

/-! ## The room a pass leaves -/

variable {env : Surroundings} {time count : Int}

theorem frame_inRoom (s : Hwmsen) (i : Nat) (h : 1 ≤ count) : (s.frame env time i count).InRoom count := by
  unfold frame
  split
  · have hgap := makeUp_inRoom time (s.mDelays i) (fun _ => true) (s.missed env time i)
      { s.mPendingEvents i with timestamp := time } h
    exact hgap.andThen (ownEvent_inRoom time _ hgap.left)
  · exact ownEvent_inRoom time _ (by omega)

theorem deliverAll_inRoom (is : List Nat) (s : Hwmsen) (h : 0 ≤ count) :
    (deliverAll env time is s count).InRoom count := by
  induction is generalizing s count with
  | nil => exact Pass.keep_inRoom s h
  | cons i is ih =>
    unfold deliverAll
    by_cases hmore : count ≠ 0
    · rw [if_pos hmore]
      have hfirst : (if s.mActiveSensors ≠ 0 ∧ hasBit s.mPendingMask i = true then s.deliver env time i count
          else Pass.keep s count).InRoom count := by
        split
        · exact (frame_inRoom s i (by omega)).of_eq rfl rfl
        · exact Pass.keep_inRoom s h
      exact hfirst.andThen (ih _ hfirst.left)
    · rw [if_neg hmore]
      exact Pass.keep_inRoom s h

/-- **A pass of the old driver stores no more than the slots it takes.** -/
theorem pass_inRoom (s : Hwmsen) (h : 1 ≤ count) : (s.pass env count).InRoom count := by
  unfold pass
  dsimp only
  split
  · exact Pass.keep_inRoom _ (by omega)
  · split
    · exact (deliverAll_inRoom indices (s.readSensorData env) (show 0 ≤ count by omega)).of_eq rfl rfl
    · exact Pass.keep_inRoom _ (by omega)

end Hwmsen

end HuaweiY5.Sensors
