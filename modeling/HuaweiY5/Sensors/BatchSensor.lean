import HuaweiY5.Sensors.Hwmsen

/-!
# `Sensors.BatchSensor` — batched data and flush requests (BatchSensor.cpp)

With a batch driver in the kernel, `readEvents` asks it for records by ioctl until none is left, and then
takes the completed flushes from the input device. Without one it answers the flush requests itself, from
the counters `flushSensorReq`.
-/

namespace HuaweiY5.Sensors

/-- `BatchSensor`; `mdataFd` is `mdata_fd >= 0`, that is, there is a batch driver. -/
structure BatchSensor where
  mdataFd : Bool
  mInputReader : InputEventCircularReader
  mEnabledTime : Int → Int
  mDataDiv : Int → Int
  flushSensorReq : Int → Int
  mHasPendingEvent : Bool
  mPendingEvent : SensorsEvent

/-- An access to one of the arrays, with the index used. -/
inductive ArrayAccess
  | mEnabledTime (i : Int)
  | mDataDiv (i : Int)
  | flushSensorReq (i : Int)
  deriving DecidableEq

namespace BatchSensor

/-- `numSensors`: the size of `mEnabledTime` and `mDataDiv`. -/
abbrev numSensors : Int := 43

/-- The driver as its constructor leaves it; `mDataDiv` is read from the kernel. -/
def new (mdataFd : Bool) (mDataDiv : Int → Int) : BatchSensor :=
  ⟨mdataFd, .new 128, fun _ => 0, mDataDiv, fun _ => 0, false, .pending 0 typeMetaData⟩

/-- The table of `TypeToSensor`. -/
def typeTable : List (Int × Int) :=
  [(typeAccelerometer, idAccelerometer), (typeMagneticField, idMagnetic),
    (typeMagneticFieldUncalibrated, idMagneticUncalibrated), (typeOrientation, idOrientation),
    (typeGyroscope, idGyroscope), (typeGyroscopeUncalibrated, idGyroscopeUncalibrated), (typeLight, idLight),
    (typeProximity, idProximity), (typePressure, idPressure), (typeTemperature, idTemprerature),
    (typeGravity, idGravity), (typeLinearAcceleration, idLinearAcceleration),
    (typeRotationVector, idRotationVector), (typeGameRotationVector, idGameRotationVector),
    (typeSignificantMotion, idSignificantMotion), (typeStepDetector, idStepDetector),
    (typeStepCounter, idStepCounter), (typeGeomagneticRotationVector, idGeomagneticRotationVector),
    (typePedometer, idPedometer), (typeInPocket, idInPocket), (typeActivity, idActivity),
    (typePickUpGesture, idPickUpGesture), (typeWakeGesture, idWakeGesture),
    (typeGlanceGesture, idGlanceGesture), (typeFaceDown, idFaceDown), (typeShake, idShake),
    (typeHeartRate, idHeartRate), (typeBringtosee, idBringtosee), (typeHumidity, idHumidity),
    (typeTiltDetector, idTiltDetector)]

/-- `TypeToSensor`; the source's -1 is `none`. -/
def typeToSensor (type : Int) : Option Int := typeTable.lookup type

/-! ## Enabling and flushing -/

/-- `enable`: without a batch driver nothing is done, and only an opened control file sets the time. -/
def enable (opens : Bool) (now handle : Int) (en : Bool) (s : BatchSensor) : BatchSensor × List ArrayAccess :=
  if s.mdataFd ∧ opens ∧ en then
    ({ s with mEnabledTime := Function.update s.mEnabledTime handle (now + ignoreEventTime) }, [.mEnabledTime handle])
  else (s, [])

/-- `processEvent(EVENT_TYPE_END_FLAG, value)`: the pending event of a completed flush. -/
def endFlag (value : Int) (e : SensorsEvent) : SensorsEvent :=
  { e with
    sensor := 0, type := typeMetaData, metaWhat := metaDataFlushComplete, metaSensor := value % 2 ^ 16 }

/-- `flush` without a batch driver. -/
def flush (handle : Int) (s : BatchSensor) : BatchSensor × List ArrayAccess :=
  ({ s with
      flushSensorReq := Function.update s.flushSensorReq handle (s.flushSensorReq handle + 1)
      mHasPendingEvent := true }, [.flushSensorReq handle])

/-! ## Without a batch driver -/

/-- A round of the inner loop: one request of a handle is answered. -/
def answer (now handle : Int) (s : BatchSensor) : BatchSensor × SensorsEvent :=
  let e := endFlag handle { s.mPendingEvent with timestamp := now }
  ({ s with
      mPendingEvent := e
      flushSensorReq := Function.update s.flushSensorReq handle (s.flushSensorReq handle - 1) }, e)

/-- After the scan: the flag is taken back if the scan came to the end and left no request of the last
    handle. -/
def settle (handle : Int) (s : BatchSensor) : BatchSensor :=
  if handle = idSensorMaxHandle ∧ s.flushSensorReq (handle - 1) = 0 then { s with mHasPendingEvent := false }
  else s

/-! ## With a batch driver -/

/-- `batch_trans_data` as the ioctl returns it. -/
structure BatchReply where
  err : Bool
  numOfDataReturn : Int
  numOfDataLeft : Int
  data : Nat → HwmSensorData

def BatchReply.accepted (r : BatchReply) (count : Int) : Bool :=
  !r.err && decide (0 ≤ r.numOfDataReturn) && decide (r.numOfDataReturn ≤ count) && decide (0 ≤ r.numOfDataLeft)

def BatchReply.records (r : BatchReply) : List HwmSensorData := (List.range r.numOfDataReturn.toNat).map r.data

/-- The values `handleEvent` stores for a record, by the record's type. -/
def converted (d : HwmSensorData) (div : Int) : List Reading :=
  if d.sensor = typeActivity then (List.range 12).map fun i => .ofInt (d.probability.getD i 0)
  else if d.sensor ∈ [typeAccelerometer, typeMagneticField, typeGyroscope, typeOrientation] then
    (List.range 3).map fun i => ⟨d.value i, div⟩
  else (List.range 6).map fun i => ⟨d.value i, div⟩

/-- `handleEvent`: the first members of `data`, and the accuracy of the four sensors that have one. -/
def handleEvent (d : HwmSensorData) (div : Int) (slot : SensorsEvent) : SensorsEvent :=
  let values := converted d div
  { slot with
    data := values ++ slot.data.drop values.length
    status := if d.sensor ∈ [typeAccelerometer, typeMagneticField, typeGyroscope, typeOrientation] then d.status
      else slot.status }

/-- What becomes of a record: the contents of the slot, whether the slot is kept as an event, and the array
    accesses made. -/
structure RecordOutcome where
  slot : SensorsEvent
  kept : Bool
  accesses : List ArrayAccess

/-- The body of the loop over the records. -/
def readRecord (s : BatchSensor) (d : HwmSensorData) (slot : SensorsEvent) : RecordOutcome :=
  match typeToSensor d.sensor with
  | none => ⟨slot, false, []⟩
  | some sensor =>
    let slot := { slot with sensor := sensor, type := d.sensor, timestamp := d.time }
    let kept := decide (slot.timestamp > s.mEnabledTime sensor)
    if d.sensor = typeStepCounter then
      ⟨{ slot with stepCounter := d.value 0 }, kept, [.mEnabledTime sensor]⟩
    else if 0 ≤ sensor ∧ sensor < numSensors ∧ s.mDataDiv sensor ≠ 0 then
      ⟨handleEvent d (s.mDataDiv sensor) slot, kept, [.mDataDiv sensor, .mEnabledTime sensor]⟩
    else ⟨slot, kept, [.mDataDiv sensor, .mEnabledTime sensor]⟩

structure Records where
  stored : List SensorsEvent
  count : Int
  accesses : List ArrayAccess

/-- The loop over the records. -/
def readRecords (s : BatchSensor) (cells : Nat → SensorsEvent) :
    List HwmSensorData → SensorsEvent → Nat → Int → Records
  | [], _, _, count => ⟨[], count, []⟩
  | d :: ds, slot, k, count =>
    if count ≠ 0 then
      let r := s.readRecord d slot
      if r.kept then
        let rest := s.readRecords cells ds (cells (k + 1)) (k + 1) (count - 1)
        ⟨r.slot :: rest.stored, rest.count, r.accesses ++ rest.accesses⟩
      else
        let rest := s.readRecords cells ds r.slot k count
        ⟨rest.stored, rest.count, r.accesses ++ rest.accesses⟩
    else ⟨[], count, []⟩

/-- One round of the ioctl loop: whether the loop is left, and what it stored. -/
def query (s : BatchSensor) (reply : BatchReply) (cells : Nat → SensorsEvent) (count : Int) : Bool × Records :=
  if reply.accepted count then
    (decide (reply.numOfDataLeft = 0), s.readRecords cells reply.records (cells 0) 0 count)
  else (true, ⟨[], count, []⟩)

/-- One pass of the event loop: a completed flush is handed on. -/
def pass (count : Int) (s : BatchSensor) : Pass BatchSensor :=
  let event := s.mInputReader.event
  let s := { s with mInputReader := s.mInputReader.next }
  if (event.type = .abs ∨ event.type = .rel) ∧ event.code = codeRy then
    ⟨s, [endFlag event.value (.pending 0 typeMetaData)], count - 1⟩
  else .keep s count

/-! ## The room the loops leave -/

variable {count : Int}

variable (s : BatchSensor)

theorem readRecords_room (cells : Nat → SensorsEvent) (ds : List HwmSensorData)
    (slot : SensorsEvent) (k : Nat) (h : 0 ≤ count) :
    0 ≤ (s.readRecords cells ds slot k count).count ∧
      ((s.readRecords cells ds slot k count).stored.length : Int) + (s.readRecords cells ds slot k count).count =
        count := by
  induction ds generalizing slot k count with
  | nil => simpa [readRecords] using h
  | cons d ds ih =>
    unfold readRecords
    split
    · rename_i hmore
      dsimp only
      split
      · have hslots : 0 ≤ count - 1 := by omega
        have hrest := ih (cells (k + 1)) (k + 1) hslots
        simp only [List.length_cons]
        omega
      · exact ih _ _ h
    · simpa using h

theorem query_room (reply : BatchReply) (cells : Nat → SensorsEvent) (h : 0 ≤ count) :
    0 ≤ (s.query reply cells count).2.count ∧
      ((s.query reply cells count).2.stored.length : Int) + (s.query reply cells count).2.count = count := by
  unfold query
  split
  · exact readRecords_room s cells _ _ _ h
  · simpa using h

/-- **A pass of the batch driver stores no more than the slots it takes.** -/
theorem pass_inRoom (h : 1 ≤ count) : (s.pass count).InRoom count := by
  unfold pass
  dsimp only
  split
  · exact Pass.store_inRoom _ _ h
  · exact Pass.keep_inRoom _ (by omega)

end BatchSensor

end HuaweiY5.Sensors
