import HuaweiY5.Sensors.InputReader

/-!
# `Sensors.SingleSensor` — the drivers that serve one sensor each

Twenty-five of the HAL's drivers have one sensor and one pending event. Each reads its input events in a
loop: the value events are entered into the pending event by `processEvent`, and an `EV_SYN` ends a frame
and may store the pending event in the caller's buffer. They differ in the cases of `processEvent` and in
what they do at an `EV_SYN`; a `SensorClass` holds one driver's own cases and its rule, and each driver of
the source is one `SensorClass` below.
-/

namespace HuaweiY5.Sensors

/-! ## One pass of an event loop -/

/-- What one pass of an event loop reads from the system: the clocks, whether a driver's control file for a
    handle opens, the records `HWM_IO_GET_SENSORS_DATA` returns, and the integer part of a float quotient. -/
structure Surroundings where
  elapsedRealtimeNano : Int
  systemTime : Int
  opens : Int → Bool
  sensorsData : List HwmSensorData
  quotient : Int → Int → Int

/-- The outcome of one pass: the driver, the events stored at `*data++`, and the slots left (`count`). -/
structure Pass (σ : Type) where
  sensor : σ
  stored : List SensorsEvent
  count : Int

def Pass.keep {σ : Type} (s : σ) (count : Int) : Pass σ := ⟨s, [], count⟩

/-- The pass leaves no slot too few: every event stored has taken one. -/
structure Pass.InRoom {σ : Type} (count : Int) (p : Pass σ) : Prop where
  left : 0 ≤ p.count
  taken : p.stored.length + p.count ≤ count

variable {count : Int}

variable {σ : Type}

theorem Pass.keep_inRoom (s : σ) (h : 0 ≤ count) : (Pass.keep s count).InRoom count := ⟨h, by simp [keep]⟩

theorem Pass.store_inRoom (s : σ) (e : SensorsEvent) (h : 1 ≤ count) : (Pass.mk s [e] (count - 1)).InRoom count :=
  ⟨by dsimp only; omega, by simp⟩

theorem Pass.skip_inRoom (s : σ) (h : 1 ≤ count) : (Pass.mk s [] (count - 1)).InRoom count :=
  ⟨by dsimp only; omega, by simp⟩

theorem Pass.idle_inRoom (s : σ) (h : 1 ≤ count) : (Pass.keep s count).InRoom count := keep_inRoom s (by omega)

/-- One event of a loop that enters values and ends a frame at `EV_SYN`. -/
theorem Pass.event_inRoom {isValue isSyn : Prop} [Decidable isValue] [Decidable isSyn] {s s' : σ} {syn : Pass σ}
    (h : 1 ≤ count) (hsyn : isSyn → syn.InRoom count) :
    (if isValue then .keep s count else if isSyn then syn else .keep s' count : Pass σ).InRoom count := by
  split
  · exact idle_inRoom s h
  · split
    · next hs => exact hsyn hs
    · exact idle_inRoom s' h

/-- One part of a pass, then another with the slots left. -/
def Pass.andThen (p : Pass σ) (f : σ → Int → Pass σ) : Pass σ :=
  let q := f p.sensor p.count
  ⟨q.sensor, p.stored ++ q.stored, q.count⟩

theorem Pass.InRoom.andThen {p : Pass σ} {f : σ → Int → Pass σ} (h : p.InRoom count)
    (hf : (f p.sensor p.count).InRoom p.count) : (p.andThen f).InRoom count := by
  refine ⟨hf.left, ?_⟩
  have hp := h.taken
  have hq := hf.taken
  show ((p.stored ++ (f p.sensor p.count).stored).length : Int) + (f p.sensor p.count).count ≤ count
  rw [List.length_append]
  omega

/-- The pass of a driver seen as one of a larger type. -/
def Pass.map {σ τ : Type} (f : σ → τ) (p : Pass σ) : Pass τ := ⟨f p.sensor, p.stored, p.count⟩

theorem Pass.InRoom.of_eq {σ τ : Type} {p : Pass σ} {q : Pass τ} (h : p.InRoom count) (hstored : q.stored = p.stored)
    (hcount : q.count = p.count) : q.InRoom count :=
  ⟨hcount ▸ h.left, by rw [hstored, hcount]; exact h.taken⟩

/-! ## Classes of drivers -/

/-- What a case of `processEvent` divides the value by before it goes to `data[i]`: nothing, the driver's
    divisor, a constant, or the driver's divisor in integer arithmetic. -/
inductive Scale
  | one | dataDiv | const (n : Int) | intDiv
  deriving DecidableEq

/-- The member a case of `processEvent` assigns. -/
inductive Member
  | data (i : Nat) (scale : Scale)
  | distance
  | status
  | timestampHi
  | timestampLo
  deriving DecidableEq

/-- A case of `processEvent`: the type (where it tells types apart) and the code, the member assigned, and
    the value given to `mAllInputDataCompleteFlag` (where there is one). -/
structure EventCase where
  type : Option EventType
  code : Nat
  member : Member
  flag : Option Nat
  deriving DecidableEq

/-- Where a driver takes the time of a frame from. -/
inductive Clock
  | elapsedRealtime | monotonic | event
  deriving DecidableEq

/-- A driver's rule at `EV_SYN`.

  - `stamped`: the frame is given the time of a clock and takes a slot; a one-shot sensor disables itself.
  - `timed`: the frame keeps the kernel's time stamp, and takes a slot only if it is stored.
  - `framed`: the same, but only for a frame whose last item was `all_complete`.
  - `pressure`, `proximity`: as those two drivers write it. -/
inductive SynRule
  | stamped (clock : Clock) (oneShot : Bool)
  | timed
  | framed
  | pressure
  | proximity
  deriving DecidableEq

/-- The condition of a driver's event loop besides `readEvent`: `count`, or `numEventReceived < count`. -/
inductive LoopTest
  | count | receivedBelowCount
  deriving DecidableEq

/-- What tells one driver's code from another's. -/
structure SensorClass where
  sensor : Int
  type : Int
  takes : List EventType
  cases : List EventCase
  syn : SynRule
  loop : LoopTest
  deriving DecidableEq

/-- The members of a driver with one sensor. -/
structure SingleSensor where
  mInputReader : InputEventCircularReader
  mEnabled : Bool
  mEnabledTime : Int
  mDataDiv : Int
  mPendingEvent : SensorsEvent
  mAllInputDataCompleteFlag : Nat

namespace SingleSensor

def new (c : SensorClass) (numEvents : Nat) : SingleSensor :=
  ⟨.new numEvents, false, 0, 1, .pending c.sensor c.type, 0⟩

variable (env : Surroundings) (c : SensorClass) (count : Int) (s : SingleSensor)

/-- `enable`: only if the control file opens. -/
def enable (handle : Int) (en : Bool) (s : SingleSensor) : SingleSensor × Int :=
  if env.opens handle then
    let pending := if en ∧ c.syn = .proximity then
      { s.mPendingEvent with data := s.mPendingEvent.data.set 0 (.ofInt (-1)) } else s.mPendingEvent
    ({ s with
        mEnabled := en
        mEnabledTime := if en then env.elapsedRealtimeNano + ignoreEventTime else s.mEnabledTime
        mPendingEvent := pending }, 0)
  else (s, -1)

def scaled (value : Int) : Scale → Reading
  | .one => .ofInt value
  | .dataDiv => ⟨value, s.mDataDiv⟩
  | .const n => ⟨value, n⟩
  | .intDiv => .ofInt (value.tdiv s.mDataDiv)

/-- The assignment of one case; `PROXIMITY_RANGE` is `10.00f`. -/
def assign (value : Int) : Member → SensorsEvent
  | .data i scale => { s.mPendingEvent with data := s.mPendingEvent.data.set i (s.scaled value scale) }
  | .distance => { s.mPendingEvent with data := s.mPendingEvent.data.set 0 (.ofInt ((value - 1) * 10)) }
  | .status => { s.mPendingEvent with status := value }
  | .timestampHi =>
    { s.mPendingEvent with timestamp := Sensors.timestampHi s.mPendingEvent.timestamp value }
  | .timestampLo =>
    { s.mPendingEvent with timestamp := Sensors.timestampLo s.mPendingEvent.timestamp value }

def processEvent (type : EventType) (code : Nat) (value : Int) (s : SingleSensor) : SingleSensor :=
  match c.cases.find? (fun k => (k.type = none ∨ k.type = some type) ∧ k.code = code) with
  | some k =>
    { s with
      mPendingEvent := s.assign value k.member
      mAllInputDataCompleteFlag := k.flag.getD s.mAllInputDataCompleteFlag }
  | none => s

abbrev allComplete : Nat := 7

def frameTime (event : InputEvent) : Clock → Int
  | .elapsedRealtime => env.elapsedRealtimeNano
  | .monotonic => env.systemTime
  | .event => event.time

/-- Frames stamped by the driver: an enabled driver takes a slot even for a frame it does not store. -/
def stampedSyn (oneShot : Bool) (time count : Int) (s : SingleSensor) : Pass SingleSensor :=
  let s := { s with mPendingEvent := { s.mPendingEvent with timestamp := time } }
  if s.mEnabled then
    if s.mPendingEvent.timestamp ≥ s.mEnabledTime then
      let s' := if oneShot ∧ s.mPendingEvent.sensor = c.sensor then (s.enable env c c.sensor false).1 else s
      ⟨s', [s.mPendingEvent], count - 1⟩
    else ⟨s, [], count - 1⟩
  else .keep s count

/-- The pending event with a time stamp: the clock's if the kernel sent none. -/
def dated (time : Int) (s : SingleSensor) : SensorsEvent :=
  { s.mPendingEvent with
    timestamp := if s.mPendingEvent.timestamp = 0 then time else s.mPendingEvent.timestamp }

/-- A frame is stored if its time stamp is newer than the enabling. -/
def report (time count : Int) (s : SingleSensor) : Pass SingleSensor :=
  let e := s.dated time
  if e.timestamp > s.mEnabledTime then ⟨{ s with mPendingEvent := { e with timestamp := 0 } }, [e], count - 1⟩
  else .keep { s with mPendingEvent := e } count

def timedSyn : Pass SingleSensor :=
  let time := env.elapsedRealtimeNano
  if s.mEnabled ∧ time ≥ s.mEnabledTime then s.report time count else .keep s count

/-- The same for the drivers that drop a frame whose low time word did not come last. -/
def framedSyn : Pass SingleSensor :=
  let time := env.elapsedRealtimeNano
  if s.mEnabled ∧ time ≥ s.mEnabledTime then
    if s.mAllInputDataCompleteFlag = allComplete then
      ({ s with mAllInputDataCompleteFlag := 0 } : SingleSensor).report time count
    else .keep s count
  else .keep s count

/-- The pressure driver: the time stamp is not compared with the enabling. -/
def pressureSyn : Pass SingleSensor :=
  let time := env.elapsedRealtimeNano
  if s.mEnabled ∧ time ≥ s.mEnabledTime then
    let e := s.dated time
    ⟨{ s with mPendingEvent := { e with timestamp := 0 } }, [e], count - 1⟩
  else .keep s count

/-- `mPendingEvent.distance >= 0`. -/
def hasDistance : Bool := decide (0 ≤ (s.mPendingEvent.data.getD 0 (.ofInt 0)).num)

/-- The proximity driver: a frame counts only with a distance in it, which is then marked invalid. -/
def proximitySyn : Pass SingleSensor :=
  let s := { s with mPendingEvent := { s.mPendingEvent with timestamp := env.elapsedRealtimeNano } }
  if s.mEnabled ∧ s.hasDistance then
    let used := { s with
      mPendingEvent := { s.mPendingEvent with data := s.mPendingEvent.data.set 0 (.ofInt (-1)) } }
    ⟨used, if s.mPendingEvent.timestamp ≥ s.mEnabledTime then [s.mPendingEvent] else [], count - 1⟩
  else .keep s count

/-- A driver's rule at `EV_SYN`. -/
def syn (env : Surroundings) (c : SensorClass) (event : InputEvent) (count : Int) (s : SingleSensor) :
    Pass SingleSensor :=
  match c.syn with
  | .stamped clock oneShot => s.stampedSyn env c oneShot (frameTime env event clock) count
  | .timed => s.timedSyn env count
  | .framed => s.framedSyn env count
  | .pressure => s.pressureSyn env count
  | .proximity => s.proximitySyn env count

/-- One event of the loop, before `next`. -/
def handle (event : InputEvent) (count : Int) (s : SingleSensor) : Pass SingleSensor :=
  if event.type ∈ c.takes then .keep (s.processEvent c event.type event.code event.value) count
  else if event.type = .syn then s.syn env c event count
  else .keep s count

def pass : Pass SingleSensor :=
  let p := s.handle env c s.mInputReader.event count
  { p with sensor := { p.sensor with mInputReader := p.sensor.mInputReader.next } }

def more (received : Nat) (count : Int) (s : SingleSensor) : Bool :=
  s.mInputReader.readEvent &&
    match c.loop with
    | .count => decide (count ≠ 0)
    | .receivedBelowCount => decide ((received : Int) < count)

/-! ### The room a pass leaves -/

variable {env : Surroundings} {c : SensorClass} {count : Int}

variable (s : SingleSensor)

theorem report_inRoom {time : Int} (h : 1 ≤ count) : (s.report time count).InRoom count := by
  unfold report
  dsimp only
  split
  · exact Pass.store_inRoom _ _ h
  · exact Pass.idle_inRoom _ h

theorem syn_inRoom (event : InputEvent) (h : 1 ≤ count) : (s.syn env c event count).InRoom count := by
  unfold syn
  cases c.syn with
  | stamped clock oneShot =>
    dsimp only [stampedSyn]
    split
    · split
      · exact Pass.store_inRoom _ _ h
      · exact Pass.skip_inRoom _ h
    · exact Pass.idle_inRoom _ h
  | timed =>
    dsimp only [timedSyn]
    split
    · exact report_inRoom s h
    · exact Pass.idle_inRoom s h
  | framed =>
    dsimp only [framedSyn]
    split
    · split
      · exact report_inRoom _ h
      · exact Pass.idle_inRoom s h
    · exact Pass.idle_inRoom s h
  | pressure =>
    dsimp only [pressureSyn]
    split
    · exact Pass.store_inRoom _ _ h
    · exact Pass.idle_inRoom s h
  | proximity =>
    dsimp only [proximitySyn]
    split
    · split
      · exact Pass.store_inRoom _ _ h
      · exact Pass.skip_inRoom _ h
    · exact Pass.idle_inRoom _ h

theorem handle_inRoom (event : InputEvent) (h : 1 ≤ count) : (s.handle env c event count).InRoom count :=
  Pass.event_inRoom h fun _ => syn_inRoom s event h

/-- **A pass of a single-sensor driver stores no more than the slots it takes.** -/
theorem pass_inRoom (h : 1 ≤ count) : (s.pass env c count).InRoom count := (handle_inRoom s _ h).of_eq rfl rfl

/-- A driver whose loop compares `numEventReceived` with a count it also decrements stops halfway: while
    its loop runs, more slots are left than events are stored. -/
theorem more_receivedBelowCount {received : Nat} {s : SingleSensor} (hc : c.loop = .receivedBelowCount)
    (h : s.more c received count = true) : (received : Int) < count := by
  simp only [more, hc, Bool.and_eq_true, decide_eq_true_eq] at h
  exact h.2

theorem more_count_ne_zero {received : Nat} {s : SingleSensor} (h : s.more c received count = true) : count ≠ 0 := by
  cases hc : c.loop with
  | count =>
    simp only [more, hc, Bool.and_eq_true, decide_eq_true_eq] at h
    exact h.2
  | receivedBelowCount =>
    have := more_receivedBelowCount hc h
    omega

end SingleSensor

/-! ## The drivers -/

/-- The cases of a driver that reports one value in `data[0]`, whatever the event's type. -/
def oneValue (code : Nat) (scale : Scale) : List EventCase := [⟨none, code, .data 0 scale, none⟩]

/-- The cases of the two drivers with a frame check (`EVENT_TYPE_ACCEL_*`, `EVENT_TYPE_GYRO_*`). -/
def framedCases : List EventCase :=
  [⟨some .abs, absWheel, .status, some 4⟩, ⟨some .abs, codeX, .data 0 .dataDiv, some 1⟩,
    ⟨some .abs, codeY, .data 1 .dataDiv, some 2⟩, ⟨some .abs, codeZ, .data 2 .dataDiv, some 3⟩,
    ⟨some .rel, relHwheel, .timestampHi, some 6⟩, ⟨some .rel, relDial, .timestampLo, some 7⟩]

/-- The time stamp cases of the drivers that get their values as `EV_REL` too. -/
def timestampCases (type : Option EventType) : List EventCase :=
  [⟨type, relHwheel, .timestampHi, none⟩, ⟨type, relDial, .timestampLo, none⟩]

def axisCases : List EventCase :=
  [⟨none, codeX, .status, none⟩, ⟨none, codeRx, .data 0 .dataDiv, none⟩,
    ⟨none, codeRy, .data 1 .dataDiv, none⟩, ⟨none, codeRz, .data 2 .dataDiv, none⟩] ++ timestampCases none

/-- The cases of the rotation vectors: the axes and a scalar. -/
def vectorCases : List EventCase := axisCases ++ [⟨none, relWheel, .data 3 .dataDiv, none⟩]

/-- The cases of the uncalibrated sensors: three axes and three biases. -/
def uncalibratedCases : List EventCase :=
  [⟨some .abs, codeX, .data 0 .dataDiv, none⟩, ⟨some .abs, codeY, .data 1 .dataDiv, none⟩,
    ⟨some .abs, codeZ, .data 2 .dataDiv, none⟩, ⟨some .abs, codeRx, .data 3 .dataDiv, none⟩,
    ⟨some .abs, codeRy, .data 4 .dataDiv, none⟩, ⟨some .abs, codeRz, .data 5 .dataDiv, none⟩] ++
    timestampCases (some .rel)

namespace SensorClass

def accelerationSensor : SensorClass :=
  ⟨idAccelerometer, typeAccelerometer, [.abs, .rel], framedCases, .framed, .count⟩

def gyroscopeSensor : SensorClass := ⟨idGyroscope, typeGyroscope, [.abs, .rel], framedCases, .framed, .count⟩

def ambiLightSensor : SensorClass :=
  ⟨idLight, typeLight, [.abs], oneValue codeX .one, .stamped .elapsedRealtime false, .count⟩

def proximitySensor : SensorClass :=
  ⟨idProximity, typeProximity, [.rel], [⟨none, codeZ, .distance, none⟩], .proximity, .count⟩

def pressureSensor : SensorClass :=
  ⟨idPressure, typePressure, [.abs, .rel],
    ⟨some .rel, codeX, .data 0 .dataDiv, none⟩ :: timestampCases (some .rel), .pressure, .count⟩

def tempratureSensor : SensorClass :=
  ⟨idTemprerature, typeTemperature, [.abs], oneValue absThrottle .one, .stamped .monotonic false, .count⟩

def pedometerSensor : SensorClass :=
  ⟨idPedometer, typePedometer, [.rel],
    [⟨none, codeX, .data 0 (.const 1000), none⟩, ⟨none, codeY, .data 1 (.const 1024), none⟩,
      ⟨none, codeZ, .data 2 .one, none⟩, ⟨none, codeRx, .data 3 (.const 1000), none⟩] ++ timestampCases none,
    .timed, .count⟩

def activitySensor : SensorClass :=
  ⟨idActivity, typeActivity, [.abs, .rel],
    [⟨some .abs, codeRx, .data 0 .one, none⟩, ⟨some .abs, absHat0y, .data 1 .one, none⟩,
      ⟨some .abs, absHat2y, .data 2 .one, none⟩, ⟨some .abs, absHat1x, .data 3 .one, none⟩,
      ⟨some .abs, codeZ, .data 4 .one, none⟩, ⟨some .abs, absHat0x, .data 5 .one, none⟩,
      ⟨some .abs, absHat1y, .data 6 .one, none⟩, ⟨some .abs, absHat2x, .data 7 .one, none⟩,
      ⟨some .abs, codeY, .data 8 .one, none⟩, ⟨some .abs, codeX, .data 9 .one, none⟩,
      ⟨some .abs, codeRz, .data 10 .one, none⟩, ⟨some .abs, codeRy, .data 11 .one, none⟩] ++
      timestampCases (some .rel),
    .timed, .count⟩

def pickUpSensor : SensorClass :=
  ⟨idPickUpGesture, typePickUpGesture, [.abs, .rel], oneValue codeX .one, .stamped .elapsedRealtime true, .count⟩

def faceDownSensor : SensorClass :=
  ⟨idFaceDown, typeFaceDown, [.abs, .rel], oneValue codeX .one, .stamped .event false, .count⟩

def shakeSensor : SensorClass :=
  ⟨idShake, typeShake, [.abs, .rel], oneValue codeX .one, .stamped .elapsedRealtime false, .count⟩

def heartRateSensor : SensorClass :=
  ⟨idHeartRate, typeHeartRate, [.abs],
    [⟨none, codeX, .data 0 .intDiv, none⟩, ⟨none, codeY, .data 1 .one, none⟩],
    .stamped .elapsedRealtime false, .count⟩

def tiltSensor : SensorClass :=
  ⟨idTiltDetector, typeTiltDetector, [.abs, .rel], oneValue codeX .one, .stamped .event false, .count⟩

def wakeGestureSensor : SensorClass :=
  ⟨idWakeGesture, typeWakeGesture, [.abs, .rel], oneValue codeX .one, .stamped .event true, .count⟩

def glanceGestureSensor : SensorClass :=
  ⟨idGlanceGesture, typeGlanceGesture, [.abs, .rel], oneValue codeX .one, .stamped .elapsedRealtime true, .count⟩

def linearaccelSensor : SensorClass :=
  ⟨idLinearAcceleration, typeLinearAcceleration, [.abs, .rel], axisCases, .timed, .receivedBelowCount⟩

/-- Its time stamp cases are named `EVENT_TYPE_LA_*`, which are the codes of its own. -/
def rotationVectorSensor : SensorClass :=
  ⟨idRotationVector, typeRotationVector, [.abs, .rel], vectorCases, .timed, .count⟩

def gameRotationVectorSensor : SensorClass :=
  ⟨idGameRotationVector, typeGameRotationVector, [.abs, .rel], vectorCases, .timed, .count⟩

def gravitySensor : SensorClass := ⟨idGravity, typeGravity, [.abs, .rel], axisCases, .timed, .receivedBelowCount⟩

def geomagneticRotationVectorSensor : SensorClass :=
  ⟨idGeomagneticRotationVector, typeGeomagneticRotationVector, [.abs, .rel], vectorCases, .timed, .count⟩

def bringtoseeSensor : SensorClass :=
  ⟨idBringtosee, typeBringtosee, [.abs, .rel], oneValue codeX .one, .stamped .elapsedRealtime false, .count⟩

def uncaligyroSensor : SensorClass :=
  ⟨idGyroscopeUncalibrated, typeGyroscopeUncalibrated, [.abs, .rel], uncalibratedCases, .timed, .count⟩

def uncalimagSensor : SensorClass :=
  ⟨idMagneticUncalibrated, typeMagneticFieldUncalibrated, [.abs, .rel], uncalibratedCases, .timed, .count⟩

def answerCallSensor : SensorClass :=
  ⟨idAnswerCall, typeAnswerCall, [.abs, .rel], oneValue codeX .one, .stamped .elapsedRealtime true, .count⟩

def pdrSensor : SensorClass :=
  ⟨idPdr, typePdr, [.abs, .rel],
    [⟨none, codeRy, .data 0 .one, none⟩, ⟨none, codeRz, .data 1 .one, none⟩,
      ⟨none, absThrottle, .data 2 .one, none⟩, ⟨none, absRudder, .data 3 .one, none⟩,
      ⟨none, codeX, .data 4 .one, none⟩],
    .stamped .elapsedRealtime false, .count⟩

end SensorClass

end HuaweiY5.Sensors
