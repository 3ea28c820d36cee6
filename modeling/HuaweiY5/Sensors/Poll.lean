import HuaweiY5.Lib.Transducer
import HuaweiY5.Sensors.ReadEvents

/-!
# `Sensors.Poll` — the poll loop and the caller's buffer (nusensors.cpp)

`pollEvents(data, count)` lets every driver with data store events at `data`, moves `data` on by what the
driver returned, and waits in `poll` while slots are left. It is modelled as a machine whose steps are the
steps of the loop and of the driver called; what a step outputs are its stores, as offsets from the buffer
the caller passed.
-/

namespace HuaweiY5.Sensors

open List
open Transducer (Entry outs run_exec)

/-! ## The poll loop -/

inductive Driver
  | batchsensor | hwmsen | accel | magnetic | gyro | light | proximity | pressure | temperature | humidity
  | stepcounter | pedometer | activity | pickUp | faceDown | shake | heartrate | tilt | wakeGesture
  | glanceGesture | linearAcceleration | rotationVector | gameRotationVector | gravity
  | geomagneticRotationVector | bringtosee | uncaligyro | uncalimag | answercall | gesture | pdr
  deriving DecidableEq

/-- `mSensors`, from first to last. -/
def Driver.all : List Driver :=
  [batchsensor, hwmsen, accel, magnetic, gyro, light, proximity, pressure, temperature, humidity, stepcounter,
    pedometer, activity, pickUp, faceDown, shake, heartrate, tilt, wakeGesture, glanceGesture,
    linearAcceleration, rotationVector, gameRotationVector, gravity, geomagneticRotationVector, bringtosee,
    uncaligyro, uncalimag, answercall, gesture, pdr]

/-- The table of `handleToDriver`. -/
def driverTable : List (Int × Driver) :=
  [(idAccelerometer, .accel), (idMagnetic, .magnetic), (idOrientation, .magnetic), (idProximity, .proximity),
    (idLight, .light), (idGyroscope, .gyro), (idPressure, .pressure), (idTemprerature, .temperature),
    (idHumidity, .humidity), (idStepCounter, .stepcounter), (idStepDetector, .stepcounter),
    (idSignificantMotion, .stepcounter), (idPedometer, .pedometer), (idActivity, .activity),
    (idPickUpGesture, .pickUp), (idFaceDown, .faceDown), (idShake, .shake), (idHeartRate, .heartrate),
    (idTiltDetector, .tilt), (idWakeGesture, .wakeGesture), (idGlanceGesture, .glanceGesture),
    (idLinearAcceleration, .linearAcceleration), (idRotationVector, .rotationVector),
    (idGameRotationVector, .gameRotationVector), (idGravity, .gravity),
    (idGeomagneticRotationVector, .geomagneticRotationVector), (idBringtosee, .bringtosee),
    (idGyroscopeUncalibrated, .uncaligyro), (idMagneticUncalibrated, .uncalimag), (idAnswerCall, .answercall),
    (idInPocket, .gesture), (idStationary, .gesture), (idPdr, .pdr)]

/-- `handleToDriver`; the source's `-EINVAL` is `none`. -/
def handleToDriver (handle : Int) : Option Driver := driverTable.lookup handle

/-- Where the loop is: before the drivers still to be looked at, in a driver's `readEvents`, or returned,
    with the number of events or with the error of `poll`. -/
inductive PollPhase
  | scan (rest : List Driver)
  | reading (d : Driver) (rest : List Driver) (call : ReadCall)
  | returned (nbEvents : Int)
  | pollFailed (errno : Nat)

/-- A `pollEvents` call. -/
structure PollEvents where
  mSensors : Driver → SensorBase
  revents : Driver → Bool
  buffer : Int → Option SensorsEvent
  data : Int
  count : Int
  nbEvents : Int
  phase : PollPhase

/-- What `poll` returns: an error, or a number and the descriptors with input. -/
inductive PollReply
  | failed (errno : Nat)
  | ready (n : Nat) (revents : Driver → Bool)

def PollReply.isReal : PollReply → Bool
  | .failed errno => decide (0 < errno)
  | .ready _ _ => true

/-- A step: the next driver with data is called, a step of the call, its return, `poll`, or the return for
    want of slots. -/
inductive PollMove
  | call
  | read (m : ReadMove)
  | leave
  | poll (reply : PollReply)
  | finish

namespace PollEvents

def start (mSensors : Driver → SensorBase) (revents : Driver → Bool) (count : Int) : PollEvents :=
  ⟨mSensors, revents, fun _ => none, 0, count, 0, .scan Driver.all⟩

/-- `mSensors` as the constructor fills it. -/
def sensors (batchNumEvents : Nat) (batch : BatchSensor) : Driver → SensorBase
  | .batchsensor => .batch batch
  | .hwmsen => .hwmsen .new
  | .accel => .single .accelerationSensor (.new .accelerationSensor batchNumEvents)
  | .magnetic => .magnetic (.new batchNumEvents)
  | .gyro => .single .gyroscopeSensor (.new .gyroscopeSensor batchNumEvents)
  | .light => .single .ambiLightSensor (.new .ambiLightSensor 32)
  | .proximity => .single .proximitySensor (.new .proximitySensor 32)
  | .pressure => .single .pressureSensor (.new .pressureSensor 32)
  | .temperature => .single .tempratureSensor (.new .tempratureSensor 32)
  | .humidity => .humidity (.new 32)
  | .stepcounter => .stepCounter (.new 32)
  | .pedometer => .single .pedometerSensor (.new .pedometerSensor batchNumEvents)
  | .activity => .single .activitySensor (.new .activitySensor batchNumEvents)
  | .pickUp => .single .pickUpSensor (.new .pickUpSensor 32)
  | .faceDown => .single .faceDownSensor (.new .faceDownSensor 32)
  | .shake => .single .shakeSensor (.new .shakeSensor 32)
  | .heartrate => .single .heartRateSensor (.new .heartRateSensor 32)
  | .tilt => .single .tiltSensor (.new .tiltSensor 32)
  | .wakeGesture => .single .wakeGestureSensor (.new .wakeGestureSensor 32)
  | .glanceGesture => .single .glanceGestureSensor (.new .glanceGestureSensor 32)
  | .linearAcceleration => .single .linearaccelSensor (.new .linearaccelSensor batchNumEvents)
  | .rotationVector => .single .rotationVectorSensor (.new .rotationVectorSensor batchNumEvents)
  | .gameRotationVector => .single .gameRotationVectorSensor (.new .gameRotationVectorSensor batchNumEvents)
  | .gravity => .single .gravitySensor (.new .gravitySensor batchNumEvents)
  | .geomagneticRotationVector =>
    .single .geomagneticRotationVectorSensor (.new .geomagneticRotationVectorSensor batchNumEvents)
  | .bringtosee => .single .bringtoseeSensor (.new .bringtoseeSensor 32)
  | .uncaligyro => .single .uncaligyroSensor (.new .uncaligyroSensor batchNumEvents)
  | .uncalimag => .single .uncalimagSensor (.new .uncalimagSensor batchNumEvents)
  | .answercall => .single .answerCallSensor (.new .answerCallSensor 32)
  | .gesture => .gesture (.new 32)
  | .pdr => .single .pdrSensor (.new .pdrSensor 32)

variable (s : PollEvents)

/-- `(revents & POLLIN) || hasPendingEvents()`. -/
def ready (d : Driver) : Bool := s.revents d || (s.mSensors d).hasPendingEvents

def upcoming (rest : List Driver) : List Driver := rest.dropWhile (fun d => !s.ready d)

def placed : Int → List SensorsEvent → List (Int × SensorsEvent)
  | _, [] => []
  | o, e :: es => (o, e) :: placed (o + 1) es

def written (buffer : Int → Option SensorsEvent) (stores : List (Int × SensorsEvent)) : Int → Option SensorsEvent :=
  stores.foldl (fun b w => Function.update b w.1 (some w.2)) buffer

def offsetId (e : SensorsEvent) : SensorsEvent :=
  if e.type = typeMetaData then { e with metaSensor := e.metaSensor + idOffset }
  else { e with sensor := e.sensor + idOffset }

/-- After `readEvents` has returned `nb`. -/
def account (d : Driver) (rest : List Driver) (nb : Int) : PollEvents :=
  { s with
    revents := if nb < s.count then Function.update s.revents d false else s.revents
    buffer := fun o => if s.data ≤ o ∧ o < s.data + nb then (s.buffer o).map offsetId else s.buffer o
    count := s.count - nb
    nbEvents := s.nbEvents + nb
    data := s.data + nb
    phase := .scan rest }

/-- `poll`, and the loop's condition `n && count`; there are slots left. -/
def polled : PollReply → PollEvents
  | .failed errno => { s with phase := .pollFailed errno }
  | .ready n revents =>
    { s with revents := revents, phase := if n ≠ 0 then .scan Driver.all else .returned s.nbEvents }

/-- A step of the driver called; its stores go to `data` on, behind those of the call so far. -/
def readStep (d : Driver) (rest : List Driver) (call : ReadCall) (m : ReadMove) :
    PollEvents × List (Int × SensorsEvent) :=
  let r := m.step (s.mSensors d) call
  let stores := placed (s.data + call.received) r.stored
  ({ s with
      mSensors := Function.update s.mSensors d r.sensor
      buffer := written s.buffer stores
      phase := .reading d rest r.call }, stores)

def step (move : PollMove) : PollEvents × List (Int × SensorsEvent) :=
  match s.phase, move with
  | .scan rest, .call =>
    match s.upcoming rest with
    | d :: ds => ({ s with phase := .reading d ds (.start s.count) }, [])
    | [] => (s, [])
  | .scan _, .poll reply => (s.polled reply, [])
  | .scan _, .finish => ({ s with phase := .returned s.nbEvents }, [])
  | .reading d rest call, .read m => s.readStep d rest call m
  | .reading d rest call, .leave =>
    match call.result (s.mSensors d) with
    | some nb => (s.account d rest nb, [])
    | none => (s, [])
  | _, _ => (s, [])

def EnabledIn : PollPhase → PollMove → Prop
  | .scan rest, .call => s.count ≠ 0 ∧ s.upcoming rest ≠ []
  | .scan rest, .poll reply => s.count ≠ 0 ∧ s.upcoming rest = [] ∧ reply.isReal = true
  | .scan _, .finish => s.count = 0
  | .reading d _ call, .read m => m.Enabled (s.mSensors d) call
  | .reading d _ call, .leave => call.result (s.mSensors d) ≠ none
  | _, _ => False

instance instDecidableEnabledIn (s : PollEvents) : (p : PollPhase) → (m : PollMove) → Decidable (s.EnabledIn p m)
  | .scan _, .call | .scan _, .poll _ => inferInstanceAs (Decidable (_ ∧ _))
  | .scan _, .finish => inferInstanceAs (Decidable (_ = _))
  | .reading d _ call, .read m => inferInstanceAs (Decidable (m.Enabled (s.mSensors d) call))
  | .reading _ _ _, .leave => inferInstanceAs (Decidable (_ ≠ _))
  | .scan _, .read _ | .scan _, .leave | .reading _ _ _, .call | .reading _ _ _, .poll _ | .reading _ _ _, .finish
  | .returned _, _ | .pollFailed _, _ => isFalse id

def Enabled (move : PollMove) : Prop := s.EnabledIn s.phase move

instance instDecidableEnabled (s : PollEvents) (move : PollMove) : Decidable (s.Enabled move) :=
  instDecidableEnabledIn s s.phase move

/-- A `pollEvents(data, count)` call on drivers in any state. -/
def machine (mSensors : Driver → SensorBase) (revents : Driver → Bool) (count : Int) :
    Transducer PollEvents PollMove (Int × SensorsEvent) where
  init := start mSensors revents count
  enabled := Enabled
  step := step

instance instDecidableMachineEnabled (mSensors : Driver → SensorBase) (revents : Driver → Bool) (count : Int)
    (s : PollEvents) (move : PollMove) : Decidable ((machine mSensors revents count).enabled s move) :=
  instDecidableEnabled s move

/-! ## The caller's buffer -/

def result : Option Int :=
  match s.phase with
  | .returned nbEvents => some nbEvents
  | .pollFailed errno => some (-errno)
  | _ => none

/-- The stores so far lie in a buffer of `size` events, a driver called has been given a slot and stores no
    more than its slots, and what is returned is an error of `poll` or the number of events stored. -/
structure InBuffer (size : Int) (stores : List (Int × SensorsEvent)) (s : PollEvents) : Prop where
  inside : ∀ w ∈ stores, 0 ≤ w.1 ∧ w.1 < size
  calls : ∀ d rest call, s.phase = .reading d rest call → 1 ≤ call.given ∧ (call.received : Int) ≤ call.given
  result : ∀ v, s.result = some v →
    (∃ errno : Nat, s.phase = .pollFailed errno ∧ v = -errno ∧ v < 0) ∨ (v = stores.length ∧ v ≤ size)

/-- The condition on a step: the step of a driver is sound. -/
def Sound (s : PollEvents) (move : PollMove) : Prop :=
  match s.phase, move with
  | .reading d _ call, .read m => m.Sound (s.mSensors d) call
  | _, _ => True

/-- What holds in each phase, with the number of events stored. -/
def PhaseInv (stored : Nat) : PollPhase → Prop
  | .scan _ => (stored : Int) = s.nbEvents
  | .reading _ _ call => call.InRoom ∧ call.given = s.count ∧ (stored : Int) = s.nbEvents + call.received
  | .returned v => v = stored ∧ v = s.nbEvents
  | .pollFailed errno => 0 < errno

/-- The invariant: `data` and `nbEvents` agree, and with `count` they make up the buffer. -/
structure Inv (size : Int) (stores : List (Int × SensorsEvent)) (s : PollEvents) : Prop where
  offset : s.data = s.nbEvents
  slots : s.nbEvents + s.count = size
  moved : 0 ≤ s.nbEvents
  left : 0 ≤ s.count
  inside : ∀ w ∈ stores, 0 ≤ w.1 ∧ w.1 < size
  phase : s.PhaseInv stores.length s.phase

variable {size : Int} {stores : List (Int × SensorsEvent)} {s : PollEvents}

theorem Inv.inBuffer (h : Inv size stores s) : InBuffer size stores s := by
  have hphase := h.phase
  have hslots := h.slots
  have hleft := h.left
  refine ⟨h.inside, ?_, ?_⟩
  · intro d rest call heq
    rw [heq] at hphase
    have := hphase.1.left
    have := hphase.1.taken
    exact ⟨hphase.1.given, by omega⟩
  · intro v hv
    unfold PollEvents.result at hv
    split at hv
    · rename_i n heq
      rw [heq] at hphase
      obtain ⟨hstored, hnb⟩ := hphase
      rw [← Option.some.inj hv]
      exact .inr ⟨hstored, by omega⟩
    · rename_i errno heq
      rw [heq] at hphase
      have hpos : 0 < errno := hphase
      rw [← Option.some.inj hv]
      exact .inl ⟨errno, heq, rfl, by omega⟩
    · cases hv

theorem start_inv (mSensors : Driver → SensorBase) (revents : Driver → Bool) (hsize : 1 ≤ size) :
    Inv size [] (start mSensors revents size) where
  offset := rfl
  slots := Int.zero_add size
  moved := Int.le_refl 0
  left := by dsimp only [start]; omega
  inside := fun w hw => absurd hw not_mem_nil
  phase := rfl

/-! ### The steps -/

theorem mem_placed {o : Int} {es : List SensorsEvent} {w : Int × SensorsEvent} (h : w ∈ placed o es) :
    o ≤ w.1 ∧ w.1 < o + es.length := by
  induction es generalizing o with
  | nil => cases h
  | cons e es ih =>
    rw [length_cons]
    rcases mem_cons.mp h with rfl | hrest
    · exact ⟨Int.le_refl o, by push_cast; omega⟩
    · have := ih hrest
      exact ⟨by omega, by push_cast; omega⟩

theorem length_placed (o : Int) (es : List SensorsEvent) : (placed o es).length = es.length := by
  induction es generalizing o with
  | nil => rfl
  | cons e es ih => simp [placed, ih]

variable {rest : List Driver}

theorem Inv.call (h : Inv size stores s) {ds : List Driver} {d : Driver} (hphase : s.phase = .scan rest)
    (hcount : s.count ≠ 0) : Inv size stores { s with phase := .reading d ds (.start s.count) } := by
  have hscan := h.phase
  rw [hphase] at hscan
  have hleft := h.left
  refine { h with phase := ⟨ReadCall.start_inRoom (by omega), rfl, ?_⟩ }
  rw [show (stores.length : Int) = s.nbEvents from hscan]
  exact (Int.add_zero _).symm

theorem Inv.polled (h : Inv size stores s) (hphase : s.phase = .scan rest) {reply : PollReply}
    (hreal : reply.isReal = true) : Inv size stores (s.polled reply) := by
  have hscan := h.phase
  rw [hphase] at hscan
  have hnb : (stores.length : Int) = s.nbEvents := hscan
  cases reply with
  | failed errno =>
    have hpos : 0 < errno := of_decide_eq_true hreal
    exact { h with phase := hpos }
  | ready n revents =>
    refine { h with phase := ?_ }
    show PhaseInv _ _ (if n ≠ 0 then .scan Driver.all else .returned s.nbEvents)
    split
    · exact hnb
    · exact ⟨hnb.symm, rfl⟩

theorem Inv.finish (h : Inv size stores s) (hphase : s.phase = .scan rest) :
    Inv size stores { s with phase := .returned s.nbEvents } := by
  have hscan := h.phase
  rw [hphase] at hscan
  exact { h with phase := ⟨hscan.symm, rfl⟩ }

theorem Inv.readStep (h : Inv size stores s) {d : Driver} {call : ReadCall} (hphase : s.phase = .reading d rest call)
    {m : ReadMove} (hen : m.Enabled (s.mSensors d) call) (hsound : m.Sound (s.mSensors d) call) :
    Inv size (stores ++ (s.readStep d rest call m).2) (s.readStep d rest call m).1 := by
  have hread := h.phase
  rw [hphase] at hread
  obtain ⟨hroom, hgiven, hstored⟩ := hread
  have hroom' := ReadMove.step_inRoom hroom hen hsound
  obtain ⟨hsame, hreceived⟩ := ReadMove.step_counts (s.mSensors d) call m
  have hoffset := h.offset
  have hslots := h.slots
  have hleft' := hroom'.left
  have htaken' := hroom'.taken
  refine { h with inside := ?_, phase := ⟨hroom', hsame.trans hgiven, ?_⟩ }
  · intro w hw
    rcases mem_append.mp hw with hold | hnew
    · exact h.inside w hold
    · have hplaced := mem_placed hnew
      exact ⟨by omega, by omega⟩
  · show (((stores ++ placed _ _).length : Nat) : Int) = s.nbEvents + _
    rw [length_append, length_placed]
    omega

theorem Inv.account (h : Inv size stores s) {d : Driver} {call : ReadCall} (hphase : s.phase = .reading d rest call)
    {nb : Int} (hnb : call.result (s.mSensors d) = some nb) : Inv size stores (s.account d rest nb) := by
  have hread := h.phase
  rw [hphase] at hread
  obtain ⟨hroom, hgiven, hstored⟩ := hread
  have hreturned := hroom.returns hnb
  have hoffset := h.offset
  have hslots := h.slots
  have hleft := hroom.left
  have htaken := hroom.taken
  refine ⟨?_, ?_, ?_, ?_, h.inside, ?_⟩
  · show s.data + nb = s.nbEvents + nb
    omega
  · show s.nbEvents + nb + (s.count - nb) = size
    omega
  · show 0 ≤ s.nbEvents + nb
    omega
  · show 0 ≤ s.count - nb
    omega
  · show (stores.length : Int) = s.nbEvents + nb
    omega

theorem Inv.step (h : Inv size stores s) {move : PollMove} (hen : s.Enabled move) (hsound : s.Sound move) :
    Inv size (stores ++ (s.step move).2) (s.step move).1 := by
  unfold Enabled at hen
  unfold Sound at hsound
  unfold PollEvents.step
  cases hphase : s.phase with
  | scan rest =>
    rw [hphase] at hen hsound
    cases move with
    | call =>
      dsimp only at hen ⊢
      cases hnext : s.upcoming rest with
      | nil => exact absurd hnext hen.2
      | cons d ds => rw [append_nil]; exact h.call hphase hen.1
    | poll reply => rw [append_nil]; exact h.polled hphase hen.2.2
    | finish => rw [append_nil]; exact h.finish hphase
    | read m | leave => exact hen.elim
  | reading d rest call =>
    rw [hphase] at hen hsound
    cases move with
    | read m => exact h.readStep hphase hen hsound
    | leave =>
      dsimp only at hen ⊢
      cases hnb : call.result (s.mSensors d) with
      | none => exact absurd hnb hen
      | some nb => rw [append_nil]; exact h.account hphase hnb
    | call | poll reply | finish => exact hen.elim
  | returned v | pollFailed errno => rw [hphase] at hen; cases move <;> exact hen.elim

/-- **The poll loop stays in the caller's buffer** in every run in which each read of an input device brings
    whole events and the gesture driver has a slot for every sensor an `EV_SYN` makes it hand on. -/
theorem pollEvents_inBuffer {mSensors : Driver → SensorBase} {revents : Driver → Bool} (hsize : 1 ≤ size)
    {tr : List (Entry PollEvents PollMove (Int × SensorsEvent))}
    (hrun : (machine mSensors revents size).Run tr s) (hsound : ∀ x ∈ tr, Sound x.pre x.event) :
    InBuffer size (outs tr) s := by
  refine Inv.inBuffer ?_
  refine hrun.invariant_along (I := fun tr s => Inv size (outs tr) s)
    (C := fun x => Sound x.pre x.event) ?_ ?_ hsound
  · exact start_inv mSensors revents hsize
  intro tr s move hinv hen hlast
  rw [Transducer.outs_append, Transducer.outs_singleton]
  exact hinv.step hen hlast

/-! ### Runs on fixed inputs -/

/-- A HAL without a batch driver whose light sensor is enabled. -/
def lightOn : Driver → SensorBase :=
  Function.update (sensors 32 (.new false fun _ => 1)) .light
    (.single .ambiLightSensor { SingleSensor.new .ambiLightSensor 32 with mEnabled := true })

def endOfFrame : ReadReply := .events [⟨0, .syn, 0, 0⟩]

def quiet : Surroundings := ⟨1, 1, fun _ => true, [], fun _ _ => 0⟩

def lightRun : List PollMove := [.call, .read .enter, .read (.fill endOfFrame), .read (.pass quiet), .leave, .finish]

theorem pollEvents_inBuffer_light :
    InBuffer 1 (outs ((machine lightOn (fun d => d = .light) 1).exec lightRun).1)
      ((machine lightOn (fun d => d = .light) 1).exec lightRun).2 := by
  have hadm : (machine lightOn (fun d => d = .light) 1).Admissible (machine lightOn (fun d => d = .light) 1).init
      lightRun := by decide
  have hrun := run_exec _ hadm
  refine pollEvents_inBuffer (by decide) hrun (Transducer.exec_along _ ?_)
  exact ⟨trivial, trivial, .inl (.inr ⟨_, rfl⟩), trivial, trivial, trivial, trivial⟩

/-- The accelerometer's read fails with error 5; then the light sensor stores its event. -/
def failedRun : List PollMove :=
  [.call, .read .enter, .read (.fill (.failed 5)), .leave,
    .call, .read .enter, .read (.fill endOfFrame), .read (.pass quiet)]

/-- After the failed read the light sensor's event is stored five events in front of the buffer. -/
theorem pollEvents_overrun :
    ¬ ∀ tr s, (machine lightOn (fun d => d = .accel ∨ d = .light) 1).Run tr s → InBuffer 1 (outs tr) s := by
  intro h
  have hadm : (machine lightOn (fun d => d = .accel ∨ d = .light) 1).Admissible
      (machine lightOn (fun d => d = .accel ∨ d = .light) 1).init failedRun := by decide
  have hrun := run_exec _ hadm
  have hfirst : ((outs ((machine lightOn (fun d => d = .accel ∨ d = .light) 1).exec failedRun).1).map
      Prod.fst) = [-5] := by decide
  obtain ⟨w, hw, hoffset⟩ := mem_map.mp (hfirst ▸ mem_singleton_self (-5))
  have := ((h _ _ hrun).inside w hw).1
  omega

end PollEvents

end HuaweiY5.Sensors
