import HuaweiY5.Sensors.SingleSensor

/-!
# `Sensors.SharedSensor` — the drivers that do more than hand on one event a frame

Four drivers have an event loop of their own: humidity, the magnetic field with the orientation, the step
sensors, and in-pocket with stationary. Each has its bound on the events stored by a pass.
-/

namespace HuaweiY5.Sensors

/-! ## Events made up for a gap -/

/-- The fill-in loop of the humidity driver and of the old architecture's driver: one event for every delay between
    the last frame and this one, oldest first, if `recent` accepts its age, until no slot is left. -/
def fillIn (time delay : Int) (recent : Int → Bool) : Nat → SensorsEvent → Int → Pass SensorsEvent
  | 0, e, count => .keep e count
  | k + 1, e, count =>
    let e := { e with timestamp := time - (k + 1) * delay }
    if recent (time - e.timestamp) then
      if count - 1 = 0 then ⟨e, [e], count - 1⟩
      else (Pass.mk e [e] (count - 1)).andThen (fillIn time delay recent k)
    else fillIn time delay recent k e count

variable (time delay : Int) (recent : Int → Bool)

/-- The loop is run for one to ninety-nine missed frames. -/
def makeUp (loopcout : Int) (e : SensorsEvent) (count : Int) :
    Pass SensorsEvent :=
  if 1 ≤ loopcout ∧ loopcout < 100 then fillIn time delay recent loopcout.toNat e count else .keep e count

def ownEvent (time : Int) (e : SensorsEvent) (count : Int) : Pass SensorsEvent :=
  if count ≠ 0 then
    let e := { e with timestamp := time }
    ⟨e, [e], count - 1⟩
  else .keep e count

theorem fillIn_inRoom (k : Nat) (e : SensorsEvent) {count : Int}
    (h : 1 ≤ count) : (fillIn time delay recent k e count).InRoom count := by
  induction k generalizing e count with
  | zero => exact Pass.idle_inRoom e h
  | succ k ih =>
    unfold fillIn
    dsimp only
    split
    · split
      · exact Pass.store_inRoom _ _ h
      · exact (Pass.store_inRoom _ _ h).andThen (ih _ (by dsimp only; omega))
    · exact ih _ h

theorem makeUp_inRoom (loopcout : Int) (e : SensorsEvent) {count : Int}
    (h : 1 ≤ count) : (makeUp time delay recent loopcout e count).InRoom count := by
  unfold makeUp
  split
  · exact fillIn_inRoom time delay recent _ e h
  · exact Pass.idle_inRoom e h

theorem ownEvent_inRoom (time : Int) (e : SensorsEvent) {count : Int} (h : 0 ≤ count) :
    (ownEvent time e count).InRoom count := by
  unfold ownEvent
  split
  · exact Pass.store_inRoom _ _ (by omega)
  · exact Pass.keep_inRoom e h

/-! ## Humidity -/

structure HumiditySensor where
  mInputReader : InputEventCircularReader
  mEnabled : Bool
  mEnabledTime : Int
  mDataDiv : Int
  mPendingEvent : SensorsEvent
  mHmdyLastTs : Int
  mHmdyDelay : Int

namespace HumiditySensor

def new (numEvents : Nat) : HumiditySensor :=
  ⟨.new numEvents, false, 0, 1, .pending idHumidity typeHumidity, 0, 0⟩

variable (env : Surroundings)

def enable (handle : Int) (en : Bool) (s : HumiditySensor) : HumiditySensor × Int :=
  if env.opens handle then
    (if en then
      { s with
        mEnabled := true, mEnabledTime := env.elapsedRealtimeNano + ignoreEventTime, mHmdyLastTs := 0 }
    else { s with mEnabled := false }, 0)
  else (s, -1)

def processEvent (code : Nat) (value : Int) (s : HumiditySensor) : HumiditySensor :=
  if code = codeX then
    { s with mPendingEvent :=
      { s.mPendingEvent with data := s.mPendingEvent.data.set 0 ⟨value, s.mDataDiv⟩ } }
  else s

/-- The events of a frame: those made up for the gap if they are not too old, then the frame's own. -/
def frame (time count : Int) (s : HumiditySensor) : Pass SensorsEvent :=
  let loopcout := env.quotient (s.mPendingEvent.timestamp - s.mHmdyLastTs) s.mHmdyDelay
  (makeUp time s.mHmdyDelay (fun age => decide (age < 450000000)) loopcout s.mPendingEvent count).andThen
    (ownEvent time)

/-- The rule at `EV_SYN`: an enabled driver takes a slot even for a frame it does not store. -/
def syn (count : Int) (s : HumiditySensor) : Pass HumiditySensor :=
  let time := env.elapsedRealtimeNano
  let s := { s with mPendingEvent := { s.mPendingEvent with timestamp := time } }
  if s.mEnabled then
    if s.mPendingEvent.timestamp ≥ s.mEnabledTime then
      let p := s.frame env time count
      ⟨{ s with mPendingEvent := p.sensor, mHmdyLastTs := p.sensor.timestamp }, p.stored, p.count⟩
    else ⟨{ s with mHmdyLastTs := time }, [], count - 1⟩
  else .keep { s with mHmdyLastTs := time } count

/-- One event of the loop, before `next`. -/
def handle (event : InputEvent) (count : Int) (s : HumiditySensor) : Pass HumiditySensor :=
  if event.type = .abs ∨ event.type = .rel then .keep (s.processEvent event.code event.value) count
  else if event.type = .syn then s.syn env count
  else .keep s count

def pass (count : Int) (s : HumiditySensor) : Pass HumiditySensor :=
  let p := s.handle env s.mInputReader.event count
  { p with sensor := { p.sensor with mInputReader := p.sensor.mInputReader.next } }

variable {env : Surroundings} {count : Int}

theorem syn_inRoom (s : HumiditySensor) (h : 1 ≤ count) : (s.syn env count).InRoom count := by
  unfold syn
  dsimp only
  split
  · split
    · refine Pass.InRoom.of_eq (p := frame _ _ _ _) ?_ rfl rfl
      have hgap := makeUp_inRoom env.elapsedRealtimeNano s.mHmdyDelay (fun age => decide (age < 450000000))
        (env.quotient (env.elapsedRealtimeNano - s.mHmdyLastTs) s.mHmdyDelay)
        { s.mPendingEvent with timestamp := env.elapsedRealtimeNano } h
      exact hgap.andThen (ownEvent_inRoom _ _ hgap.left)
    · exact Pass.skip_inRoom _ h
  · exact Pass.idle_inRoom _ h

/-- **A pass of the humidity driver stores no more than the slots it takes.** -/
theorem pass_inRoom (s : HumiditySensor) (h : 1 ≤ count) : (s.pass env count).InRoom count := by
  refine Pass.InRoom.of_eq (p := s.handle env s.mInputReader.event count) ?_ rfl rfl
  exact Pass.event_inRoom h fun _ => syn_inRoom s h

end HumiditySensor

/-! ## Magnetic field and orientation -/

/-- `MagneticSensor`: index 0 is the magnetic field, index 1 the orientation. -/
structure MagneticSensor where
  mInputReader : InputEventCircularReader
  mPendingMask : BitVec 32
  mEnabledTime : Nat → Int
  mDataDiv : Nat → Int
  mPendingEvent : Nat → SensorsEvent
  mAllInputDataCompleteFlag : Nat → Nat

namespace MagneticSensor

/-- The driver as its constructor leaves it, before the divisors are read from the kernel. -/
def new (numEvents : Nat) : MagneticSensor :=
  ⟨.new numEvents, 0, fun _ => 0, fun _ => 1,
    fun j => if j = 0 then .pending idMagnetic typeMagneticField else .pending idOrientation typeOrientation,
    fun _ => 0⟩

/-- `enable`: what matters to the events is the time. -/
def enable (env : Surroundings) (handle : Int) (en : Bool) (s : MagneticSensor) : MagneticSensor × Int :=
  if env.opens handle then
    let index := if handle = idOrientation then 1 else 0
    (if en then
      { s with
        mEnabledTime := Function.update s.mEnabledTime index (env.elapsedRealtimeNano + ignoreEventTime) }
    else s, 0)
  else (s, -1)

/-- A case of `processEvent`: the sensor it is about, whether it marks that sensor pending, the member it
    assigns and the value of the completeness flag. -/
structure MagneticCase where
  type : EventType
  code : Nat
  index : Nat
  marks : Bool
  member : Option Member
  flag : Option Nat
  deriving DecidableEq

/-- The cases of `processEvent` (`EVENT_TYPE_MAG_*`, `EVENT_TYPE_ORIENT_*`). -/
def cases : List MagneticCase :=
  [⟨.abs, absWheel, 0, true, some .status, some 4⟩, ⟨.abs, codeX, 0, true, some (.data 0 .dataDiv), some 1⟩,
    ⟨.abs, codeY, 0, true, some (.data 1 .dataDiv), some 2⟩, ⟨.abs, codeZ, 0, true, some (.data 2 .dataDiv), some 3⟩,
    ⟨.abs, absThrottle, 1, true, some .status, some 4⟩, ⟨.abs, codeRx, 1, true, some (.data 0 .dataDiv), some 1⟩,
    ⟨.abs, codeRy, 1, true, some (.data 1 .dataDiv), some 2⟩, ⟨.abs, codeRz, 1, true, some (.data 2 .dataDiv), some 3⟩,
    ⟨.rel, codeX, 0, true, none, none⟩, ⟨.rel, relHwheel, 0, false, some .timestampHi, some 6⟩,
    ⟨.rel, relDial, 0, false, some .timestampLo, some 7⟩, ⟨.rel, codeRx, 1, true, none, none⟩,
    ⟨.rel, relWheel, 1, false, some .timestampHi, some 6⟩, ⟨.rel, relMisc, 1, false, some .timestampLo, some 7⟩]

def assign (s : MagneticSensor) (j : Nat) (value : Int) : Member → SensorsEvent
  | .data i _ =>
    { s.mPendingEvent j with data := (s.mPendingEvent j).data.set i ⟨value, s.mDataDiv j⟩ }
  | .distance => s.mPendingEvent j
  | .status => { s.mPendingEvent j with status := value }
  | .timestampHi => { s.mPendingEvent j with timestamp := Sensors.timestampHi (s.mPendingEvent j).timestamp value }
  | .timestampLo => { s.mPendingEvent j with timestamp := Sensors.timestampLo (s.mPendingEvent j).timestamp value }

def processEvent (type : EventType) (code : Nat) (value : Int) (s : MagneticSensor) : MagneticSensor :=
  match cases.find? (fun k => k.type = type ∧ k.code = code) with
  | some k =>
    { s with
      mPendingMask := if k.marks then setBit s.mPendingMask k.index else s.mPendingMask
      mPendingEvent := Function.update s.mPendingEvent k.index
        ((k.member.map (s.assign k.index value)).getD (s.mPendingEvent k.index))
      mAllInputDataCompleteFlag := Function.update s.mAllInputDataCompleteFlag k.index
        (k.flag.getD (s.mAllInputDataCompleteFlag k.index)) }
  | none => s

/-- Sensor `j` at `EV_SYN`: a complete frame newer than the enabling is stored. -/
def deliver (j : Nat) (s : MagneticSensor) (count : Int) : Pass MagneticSensor :=
  let s := { s with mPendingMask := clearBit s.mPendingMask j }
  if s.mAllInputDataCompleteFlag j = SingleSensor.allComplete then
    let s := { s with mAllInputDataCompleteFlag := Function.update s.mAllInputDataCompleteFlag j 0 }
    let e := s.mPendingEvent j
    if e.timestamp > s.mEnabledTime j then
      ⟨{ s with mPendingEvent := Function.update s.mPendingEvent j { e with timestamp := 0 } }, [e], count - 1⟩
    else .keep s count
  else .keep s count

/-- The loop over the sensors at `EV_SYN`: while slots are left and something is pending. -/
def deliverAll : List Nat → MagneticSensor → Int → Pass MagneticSensor
  | [], s, count => .keep s count
  | j :: js, s, count =>
    if count ≠ 0 ∧ s.mPendingMask ≠ 0 then
      (if hasBit s.mPendingMask j then s.deliver j count else .keep s count).andThen (deliverAll js)
    else .keep s count

/-- `mInputReader.next()`. -/
def next (s : MagneticSensor) : MagneticSensor := { s with mInputReader := s.mInputReader.next }

/-- One pass of the event loop: an `EV_SYN` with a sensor still pending stays in the ring. -/
def pass (count : Int) (s : MagneticSensor) : Pass MagneticSensor :=
  let event := s.mInputReader.event
  if event.type = .abs ∨ event.type = .rel then .keep (s.processEvent event.type event.code event.value).next count
  else if event.type = .syn then
    let p := deliverAll [0, 1] s count
    if p.sensor.mPendingMask = 0 then { p with sensor := p.sensor.next } else p
  else .keep s.next count

variable {count : Int}

theorem deliver_inRoom (s : MagneticSensor) (j : Nat) (h : 1 ≤ count) : (s.deliver j count).InRoom count := by
  unfold deliver
  dsimp only
  split
  · split
    · exact Pass.store_inRoom _ _ h
    · exact Pass.idle_inRoom _ h
  · exact Pass.idle_inRoom _ h

theorem deliverAll_inRoom (js : List Nat) (s : MagneticSensor) (h : 0 ≤ count) :
    (deliverAll js s count).InRoom count := by
  induction js generalizing s count with
  | nil => exact Pass.keep_inRoom s h
  | cons j js ih =>
    unfold deliverAll
    split
    · rename_i hmore
      refine Pass.InRoom.andThen (p := if hasBit s.mPendingMask j then s.deliver j count else .keep s count) ?_ ?_
      · split
        · exact deliver_inRoom s j (by omega)
        · exact Pass.keep_inRoom s h
      · refine ih _ ?_
        split
        · exact (deliver_inRoom s j (by omega)).left
        · exact h
    · exact Pass.keep_inRoom s h

/-- **A pass of the magnetic driver stores no more than the slots it takes.** -/
theorem pass_inRoom (s : MagneticSensor) (h : 1 ≤ count) : (s.pass count).InRoom count := by
  have hall := deliverAll_inRoom [0, 1] s (show 0 ≤ count by omega)
  refine Pass.event_inRoom h fun _ => ?_
  dsimp only
  split
  · exact hall.of_eq rfl rfl
  · exact hall

end MagneticSensor

/-! ## Step counter, step detector and significant motion -/

/-- `StepCounterSensor`: `mEnabled` has one bit for each of its three handles, and there is one pending
    event for all of them. -/
structure StepCounterSensor where
  mInputReader : InputEventCircularReader
  mEnabled : BitVec 32
  mEnabledTime : Int
  mPendingEvent : SensorsEvent

namespace StepCounterSensor

def new (numEvents : Nat) : StepCounterSensor :=
  ⟨.new numEvents, 0, 0, .pending idStepCounter typeStepCounter⟩

/-- `enable`: the handle's bit, if the control file opens. -/
def enable (opens : Bool) (handle : Int) (en : Bool) (s : StepCounterSensor) : StepCounterSensor × Int :=
  if opens then
    ({ s with mEnabled := if en then setBit s.mEnabled handle.toNat else clearBit s.mEnabled handle.toNat }, 0)
  else (s, -1)

def reportSensor (code : Nat) : Option Int :=
  if code = codeX then some idStepCounter
  else if code = codeY then some idStepDetector
  else if code = codeZ then some idSignificantMotion
  else none

/-- The sensor an event reports for, if it is a report. -/
def report (event : InputEvent) : Option Int :=
  if event.type = .abs ∨ event.type = .rel then reportSensor event.code else none

/-- `processEvent`: a report names the sensor of the pending event. -/
def processEvent (code : Nat) (value : Int) (s : StepCounterSensor) : StepCounterSensor :=
  if code = codeX then
    { s with mPendingEvent :=
      { s.mPendingEvent with sensor := idStepCounter, type := typeStepCounter, stepCounter := value } }
  else if code = codeY then
    { s with mPendingEvent :=
      { s.mPendingEvent with
        sensor := idStepDetector, type := typeStepDetector, data := s.mPendingEvent.data.set 0 (.ofInt value) } }
  else if code = codeZ then
    { s with mPendingEvent :=
      { s.mPendingEvent with
        sensor := idSignificantMotion, type := typeSignificantMotion
        data := s.mPendingEvent.data.set 0 (.ofInt value) } }
  else s

variable (env : Surroundings)

/-- The rule at `EV_SYN`: if any of the three sensors is enabled, the pending event is handed on. -/
def syn (count : Int) (s : StepCounterSensor) : Pass StepCounterSensor :=
  let s := { s with mPendingEvent := { s.mPendingEvent with timestamp := env.elapsedRealtimeNano } }
  if s.mEnabled ≠ 0 then
    if s.mPendingEvent.timestamp ≥ s.mEnabledTime then
      let s' := if s.mPendingEvent.sensor = idSignificantMotion then
        (s.enable (env.opens idSignificantMotion) idSignificantMotion false).1 else s
      ⟨s', [s.mPendingEvent], count - 1⟩
    else ⟨s, [], count - 1⟩
  else .keep s count

/-- One event of the loop, before `next`. -/
def handle (event : InputEvent) (count : Int) (s : StepCounterSensor) :
    Pass StepCounterSensor :=
  if event.type = .abs ∨ event.type = .rel then .keep (s.processEvent event.code event.value) count
  else if event.type = .syn then s.syn env count
  else .keep s count

def pass (count : Int) (s : StepCounterSensor) : Pass StepCounterSensor :=
  let p := s.handle env s.mInputReader.event count
  { p with sensor := { p.sensor with mInputReader := p.sensor.mInputReader.next } }

/-- **A pass of the step counter driver stores no more than the slots it takes.** -/
theorem pass_inRoom {env : Surroundings} {count : Int} (s : StepCounterSensor) (h : 1 ≤ count) :
    (s.pass env count).InRoom count := by
  refine Pass.InRoom.of_eq (p := s.handle env s.mInputReader.event count) ?_ rfl rfl
  refine Pass.event_inRoom h fun _ => ?_
  unfold syn
  dsimp only
  split
  · split
    · exact Pass.store_inRoom _ _ h
    · exact Pass.skip_inRoom _ h
  · exact Pass.idle_inRoom _ h

end StepCounterSensor

/-! ## In-pocket and stationary -/

/-- `GestureSensor`: index 0 is in-pocket, index 1 stationary. -/
structure GestureSensor where
  mInputReader : InputEventCircularReader
  mEnabled : BitVec 64
  mEnabledTime : Int
  mPendingMask : BitVec 64
  mPendingEvents : Nat → SensorsEvent

namespace GestureSensor

def new (numEvents : Nat) : GestureSensor :=
  ⟨.new numEvents, 0, 0, 0,
    fun i => if i = 0 then .pending idInPocket typeInPocket else .pending idStationary typeStationary⟩

/-- `HandleToIndex`; the source's -1 is `none`. -/
def handleToIndex (handle : Int) : Option Nat :=
  if handle = idInPocket then some 0 else if handle = idStationary then some 1 else none

def indexToHandle (index : Nat) : Int :=
  if index = 0 then idInPocket else if index = 1 then idStationary else -1

variable (env : Surroundings)

def enable (handle : Int) (en : Bool) (s : GestureSensor) : GestureSensor × Int :=
  if env.opens handle then
    match handleToIndex handle with
    | some index =>
      (if en then
        { s with
          mEnabled := setBit s.mEnabled index
          mEnabledTime := env.elapsedRealtimeNano + ignoreEventTime }
      else { s with mEnabled := clearBit s.mEnabled index }, 0)
    | none => (s, -1)
  else (s, -1)

/-- `processEvent` and `SelectGestureEvent`: a value marks its sensor pending. -/
def processEvent (code : Nat) (value : Int) (s : GestureSensor) : GestureSensor :=
  if code = 1 ∨ code = 2 then
    let i := code - 1
    { s with
      mPendingEvents := Function.update s.mPendingEvents i
        { s.mPendingEvents i with data := (s.mPendingEvents i).data.set 0 (.ofInt value) }
      mPendingMask := setBit s.mPendingMask i }
  else s

/-- Sensor `i` has a value and is enabled. -/
def waiting (s : GestureSensor) (i : Nat) : Bool := hasBit s.mEnabled i && hasBit s.mPendingMask i

/-- Sensor `i` at `EV_SYN`: stored unless it was enabled too recently; it then disables itself. -/
def deliver (i : Nat) (s : GestureSensor) (count : Int) : Pass GestureSensor :=
  if s.waiting i then
    if env.elapsedRealtimeNano ≥ s.mEnabledTime then
      let e := { s.mPendingEvents i with timestamp := env.elapsedRealtimeNano }
      let s := { s with
        mPendingEvents := Function.update s.mPendingEvents i e
        mPendingMask := clearBit s.mPendingMask i }
      ⟨(s.enable env (indexToHandle i) false).1, [e], count - 1⟩
    else ⟨s, [], count - 1⟩
  else .keep s count

/-- The rule at `EV_SYN`: both sensors, whatever `count` is. -/
def syn (count : Int) (s : GestureSensor) : Pass GestureSensor :=
  (s.deliver env 0 count).andThen (deliver env 1)

/-- One event of the loop, before `next`. -/
def handle (event : InputEvent) (count : Int) (s : GestureSensor) : Pass GestureSensor :=
  if event.type = .rel then .keep (s.processEvent event.code event.value) count
  else if event.type = .syn then s.syn env count
  else .keep s count

def pass (count : Int) (s : GestureSensor) : Pass GestureSensor :=
  let p := s.handle env s.mInputReader.event count
  { p with sensor := { p.sensor with mInputReader := p.sensor.mInputReader.next } }

/-- The slots an `EV_SYN` will take. -/
def demand (s : GestureSensor) : Nat := (s.waiting 0).toNat + (s.waiting 1).toNat

variable {env : Surroundings} {count : Int}

variable (s : GestureSensor)

theorem deliver_waiting_one : (s.deliver env 0 count).sensor.waiting 1 = s.waiting 1 := by
  unfold deliver
  split
  · split
    · have hmask : hasBit (clearBit s.mPendingMask 0) 1 = hasBit s.mPendingMask 1 := by
        simp [hasBit_clearBit]
      have henabled : hasBit (clearBit s.mEnabled 0) 1 = hasBit s.mEnabled 1 := by
        simp [hasBit_clearBit]
      simp only [enable, indexToHandle, handleToIndex, waiting, if_true]
      split
      · simp [hmask, henabled]
      · simp [hmask]
    · rfl
  · rfl

theorem deliver_inRoom (i : Nat) (h : ((s.waiting i).toNat : Int) ≤ count) :
    (s.deliver env i count).InRoom count ∧ (s.deliver env i count).count = count - (s.waiting i).toNat := by
  unfold deliver
  cases hw : s.waiting i with
  | false => exact ⟨Pass.keep_inRoom _ (by rw [hw] at h; simpa using h), by simp [Pass.keep]⟩
  | true =>
    have hone : 1 ≤ count := by rw [hw] at h; simpa using h
    simp only [if_true]
    split
    · exact ⟨Pass.store_inRoom _ _ hone, rfl⟩
    · exact ⟨Pass.skip_inRoom _ hone, rfl⟩

/-- **At an `EV_SYN` the gesture driver needs a slot for each sensor it waits to hand on.** -/
theorem syn_inRoom (h : (s.demand : Int) ≤ count) : (s.syn env count).InRoom count := by
  unfold demand at h
  have hfirst : (s.deliver env 0 count).InRoom count ∧ _ := deliver_inRoom s 0 (by omega)
  obtain ⟨hroom, hcount⟩ := hfirst
  refine hroom.andThen (deliver_inRoom _ 1 ?_).1
  rw [deliver_waiting_one]
  omega

/-- With both sensors waiting and one slot left, both events are stored and `count` becomes -1. -/
example :
    let p := ({ new 32 with mEnabled := 3, mPendingMask := 3 } : GestureSensor).syn
      ⟨0, 0, fun _ => true, [], fun _ _ => 0⟩ 1
    p.stored.length = 2 ∧ p.count = -1 := by
  decide

theorem pass_inRoom (h : 1 ≤ count)
    (hsyn : s.mInputReader.event.type = .syn → (s.demand : Int) ≤ count) : (s.pass env count).InRoom count := by
  refine Pass.InRoom.of_eq (p := s.handle env s.mInputReader.event count) ?_ rfl rfl
  exact Pass.event_inRoom h fun heq => syn_inRoom s (hsyn heq)

end GestureSensor

end HuaweiY5.Sensors
