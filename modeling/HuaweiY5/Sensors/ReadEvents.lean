import HuaweiY5.Sensors.BatchSensor

/-!
# `Sensors.ReadEvents` — a `readEvents` call, step by step

The poll loop holds its drivers as `SensorBase` pointers; `SensorBase` is that, with the virtual calls as
matches. A `readEvents(data, count)` call is a small machine of its own: it may ask the batch driver for
records, it fills the ring from the input device, and it passes through its event loop. Neither loop need
end, so the call is modelled by its steps (`ReadMove`) and not by a function.
-/

namespace HuaweiY5.Sensors

inductive SensorBase
  | batch (s : BatchSensor)
  | hwmsen (s : Hwmsen)
  | magnetic (s : MagneticSensor)
  | humidity (s : HumiditySensor)
  | stepCounter (s : StepCounterSensor)
  | gesture (s : GestureSensor)
  | single (c : SensorClass) (s : SingleSensor)

namespace SensorBase

def mInputReader : SensorBase → InputEventCircularReader
  | .batch s | .hwmsen s | .magnetic s | .humidity s | .stepCounter s | .gesture s | .single _ s => s.mInputReader

def withReader (r : InputEventCircularReader) : SensorBase → SensorBase
  | .batch s => .batch { s with mInputReader := r }
  | .hwmsen s => .hwmsen { s with mInputReader := r }
  | .magnetic s => .magnetic { s with mInputReader := r }
  | .humidity s => .humidity { s with mInputReader := r }
  | .stepCounter s => .stepCounter { s with mInputReader := r }
  | .gesture s => .gesture { s with mInputReader := r }
  | .single c s => .single c { s with mInputReader := r }

def hasPendingEvents : SensorBase → Bool
  | .batch s | .hwmsen s => s.mHasPendingEvent
  | _ => false

def pass (env : Surroundings) (count : Int) : SensorBase → Pass SensorBase
  | .batch s => (s.pass count).map .batch
  | .hwmsen s => (s.pass env count).map .hwmsen
  | .magnetic s => (s.pass count).map .magnetic
  | .humidity s => (s.pass env count).map .humidity
  | .stepCounter s => (s.pass env count).map .stepCounter
  | .gesture s => (s.pass env count).map .gesture
  | .single c s => (s.pass env c count).map (.single c)

def more (received : Nat) (count : Int) : SensorBase → Bool
  | .single c s => s.more c received count
  | s => decide (count ≠ 0) && s.mInputReader.readEvent

theorem more_count_ne_zero {received : Nat} {count : Int} {s : SensorBase} (h : s.more received count = true) :
    count ≠ 0 := by
  cases s with
  | single c s => exact SingleSensor.more_count_ne_zero h
  | batch s | hwmsen s | magnetic s | humidity s | stepCounter s | gesture s =>
    exact of_decide_eq_true (Bool.and_eq_true_iff.mp h).1

/-- The gesture driver has a slot for every sensor an `EV_SYN` at the head of its ring will take. -/
def HasSlots (count : Int) : SensorBase → Prop
  | .gesture s => s.mInputReader.event.type = .syn → (s.demand : Int) ≤ count
  | _ => True

/-- **One pass of any driver stores no more than the slots it takes**, the gesture driver's if it has them. -/
theorem pass_inRoom {env : Surroundings} {count : Int} (s : SensorBase) (h : 1 ≤ count) (hslots : s.HasSlots count) :
    (s.pass env count).InRoom count := by
  cases s with
  | batch s => exact (BatchSensor.pass_inRoom s h).of_eq rfl rfl
  | hwmsen s => exact (Hwmsen.pass_inRoom s h).of_eq rfl rfl
  | magnetic s => exact (MagneticSensor.pass_inRoom s h).of_eq rfl rfl
  | humidity s => exact (HumiditySensor.pass_inRoom s h).of_eq rfl rfl
  | stepCounter s => exact (StepCounterSensor.pass_inRoom s h).of_eq rfl rfl
  | gesture s => exact (GestureSensor.pass_inRoom s h hslots).of_eq rfl rfl
  | single c s => exact (SingleSensor.pass_inRoom s h).of_eq rfl rfl

end SensorBase

/-! ## A call under way -/

/-- Where a `readEvents` call is; a scan is at the test of its loop over the handles or at that of its loop over a
    handle's requests. -/
inductive Stage
  | entered
  | scanning (handle : Int)
  | answering (handle : Int)
  | querying
  | filling
  | draining
  | done (result : Int)
  deriving DecidableEq

/-- The flush requests are being scanned. -/
def Stage.isScanning : Stage → Bool
  | .scanning _ | .answering _ => true
  | _ => false

/-- A `readEvents(data, count)` call: the count it was given, the slots left, `numEventReceived` (every event
    stored is counted at once, so the call's `data` has moved by as many), and where it is. -/
structure ReadCall where
  given : Int
  count : Int
  received : Nat
  stage : Stage
  deriving DecidableEq

def ReadCall.start (count : Int) : ReadCall := ⟨count, count, 0, .entered⟩

/-- One step of a call, with what it takes from the system. -/
inductive ReadMove
  | enter
  | scan (now : Int)
  | query (reply : BatchSensor.BatchReply) (cells : Nat → SensorsEvent)
  | fill (reply : ReadReply)
  | pass (env : Surroundings)

/-- What a step leaves: the driver, the call, the events stored and the array accesses made. -/
structure Moved where
  sensor : SensorBase
  call : ReadCall
  stored : List SensorsEvent
  accesses : List ArrayAccess

def Moved.stay (s : SensorBase) (r : ReadCall) (stage : Stage) : Moved := ⟨s, { r with stage := stage }, [], []⟩

namespace ReadMove

def firstStage : SensorBase → Stage
  | .batch b => if b.mdataFd then .querying else .scanning 0
  | _ => .filling

variable (s : SensorBase) (r : ReadCall) (b : BatchSensor)

/-- Before the loops: a count below 1 is an error, except where the flush requests are scanned. -/
def enterStage : Stage :=
  if r.count < 1 ∧ firstStage s ≠ .scanning 0 then .done (-einval) else firstStage s

/-- The test of the loop over the handles, and what follows the loop. -/
def scanStep (r : ReadCall) (handle : Int) : Moved :=
  if handle < idSensorMaxHandle ∧ r.count ≠ 0 then .stay (.batch b) r (.answering handle)
  else
    ⟨.batch (b.settle handle), { r with stage := .done r.received }, [],
      if handle = idSensorMaxHandle then [.flushSensorReq (handle - 1)] else []⟩

/-- The test of the loop over a handle's requests, with its body or with the `handle++` behind it. -/
def answerStep (r : ReadCall) (handle now : Int) : Moved :=
  if b.flushSensorReq handle > 0 ∧ r.count > 0 then
    let a := b.answer now handle
    ⟨.batch a.1, { r with count := r.count - 1, received := r.received + 1 }, [a.2], [.flushSensorReq handle]⟩
  else ⟨.batch b, { r with stage := .scanning (handle + 1) }, [], [.flushSensorReq handle]⟩

/-- A round of the ioctl loop. -/
def queryStep (r : ReadCall) (reply : BatchSensor.BatchReply) (cells : Nat → SensorsEvent) : Moved :=
  let q := b.query reply cells r.count
  let received := r.received + q.2.stored.length
  let stage : Stage := if q.1 ∨ q.2.count = 0 then (if q.2.count < 1 then .done received else .filling) else .querying
  ⟨.batch b, { r with count := q.2.count, received := received, stage := stage }, q.2.stored, q.2.accesses⟩

/-- The ring is filled; an error ends a call that has no event yet. -/
def fillStep (reply : ReadReply) : Moved :=
  let f := s.mInputReader.fill reply
  .stay (s.withReader f.1) r (if f.2 < 0 ∧ r.received = 0 then .done f.2 else .draining)

def passStep (env : Surroundings) : Moved :=
  let p := s.pass env r.count
  ⟨p.sensor, { r with count := p.count, received := r.received + p.stored.length }, p.stored, []⟩

def step : ReadMove → Moved
  | .enter => .stay s r (enterStage s r)
  | .scan now =>
    match s, r.stage with
    | .batch b, .scanning handle => scanStep b r handle
    | .batch b, .answering handle => answerStep b r handle now
    | _, _ => .stay s r r.stage
  | .query reply cells =>
    match s with
    | .batch b => queryStep b r reply cells
    | _ => .stay s r r.stage
  | .fill reply => fillStep s r reply
  | .pass env => passStep s r env

/-- The call is where the step belongs; the kernel returns no more than was asked for. -/
def Enabled : ReadMove → Prop
  | .enter => r.stage = .entered
  | .scan _ => r.stage.isScanning = true
  | .query _ _ => r.stage = .querying
  | .fill reply => r.stage = .filling ∧ s.mInputReader.Fits reply
  | .pass _ => r.stage = .draining ∧ s.more r.received r.count = true

instance instDecidableEnabled (s : SensorBase) (r : ReadCall) : (m : ReadMove) → Decidable (m.Enabled s r)
  | .enter | .scan _ | .query _ _ => inferInstanceAs (Decidable (_ = _))
  | .fill _ | .pass _ => inferInstanceAs (Decidable (_ ∧ _))

/-- The read of a fill brings whole events, or the call has events already; the gesture driver has the slots
    an `EV_SYN` takes. -/
def Sound : ReadMove → Prop
  | .fill reply => s.mInputReader.Whole reply ∨ 0 < r.received
  | .pass _ => s.HasSlots r.count
  | _ => True

end ReadMove

def ReadCall.result (s : SensorBase) (r : ReadCall) : Option Int :=
  match r.stage with
  | .done v => some v
  | .draining => if s.more r.received r.count then none else some r.received
  | _ => none

/-! ## The slots of a call -/

/-- The call was given a slot, stores no more than it was given, and returns what it stored. -/
structure ReadCall.InRoom (r : ReadCall) : Prop where
  given : 1 ≤ r.given
  left : 0 ≤ r.count
  taken : r.received + r.count ≤ r.given
  fresh : r.stage = .entered → r.count = r.given
  result : ∀ v, r.stage = .done v → v = r.received

theorem ReadCall.start_inRoom {count : Int} (h : 1 ≤ count) : (ReadCall.start count).InRoom where
  given := h
  left := by dsimp only [start]; omega
  taken := by dsimp only [start]; omega
  fresh := fun _ => rfl
  result := fun v hv => Stage.noConfusion hv

namespace ReadMove

variable {s : SensorBase} {r : ReadCall} {m : ReadMove}

theorem inRoom_stay {stage : Stage} (h : r.InRoom) (hfresh : stage ≠ .entered)
    (hresult : ∀ v, stage = .done v → v = r.received) : ({ r with stage := stage } : ReadCall).InRoom :=
  ⟨h.given, h.left, h.taken, fun heq => absurd heq hfresh, hresult⟩

theorem step_counts (s : SensorBase) (r : ReadCall) (m : ReadMove) :
    (m.step s r).call.given = r.given ∧ (m.step s r).call.received = r.received + (m.step s r).stored.length := by
  cases m with
  | enter | fill reply | pass env => exact ⟨rfl, rfl⟩
  | scan now =>
    unfold step
    dsimp only
    split
    · unfold scanStep
      split <;> exact ⟨rfl, rfl⟩
    · unfold answerStep
      split <;> exact ⟨rfl, rfl⟩
    · exact ⟨rfl, rfl⟩
  | query reply cells =>
    unfold step
    dsimp only
    split <;> exact ⟨rfl, rfl⟩

theorem firstStage_loop (s : SensorBase) : firstStage s ≠ .entered ∧ ∀ v, firstStage s ≠ .done v := by
  cases s with
  | batch b =>
    unfold firstStage
    dsimp only
    split <;> exact ⟨Stage.noConfusion, fun _ => Stage.noConfusion⟩
  | hwmsen _ | magnetic _ | humidity _ | stepCounter _ | gesture _ | single _ _ =>
    exact ⟨Stage.noConfusion, fun _ => Stage.noConfusion⟩

theorem enter_inRoom (h : r.InRoom) (hstage : r.stage = .entered) : (step s r .enter).call.InRoom := by
  have hcount : ¬ r.count < 1 := by
    have := h.fresh hstage
    have := h.given
    omega
  obtain ⟨hloop, hdone⟩ := firstStage_loop s
  have hfirst : enterStage s r = firstStage s := if_neg (fun hlow => hcount hlow.1)
  show ({ r with stage := enterStage s r } : ReadCall).InRoom
  rw [hfirst]
  exact inRoom_stay h hloop (fun v hv => absurd hv (hdone v))

variable (b : BatchSensor)

theorem scanStep_inRoom (h : r.InRoom) (handle : Int) : (scanStep b r handle).call.InRoom := by
  unfold scanStep
  split
  · exact inRoom_stay h Stage.noConfusion (fun v => Stage.noConfusion)
  · exact inRoom_stay h Stage.noConfusion (fun v heq => (Stage.done.inj heq).symm)

theorem answerStep_inRoom (h : r.InRoom) {handle now : Int} (hstage : r.stage = .answering handle) :
    (answerStep b r handle now).call.InRoom := by
  have htaken := h.taken
  unfold answerStep
  split
  · refine ⟨h.given, by dsimp only; omega, by dsimp only; push_cast; omega, ?_, ?_⟩
    · intro heq
      exact Stage.noConfusion (hstage.symm.trans heq)
    · intro v heq
      exact Stage.noConfusion (hstage.symm.trans heq)
  · exact inRoom_stay h Stage.noConfusion (fun v => Stage.noConfusion)

theorem queryStep_inRoom (h : r.InRoom) (reply : BatchSensor.BatchReply)
    (cells : Nat → SensorsEvent) : (queryStep b r reply cells).call.InRoom := by
  obtain ⟨hleft, hsum⟩ := BatchSensor.query_room b reply cells h.left
  have htaken := h.taken
  refine ⟨h.given, hleft, by dsimp only [queryStep]; push_cast; omega, ?_, ?_⟩
  · intro heq
    dsimp only [queryStep] at heq
    split at heq
    · split at heq <;> cases heq
    · cases heq
  · intro v heq
    dsimp only [queryStep] at heq ⊢
    split at heq
    · split at heq
      · exact (Stage.done.inj heq).symm
      · cases heq
    · cases heq

theorem fillStep_inRoom (h : r.InRoom) {reply : ReadReply} (hwhole : s.mInputReader.Whole reply ∨ 0 < r.received) :
    (fillStep s r reply).call.InRoom := by
  have hgoes : ¬ ((s.mInputReader.fill reply).2 < 0 ∧ r.received = 0) := by
    rintro ⟨herror, hnone⟩
    rcases hwhole with hwhole | hsome
    · have := s.mInputReader.fill_nonneg hwhole
      omega
    · omega
  show ({ r with stage := _ } : ReadCall).InRoom
  rw [if_neg hgoes]
  exact inRoom_stay h Stage.noConfusion (fun v => Stage.noConfusion)

theorem passStep_inRoom (h : r.InRoom) {env : Surroundings} (hstage : r.stage = .draining)
    (hmore : s.more r.received r.count = true) (hslots : s.HasSlots r.count) :
    (passStep s r env).call.InRoom := by
  have hcount : 1 ≤ r.count := by
    have := SensorBase.more_count_ne_zero hmore
    have := h.left
    omega
  have hpass : (s.pass env r.count).InRoom r.count := SensorBase.pass_inRoom s hcount hslots
  have htaken := h.taken
  have hroom := hpass.taken
  refine ⟨h.given, hpass.left, by dsimp only [passStep]; push_cast; omega, ?_, ?_⟩
  · intro heq
    exact Stage.noConfusion (hstage.symm.trans heq)
  · intro v heq
    exact Stage.noConfusion (hstage.symm.trans heq)

/-- **A sound step of a call stays within the slots the call was given.** -/
theorem step_inRoom (h : r.InRoom) (hen : m.Enabled s r) (hsound : m.Sound s r) : (m.step s r).call.InRoom := by
  cases m with
  | enter => exact enter_inRoom h hen
  | scan now =>
    unfold step
    dsimp only
    split
    · exact scanStep_inRoom _ h _
    · rename_i b handle hstage
      exact answerStep_inRoom b h hstage
    · exact h
  | query reply cells =>
    unfold step
    dsimp only
    split
    · exact queryStep_inRoom _ h reply cells
    · exact h
  | fill reply => exact fillStep_inRoom h hsound
  | pass env => exact passStep_inRoom h hen.1 hen.2 hsound

end ReadMove

theorem ReadCall.InRoom.returns {s : SensorBase} {r : ReadCall} (h : r.InRoom) {v : Int}
    (hv : r.result s = some v) : v = r.received := by
  unfold ReadCall.result at hv
  split at hv
  · rename_i w hstage
    rw [← Option.some.inj hv]
    exact h.result w hstage
  · split at hv
    · cases hv
    · exact (Option.some.inj hv).symm
  · cases hv

end HuaweiY5.Sensors
