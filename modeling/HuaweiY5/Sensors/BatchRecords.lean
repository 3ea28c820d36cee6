import HuaweiY5.Sensors.Poll
import HuaweiY5.Sensors.Session

/-!
# `Sensors.BatchRecords` — which records of the batch driver become events

The messages `readEvents` logs say which records it drops: those of an unknown type, those whose sensor has no
divisor, and those not newer than the time their sensor was enabled. The second message is not followed by a
`continue`: such a record is not converted, but if it is new enough the slot is kept, with what the slot held
before. And `enable` writes `mEnabledTime` at any handle the HAL knows, two of which are beyond the array.
-/

namespace HuaweiY5.Sensors

open List Option

def ArrayAccess.InRange : ArrayAccess → Prop
  | .mEnabledTime i | .mDataDiv i => 0 ≤ i ∧ i < BatchSensor.numSensors
  | .flushSensorReq i => 0 ≤ i ∧ i < idSensorMaxHandle

instance instDecidableInRange : (a : ArrayAccess) → Decidable a.InRange
  | .mEnabledTime _ | .mDataDiv _ | .flushSensorReq _ => inferInstanceAs (Decidable (_ ∧ _))

theorem mem_of_lookup {β : Type} {table : List (Int × β)} {k : Int} {b : β} (h : table.lookup k = some b) :
    (k, b) ∈ table := by
  obtain ⟨l₁, l₂, heq, -⟩ := lookup_eq_some_iff.mp h
  rw [heq]
  exact mem_append_right _ mem_cons_self

theorem handleToDriver_range {handle : Int} (h : (handleToDriver handle).isSome = true) :
    0 ≤ handle ∧ handle < idSensorMaxHandle := by
  obtain ⟨d, hd⟩ := isSome_iff_exists.mp h
  have hall : ∀ p ∈ driverTable, 0 ≤ p.1 ∧ p.1 < idSensorMaxHandle := by decide
  exact hall _ (mem_of_lookup hd)

namespace BatchSensor

theorem typeToSensor_range {type sensor : Int} (h : typeToSensor type = some sensor) :
    0 ≤ sensor ∧ sensor < numSensors := by
  have hall : ∀ p ∈ typeTable, 0 ≤ p.2 ∧ p.2 < numSensors := by decide
  exact hall _ (mem_of_lookup h)

/-! ## Records, as the drop messages document it -/

/-- The record is not dropped by any of the messages: its type is known, its sensor has an index below
    `numSensors` and, except the step counter, a divisor, and it is newer than the sensor's enabling. -/
def documented (s : BatchSensor) (d : HwmSensorData) : Bool :=
  match typeToSensor d.sensor with
  | none => false
  | some sensor =>
    decide (sensor < numSensors) && (decide (d.sensor = typeStepCounter) || decide (s.mDataDiv sensor ≠ 0)) &&
      decide (d.time > s.mEnabledTime sensor)

/-- The event is the conversion of the record. -/
structure Converts (s : BatchSensor) (d : HwmSensorData) (e : SensorsEvent) : Prop where
  type : e.type = d.sensor
  sensor : typeToSensor d.sensor = some e.sensor
  timestamp : e.timestamp = d.time
  steps : d.sensor = typeStepCounter → e.stepCounter = d.value 0
  values : d.sensor ≠ typeStepCounter → converted d (s.mDataDiv e.sensor) <+: e.data
  status : d.sensor ∈ [typeAccelerometer, typeMagneticField, typeGyroscope, typeOrientation] → e.status = d.status

def undivided (s : BatchSensor) (d : HwmSensorData) : Bool :=
  match typeToSensor d.sensor with
  | none => false
  | some sensor =>
    decide (d.sensor ≠ typeStepCounter) && decide (s.mDataDiv sensor = 0) && decide (d.time > s.mEnabledTime sensor)

def keeps (s : BatchSensor) (d : HwmSensorData) : Bool := s.documented d || s.undivided d

def BatchReply.taken (r : BatchReply) (count : Int) : List HwmSensorData :=
  if r.accepted count then r.records else []

variable {s : BatchSensor} {d : HwmSensorData} {slot : SensorsEvent}

theorem undivided_of_documented (h : s.documented d = true) : s.undivided d = false := by
  unfold documented at h
  unfold undivided
  cases htype : typeToSensor d.sensor with
  | none => rfl
  | some sensor =>
    simp only [htype, Bool.and_eq_true, Bool.or_eq_true, decide_eq_true_eq] at h
    rcases h.1.2 with hsteps | hdiv
    · simp [hsteps]
    · simp [hdiv]

theorem filter_keeps (s : BatchSensor) (ds : List HwmSensorData) :
    (ds.filter s.keeps).filter s.documented = ds.filter s.documented := by
  rw [List.filter_filter]
  refine filter_congr (fun d _ => ?_)
  cases hdocumented : s.documented d with
  | true => simp [keeps, hdocumented]
  | false => rfl

/-! ## The loop over the records -/

theorem readRecord_kept (s : BatchSensor) (d : HwmSensorData) (slot : SensorsEvent) :
    (s.readRecord d slot).kept = s.keeps d := by
  unfold readRecord keeps documented undivided
  cases htype : typeToSensor d.sensor with
  | none => rfl
  | some sensor =>
    obtain ⟨hlow, hhigh⟩ := typeToSensor_range htype
    by_cases hsteps : d.sensor = typeStepCounter
    · simp [hsteps, hhigh]
    · by_cases hdiv : s.mDataDiv sensor = 0
      · simp [hsteps, hdiv]
      · simp [hsteps, hdiv, hlow, hhigh]

theorem handleEvent_converts {sensor : Int} (hsensor : typeToSensor d.sensor = some sensor)
    (hsteps : d.sensor ≠ typeStepCounter) :
    s.Converts d
      (handleEvent d (s.mDataDiv sensor) { slot with sensor := sensor, type := d.sensor, timestamp := d.time }) where
  type := rfl
  sensor := hsensor
  timestamp := rfl
  steps := fun h => absurd h hsteps
  values := fun _ => prefix_append _ _
  status := fun h => if_pos h

theorem readRecord_converts (h : s.documented d = true) : s.Converts d (s.readRecord d slot).slot := by
  unfold readRecord
  unfold documented at h
  cases htype : typeToSensor d.sensor with
  | none => simp [htype] at h
  | some sensor =>
    obtain ⟨hlow, hhigh⟩ := typeToSensor_range htype
    simp only [htype, Bool.and_eq_true, Bool.or_eq_true, decide_eq_true_eq] at h
    dsimp only
    by_cases hsteps : d.sensor = typeStepCounter
    · rw [if_pos hsteps]
      exact ⟨rfl, htype, rfl, fun _ => rfl, fun hne => absurd hsteps hne, fun hmem => by
        rw [hsteps] at hmem; exact absurd hmem (by decide)⟩
    · rw [if_neg hsteps, if_pos ⟨hlow, hhigh, h.1.2.resolve_left hsteps⟩]
      exact handleEvent_converts htype hsteps

theorem readRecord_inRange (s : BatchSensor) (d : HwmSensorData) (slot : SensorsEvent) :
    ∀ a ∈ (s.readRecord d slot).accesses, a.InRange := by
  unfold readRecord
  cases htype : typeToSensor d.sensor with
  | none => exact fun a ha => absurd ha not_mem_nil
  | some sensor =>
    have hrange := typeToSensor_range htype
    have htime : (ArrayAccess.mEnabledTime sensor).InRange := hrange
    have hdiv : (ArrayAccess.mDataDiv sensor).InRange := hrange
    dsimp only
    split
    · simpa using htime
    · split <;> simpa using ⟨hdiv, htime⟩

/-- **The events of the loop** are those of the records that keep their slots, in order; the documented ones
    are converted. There is a slot for every record, so the loop looks at all of them. -/
theorem readRecords_stored (s : BatchSensor) (cells : Nat → SensorsEvent) {ds : List HwmSensorData} {count : Int}
    (hslots : (ds.length : Int) ≤ count) (slot : SensorsEvent) (k : Nat) :
    List.Forall₂ (fun d e => s.documented d = true → s.Converts d e)
      (ds.filter s.keeps) (s.readRecords cells ds slot k count).stored := by
  induction ds generalizing slot k count with
  | nil => exact .nil
  | cons d ds ih =>
    rw [length_cons] at hslots
    have hmore : count ≠ 0 := by omega
    unfold readRecords
    rw [if_pos hmore]
    dsimp only
    rw [readRecord_kept]
    by_cases hkept : s.keeps d = true
    · rw [if_pos hkept, filter_cons_of_pos hkept]
      exact .cons readRecord_converts (ih (by omega) _ _)
    · rw [if_neg hkept, filter_cons_of_neg hkept]
      exact ih (by omega) _ _

theorem readRecords_inRange (s : BatchSensor) (cells : Nat → SensorsEvent) (ds : List HwmSensorData)
    (slot : SensorsEvent) (k : Nat) (count : Int) :
    ∀ a ∈ (s.readRecords cells ds slot k count).accesses, a.InRange := by
  induction ds generalizing slot k count with
  | nil => exact fun a ha => absurd ha not_mem_nil
  | cons d ds ih =>
    unfold readRecords
    dsimp only
    split
    · split
      · intro a ha
        rcases mem_append.mp ha with hnow | hlater
        · exact readRecord_inRange s d slot a hnow
        · exact ih _ _ _ a hlater
      · intro a ha
        rcases mem_append.mp ha with hnow | hlater
        · exact readRecord_inRange s d slot a hnow
        · exact ih _ _ _ a hlater
    · exact fun a ha => absurd ha not_mem_nil

/-! ## A round of the ioctl loop -/

theorem taken_length (reply : BatchReply) (count : Int) (h : reply.accepted count = true) :
    (reply.records.length : Int) ≤ count := by
  simp only [BatchReply.accepted, Bool.and_eq_true, decide_eq_true_eq] at h
  simp only [BatchReply.records, length_map, length_range]
  omega

theorem query_stored (s : BatchSensor) (reply : BatchReply) (cells : Nat → SensorsEvent) (count : Int) :
    List.Forall₂ (fun d e => s.documented d = true → s.Converts d e)
      ((reply.taken count).filter s.keeps) (s.query reply cells count).2.stored := by
  unfold query BatchReply.taken
  by_cases h : reply.accepted count = true
  · rw [if_pos h, if_pos h]
    exact readRecords_stored s cells (taken_length reply count h) _ _
  · rw [if_neg h, if_neg h]
    exact .nil

theorem query_inRange (s : BatchSensor) (reply : BatchReply) (cells : Nat → SensorsEvent) (count : Int) :
    ∀ a ∈ (s.query reply cells count).2.accesses, a.InRange := by
  unfold query
  split
  · exact readRecords_inRange s cells _ _ _ _
  · exact fun a ha => absurd ha not_mem_nil

/-- **A round delivers exactly the conversions of the documented records** if and only if none of the
    records it looks at is new enough and without a divisor. -/
theorem query_iff (s : BatchSensor) (reply : BatchReply) (cells : Nat → SensorsEvent) (count : Int) :
    List.Forall₂ s.Converts ((reply.taken count).filter s.documented) (s.query reply cells count).2.stored ↔
      ∀ d ∈ reply.taken count, s.undivided d = false := by
  have hstored := query_stored s reply cells count
  constructor
  · intro hconverts d hd
    -- the documented records are as many as the events, so they are all the records that keep a slot
    have hlength : (((reply.taken count).filter s.keeps).filter s.documented).length =
        ((reply.taken count).filter s.keeps).length := by
      rw [filter_keeps, hconverts.length_eq, hstored.length_eq]
    by_contra hundivided
    have hkeeps : s.keeps d = true := by
      rw [keeps, Bool.eq_true_of_not_eq_false hundivided, Bool.or_true]
    have hdocumented := length_filter_eq_length_iff.mp hlength d (mem_filter.mpr ⟨hd, hkeeps⟩)
    exact hundivided (undivided_of_documented hdocumented)
  · intro hnone
    have hsame : (reply.taken count).filter s.keeps = (reply.taken count).filter s.documented :=
      filter_congr (fun d hd => by rw [keeps, hnone d hd, Bool.or_false])
    rw [hsame] at hstored
    have hall : ∀ d ∈ (reply.taken count).filter s.documented, s.documented d = true :=
      fun d hd => (mem_filter.mp hd).2
    refine ((forall₂_and_left _ _).mpr ⟨hall, hstored⟩).imp ?_
    exact fun d e h => h.2 h.1

theorem enable_inRange (s : BatchSensor) {opens : Bool} {now handle : Int} {en : Bool} (hlow : 0 ≤ handle) :
    (∀ a ∈ (s.enable opens now handle en).2, a.InRange) ↔
      (s.mdataFd = true ∧ opens = true ∧ en = true → handle < numSensors) := by
  unfold enable
  split
  · rename_i hwrites
    rw [forall_mem_singleton]
    exact ⟨fun hrange _ => hrange.2, fun hhigh => ⟨hlow, hhigh hwrites⟩⟩
  · rename_i hkeeps
    exact iff_of_true (fun a ha => absurd ha not_mem_nil) (fun hwrites => absurd hwrites hkeeps)

theorem flush_inRange (s : BatchSensor) {handle : Int} (h : 0 ≤ handle ∧ handle < idSensorMaxHandle) :
    ∀ a ∈ ((SensorBase.batch s).flush handle).2, a.InRange := by
  unfold SensorBase.flush
  dsimp only
  split
  · exact fun a ha => absurd ha not_mem_nil
  · have hhere : (ArrayAccess.flushSensorReq handle).InRange := h
    simpa [flush] using hhere

end BatchSensor

/-! ## Steps of a call -/

/-- A scan of the flush requests is at one of them or, at the test of its outer loop, just past the last. -/
def ReadCall.InScan (r : ReadCall) : Prop :=
  ∀ handle, (r.stage = .scanning handle → 0 ≤ handle ∧ handle ≤ idSensorMaxHandle) ∧
    (r.stage = .answering handle → 0 ≤ handle ∧ handle < idSensorMaxHandle)

theorem ReadCall.inScan_of_not {r : ReadCall} (h : r.stage.isScanning = false) : r.InScan :=
  fun handle => ⟨fun hs => by simp [hs, Stage.isScanning] at h, fun hs => by simp [hs, Stage.isScanning] at h⟩

namespace ReadMove

variable (b : BatchSensor)

theorem scanStep_batch {r : ReadCall} {handle : Int} (h : r.InScan)
    (hstage : r.stage = .scanning handle) :
    (∃ b', (scanStep b r handle).sensor = .batch b') ∧ (scanStep b r handle).call.InScan ∧
      ∀ a ∈ (scanStep b r handle).accesses, a.InRange := by
  unfold scanStep
  split
  · rename_i hmore
    refine ⟨⟨_, rfl⟩, fun k => ⟨Stage.noConfusion, fun hk => ?_⟩, fun a ha => absurd ha not_mem_nil⟩
    obtain rfl := Stage.answering.inj hk
    exact ⟨((h handle).1 hstage).1, hmore.1⟩
  · refine ⟨⟨_, rfl⟩, ReadCall.inScan_of_not rfl, ?_⟩
    split
    · rename_i hend
      have hlast : (ArrayAccess.flushSensorReq (handle - 1)).InRange := by rw [hend]; decide
      simpa using hlast
    · exact fun a ha => absurd ha not_mem_nil

theorem answerStep_batch {r : ReadCall} {handle now : Int} (h : r.InScan)
    (hstage : r.stage = .answering handle) :
    (∃ b', (answerStep b r handle now).sensor = .batch b') ∧ (answerStep b r handle now).call.InScan ∧
      ∀ a ∈ (answerStep b r handle now).accesses, a.InRange := by
  have hin : 0 ≤ handle ∧ handle < idSensorMaxHandle := (h handle).2 hstage
  have hhere : (ArrayAccess.flushSensorReq handle).InRange := hin
  unfold answerStep
  split
  · exact ⟨⟨_, rfl⟩, h, by simpa using hhere⟩
  · refine ⟨⟨_, rfl⟩, fun k => ⟨fun hk => ?_, Stage.noConfusion⟩, by simpa using hhere⟩
    obtain rfl := Stage.scanning.inj hk
    omega

theorem step_batch {r : ReadCall} (h : r.InScan) (m : ReadMove) :
    (∃ b', (m.step (.batch b) r).sensor = .batch b') ∧ (m.step (.batch b) r).call.InScan ∧
      ∀ a ∈ (m.step (.batch b) r).accesses, a.InRange := by
  have hnone : ∀ a ∈ ([] : List ArrayAccess), a.InRange := fun a ha => absurd ha not_mem_nil
  cases m with
  | enter =>
    refine ⟨⟨b, rfl⟩, ?_, hnone⟩
    show ({ r with stage := enterStage (.batch b) r } : ReadCall).InScan
    have hfirst : firstStage (.batch b) = .querying ∨ firstStage (.batch b) = .scanning 0 := by
      unfold firstStage
      dsimp only
      split
      · exact .inl rfl
      · exact .inr rfl
    unfold enterStage
    split
    · exact ReadCall.inScan_of_not rfl
    · rcases hfirst with hfirst | hfirst
      · rw [hfirst]
        exact ReadCall.inScan_of_not rfl
      · rw [hfirst]
        refine fun k => ⟨fun hk => ?_, Stage.noConfusion⟩
        obtain rfl := Stage.scanning.inj hk
        decide
  | scan now =>
    unfold step
    dsimp only
    split
    · rename_i b' handle hbatch hstage
      exact scanStep_batch _ h hstage
    · rename_i b' handle hbatch hstage
      exact answerStep_batch _ h hstage
    · exact ⟨⟨b, rfl⟩, h, hnone⟩
  | query reply cells =>
    refine ⟨⟨b, rfl⟩, ReadCall.inScan_of_not ?_, BatchSensor.query_inRange b reply cells r.count⟩
    show (queryStep b r reply cells).call.stage.isScanning = false
    dsimp only [queryStep]
    split
    · split <;> rfl
    · rfl
  | fill reply =>
    refine ⟨⟨_, rfl⟩, ReadCall.inScan_of_not ?_, hnone⟩
    show (fillStep (.batch b) r reply).call.stage.isScanning = false
    dsimp only [fillStep]
    split <;> rfl
  | pass env => exact ⟨⟨_, rfl⟩, h, hnone⟩

end ReadMove

/-! ## The driver in use -/

namespace Session

/-- `activate` and `flush` calls have a handle that `handleToDriver` accepts. -/
def Accepted : SessionMove → Prop
  | .enable handle _ _ _ | .flush handle => (handleToDriver handle).isSome = true
  | _ => True

/-- What a step has to keep to: a round of the ioctl loop delivers exactly, in order, the conversions of the
    documented records of the reply, and every array access is in range. -/
structure Filtered (s : Session) (move : SessionMove) (out : List Effect) : Prop where
  records : ∀ b call reply cells, s.sensor = .batch b → s.call = some call → move = .read (.query reply cells) →
    List.Forall₂ b.Converts ((reply.taken call.count).filter b.documented) (delivered out)
  inside : ∀ a, .access a ∈ out → a.InRange

/-- The condition on a step. -/
def Supported (s : Session) : SessionMove → Prop
  | .enable handle en env _ =>
    ∀ b, s.sensor = .batch b → b.mdataFd = true ∧ env.opens handle = true ∧ en = true → handle < BatchSensor.numSensors
  | .read (.query reply _) =>
    ∀ b call, s.sensor = .batch b → s.call = some call → ∀ d ∈ reply.taken call.count, b.undivided d = false
  | _ => True

/-- The batch driver; a scan of the flush requests is at one of them, or just past the last. -/
structure IsBatch (s : Session) : Prop where
  batch : ∃ b, s.sensor = .batch b
  scan : ∀ r, s.call = some r → r.InScan

variable {s : Session} {move : SessionMove}

theorem start_isBatch (b : BatchSensor) : IsBatch (start (.batch b)) :=
  ⟨⟨b, rfl⟩, fun _ hr => absurd hr.symm (some_ne_none _)⟩

theorem IsBatch.step (h : IsBatch s) (move : SessionMove) : IsBatch (s.step move).1 := by
  obtain ⟨sensor, call, on, reported⟩ := s
  obtain ⟨⟨b, hb⟩, hscan⟩ := h
  subst hb
  cases move with
  | enable handle en env ioctls => exact ⟨⟨_, rfl⟩, hscan⟩
  | flush handle =>
    refine ⟨?_, hscan⟩
    unfold Session.step SensorBase.flush
    dsimp only
    split <;> exact ⟨_, rfl⟩
  | call count =>
    refine ⟨⟨_, rfl⟩, fun r hr => ?_⟩
    rw [← some.inj hr]
    exact ReadCall.inScan_of_not rfl
  | leave => exact ⟨⟨_, rfl⟩, fun r hr => absurd hr.symm (some_ne_none _)⟩
  | read m =>
    cases call with
    | none => exact ⟨⟨_, rfl⟩, hscan⟩
    | some r =>
      obtain ⟨hsensor, hcall, -⟩ := ReadMove.step_batch b (hscan r rfl) m
      refine ⟨hsensor, fun r' hr' => ?_⟩
      rw [← some.inj hr']
      exact hcall

theorem access_mem_effects {a : ArrayAccess} {stored : List SensorsEvent} {accesses : List ArrayAccess} :
    .access a ∈ effects stored accesses ↔ a ∈ accesses := by
  simp [effects]

theorem filtered_of_not_query (hmove : ∀ reply cells, move ≠ .read (.query reply cells))
    {stored : List SensorsEvent} {accesses : List ArrayAccess} :
    Filtered s move (effects stored accesses) ↔ ∀ a ∈ accesses, a.InRange := by
  constructor
  · exact fun h a ha => h.inside a (access_mem_effects.mpr ha)
  · intro h
    exact ⟨fun _ _ reply cells _ _ heq => absurd heq (hmove reply cells), fun a ha => h a (access_mem_effects.mp ha)⟩

theorem read_filtered_iff {b : BatchSensor} {call : ReadCall} {m : ReadMove} (hsensor : s.sensor = .batch b)
    (hcall : s.call = some call) (hscan : call.InScan) :
    Filtered s (.read m) (s.readStep call m).2 ↔ Supported s (.read m) := by
  obtain ⟨-, -, hinside⟩ := ReadMove.step_batch b hscan m
  have hout : (s.readStep call m).2 = effects (m.step (.batch b) call).stored (m.step (.batch b) call).accesses := by
    rw [← hsensor]
    rfl
  rw [hout]
  have hother : (∀ reply cells, SessionMove.read m ≠ .read (.query reply cells)) →
      Filtered s (.read m) (effects (m.step (.batch b) call).stored (m.step (.batch b) call).accesses) :=
    fun hmove => (filtered_of_not_query hmove).mpr hinside
  cases m with
  | query reply cells =>
    have hround := BatchSensor.query_iff b reply cells call.count
    constructor
    · intro h b' call' hsensor' hcall'
      obtain rfl := SensorBase.batch.inj (hsensor.symm.trans hsensor')
      obtain rfl := some.inj (hcall.symm.trans hcall')
      have hrecords := h.records b call reply cells hsensor hcall rfl
      rw [delivered_effects] at hrecords
      exact hround.mp hrecords
    · intro h
      refine ⟨fun b' call' reply' cells' hsensor' hcall' heq => ?_, fun a ha => hinside a (access_mem_effects.mp ha)⟩
      obtain rfl := SensorBase.batch.inj (hsensor.symm.trans hsensor')
      obtain rfl := some.inj (hcall.symm.trans hcall')
      obtain ⟨rfl, rfl⟩ := ReadMove.query.inj (SessionMove.read.inj heq)
      rw [delivered_effects]
      exact hround.mpr (h b call hsensor hcall)
  | enter | scan now | fill reply | pass env => exact iff_of_true (hother (by simp)) trivial

/-- **One step** keeps to what is documented exactly if it meets the condition. -/
theorem IsBatch.filtered_iff (h : IsBatch s) (hen : EnabledIn s.sensor s.call move) (haccepted : Accepted move) :
    Filtered s move (s.step move).2 ↔ Supported s move := by
  obtain ⟨⟨b, hsensor⟩, hscan⟩ := h
  have hnone : ∀ move, (∀ reply cells, move ≠ .read (.query reply cells)) → Filtered s move (effects [] []) :=
    fun move hmove => (filtered_of_not_query hmove).mpr (fun a ha => absurd ha not_mem_nil)
  cases move with
  | enable handle en env ioctls =>
    have hrange := handleToDriver_range haccepted
    have hout : (s.step (.enable handle en env ioctls)).2 =
        effects [] (b.enable (env.opens handle) env.elapsedRealtimeNano handle en).2 := by
      simp [Session.step, hsensor, SensorBase.enable]
    rw [hout, filtered_of_not_query (by simp), BatchSensor.enable_inRange b hrange.1]
    constructor
    · intro h b' hsensor'
      obtain rfl := SensorBase.batch.inj (hsensor.symm.trans hsensor')
      exact h
    · exact fun h => h b hsensor
  | flush handle =>
    refine iff_of_true ((filtered_of_not_query (by simp)).mpr ?_) trivial
    rw [hsensor]
    exact BatchSensor.flush_inRange b (handleToDriver_range haccepted)
  | call count => exact iff_of_true (hnone (.call count) (by simp)) trivial
  | leave => exact iff_of_true (hnone .leave (by simp)) trivial
  | read m =>
    cases hcall : s.call with
    | none =>
      rw [hcall] at hen
      exact hen.elim
    | some call =>
      have hstep : s.step (.read m) = s.readStep call m := by
        simp [Session.step, hcall]
      rw [hstep]
      exact read_filtered_iff hsensor hcall (hscan call hcall)

/-- **Batched data is filtered as documented**, in a run of the batch driver with accepted handles, if and
    only if no sensor past the end of `mEnabledTime` has its time written and no record is delivered for
    want of a divisor. -/
theorem batch_filtered_iff {mdataFd : Bool} {mDataDiv : Int → Int}
    {tr : List (Transducer.Entry Session SessionMove Effect)}
    (hrun : (machine (.batch (.new mdataFd mDataDiv))).Run tr s) (haccepted : ∀ x ∈ tr, Accepted x.event) :
    (∀ x ∈ tr, Filtered x.pre x.event x.out) ↔ ∀ x ∈ tr, Supported x.pre x.event := by
  refine forall₂_congr (fun x hx => ?_)
  obtain ⟨⟨tr', hbefore⟩, hen, hout⟩ := hrun.mem hx
  have hbatch : IsBatch x.pre := hbefore.invariant (start_isBatch _) (fun s move h _ => h.step move)
  rw [hout]
  exact hbatch.filtered_iff hen (haccepted x hx)

/-! ### Runs on fixed inputs -/

def accelReply : BatchSensor.BatchReply := ⟨false, 1, 0, fun _ => ⟨typeAccelerometer, [1, 2, 3], [], 1, 3, 1, 1⟩⟩

def accelRun : List SessionMove := [.call 1, .read .enter, .read (.query accelReply fun _ => .pending 0 typeMetaData)]

theorem accelRun_accepted (mDataDiv : Int → Int) :
    ∀ x ∈ ((machine (.batch (.new true mDataDiv))).exec accelRun).1, Accepted x.event := by
  refine Transducer.exec_along _ (C := fun _ move => Accepted move) ?_
  exact ⟨trivial, trivial, trivial, trivial⟩

theorem batch_filtered_accel :
    (machine (.batch (.new true fun _ => 1000))).Admissible (machine (.batch (.new true fun _ => 1000))).init accelRun ∧
      ∀ x ∈ ((machine (.batch (.new true fun _ => 1000))).exec accelRun).1, Filtered x.pre x.event x.out := by
  have hadm : (machine (.batch (.new true fun _ => 1000))).Admissible
      (machine (.batch (.new true fun _ => 1000))).init accelRun := by decide
  refine ⟨hadm, (batch_filtered_iff (Transducer.run_exec _ hadm) (accelRun_accepted _)).mpr ?_⟩
  refine Transducer.exec_along _ ?_
  refine ⟨trivial, trivial, fun b call hsensor hcall => ?_, trivial⟩
  obtain rfl := SensorBase.batch.inj hsensor
  obtain rfl := some.inj hcall
  decide

/-- Without a divisor, the accelerometer's record is delivered, though its message says it is dropped. -/
theorem batch_unfiltered :
    ¬ ∀ tr s, (machine (.batch (.new true fun _ => 0))).Run tr s → (∀ x ∈ tr, Accepted x.event) →
        ∀ x ∈ tr, Filtered x.pre x.event x.out := by
  intro hall
  have hadm : (machine (.batch (.new true fun _ => 0))).Admissible
      (machine (.batch (.new true fun _ => 0))).init accelRun := by decide
  have hfiltered := hall _ _ (Transducer.run_exec _ hadm) (accelRun_accepted _)
  simp only [Transducer.exec, accelRun, foldl_cons, foldl_nil, nil_append, cons_append, forall_mem_cons] at hfiltered
  have hlength := (hfiltered.2.2.1.records _ _ _ _ rfl rfl rfl).length_eq
  exact absurd hlength (by decide)

end Session

end HuaweiY5.Sensors
