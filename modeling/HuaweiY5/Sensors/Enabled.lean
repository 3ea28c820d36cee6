import HuaweiY5.Sensors.Session

/-!
# `Sensors.Enabled` — events of sensors that are not enabled

Two drivers serve several sensors each and let them share their enable test. The old architecture's driver
asks `mActiveSensors && (1<<i)`, which is true of every sensor as soon as one is active. The step counter
driver hands its pending event on if any of its three sensors is enabled, and keeps the event afterwards.
Both can deliver an event of a sensor that was never enabled, or was disabled.
-/

namespace HuaweiY5.Sensors

open List

/-! ## The sensor of the events of a frame -/

/-- All events of a pass, and the one it leaves, are of one sensor. -/
def Pass.Names (h : Int) (p : Pass SensorsEvent) : Prop := (∀ e ∈ p.stored, e.sensor = h) ∧ p.sensor.sensor = h

variable {h count : Int} {e : SensorsEvent}

theorem Pass.keep_names (he : e.sensor = h) : (Pass.keep e count).Names h :=
  ⟨fun _ hmem => absurd hmem not_mem_nil, he⟩

theorem Pass.store_names (he : e.sensor = h) : (Pass.mk e [e] count).Names h :=
  ⟨fun x hx => by rw [mem_singleton.mp hx]; exact he, he⟩

theorem Pass.Names.andThen {p : Pass SensorsEvent} {f : SensorsEvent → Int → Pass SensorsEvent} (hp : p.Names h)
    (hf : ∀ e count, e.sensor = h → (f e count).Names h) : (p.andThen f).Names h := by
  obtain ⟨hstored, hleft⟩ := hf p.sensor p.count hp.2
  refine ⟨fun e he => ?_, hleft⟩
  rcases mem_append.mp he with hold | hnew
  · exact hp.1 e hold
  · exact hstored e hnew

theorem fillIn_names (time delay : Int) (recent : Int → Bool) (k : Nat) (he : e.sensor = h) :
    (fillIn time delay recent k e count).Names h := by
  induction k generalizing e count with
  | zero => exact Pass.keep_names he
  | succ k ih =>
    unfold fillIn
    dsimp only
    split
    · split
      · exact Pass.store_names he
      · refine Pass.Names.andThen ?_ (fun e' count' he' => ih he')
        exact Pass.store_names he
    · exact ih he

theorem makeUp_names (time delay : Int) (recent : Int → Bool) (loopcout : Int) (he : e.sensor = h) :
    (makeUp time delay recent loopcout e count).Names h := by
  unfold makeUp
  split
  · exact fillIn_names time delay recent _ he
  · exact Pass.keep_names he

theorem ownEvent_names (time : Int) (he : e.sensor = h) : (ownEvent time e count).Names h := by
  unfold ownEvent
  split
  · exact Pass.store_names he
  · exact Pass.keep_names he

/-! ## The old architecture's driver -/

namespace Hwmsen

theorem handleIndex_spec {handle : Int} {i : Nat} (h : handleIndex handle = some i) :
    i < 6 ∧ indexHandle i = handle := by
  unfold handleIndex at h
  split_ifs at h with h0 h1 h2 h3 h4 h5 <;> obtain rfl := Option.some.inj h
  · exact ⟨by decide, h0.symm⟩
  · exact ⟨by decide, h1.symm⟩
  · exact ⟨by decide, h2.symm⟩
  · exact ⟨by decide, h3.symm⟩
  · exact ⟨by decide, h4.symm⟩
  · exact ⟨by decide, h5.symm⟩

theorem handleIndex_indexHandle {i : Nat} (h : i < 6) : handleIndex (indexHandle i) = some i := by
  have hall : ∀ i < 6, handleIndex (indexHandle i) = some i := by decide
  exact hall i h

/-- Every pending event is that of its index, and pending data is that of a sensor that is on. -/
structure Pending (on : Int → Bool) (s : Hwmsen) : Prop where
  named : ∀ i < 6, (s.mPendingEvents i).sensor = indexHandle i
  enabled : ∀ i < 6, hasBit s.mPendingMask i = true → on (indexHandle i) = true

variable {on on' : Int → Bool} {s s' : Hwmsen} {env : Surroundings} {time count : Int}

theorem Pending.of_eq (h : s.Pending on) (hmask : s'.mPendingMask = s.mPendingMask)
    (hevents : s'.mPendingEvents = s.mPendingEvents) : s'.Pending on :=
  ⟨fun i hi => hevents ▸ h.named i hi, fun i hi hbit => h.enabled i hi (hmask ▸ hbit)⟩

theorem new_pending (on : Int → Bool) : new.Pending on := by
  refine ⟨fun i _ => rfl, fun i _ hbit => ?_⟩
  rw [show hasBit new.mPendingMask i = false from hasBit_zero i] at hbit
  cases hbit

theorem Pending.readRecord (h : s.Pending on) {d : HwmSensorData}
    (hd : (handleIndex d.sensor).isSome = true → on d.sensor = true) : (s.readRecord d).Pending on := by
  unfold Hwmsen.readRecord
  split
  · rename_i index hindex
    obtain ⟨hlt, hhandle⟩ := handleIndex_spec hindex
    have hon : on d.sensor = true := hd (by rw [hindex]; rfl)
    refine ⟨fun i hi => ?_, fun i hi hbit => ?_⟩
    · by_cases heq : i = index
      · subst heq
        have hsensor : (fromRecord d i (s.mPendingEvents i)).sensor = d.sensor := by
          unfold fromRecord
          split <;> rfl
        simp [hsensor, hhandle]
      · simp only [Function.update_of_ne heq]
        exact h.named i hi
    · rw [hasBit_setBit _ (by omega), Bool.or_eq_true, decide_eq_true_eq] at hbit
      rcases hbit with hold | rfl
      · exact h.enabled i hi hold
      · rw [hhandle]
        exact hon
  · exact h

theorem Pending.readSensorData (h : s.Pending on)
    (hrecords : ∀ d ∈ records env, (handleIndex d.sensor).isSome = true → on d.sensor = true) :
    (s.readSensorData env).Pending on := by
  refine Pending.of_eq (s := (records env).foldl Hwmsen.readRecord s) ?_ rfl rfl
  generalize records env = ds at hrecords ⊢
  induction ds generalizing s with
  | nil => exact h
  | cons d ds ih =>
    exact ih (h.readRecord (hrecords d mem_cons_self)) (fun d' hd' => hrecords d' (mem_cons_of_mem _ hd'))

theorem frame_names (s : Hwmsen) (i : Nat) : (s.frame env time i count).Names (s.mPendingEvents i).sensor := by
  unfold frame
  split
  · exact (makeUp_names _ _ _ _ rfl).andThen (fun e count' he => ownEvent_names time he)
  · exact ownEvent_names time rfl

theorem Pending.deliver (h : s.Pending on) {i : Nat} (hi : i < 6) :
    (s.deliver env time i count).sensor.Pending on ∧
      ∀ e ∈ (s.deliver env time i count).stored, e.sensor = indexHandle i := by
  have hframe : (s.frame env time i count).Names (s.mPendingEvents i).sensor := frame_names s i
  obtain ⟨hstored, hleft⟩ := hframe
  rw [h.named i hi] at hstored hleft
  refine ⟨⟨fun j hj => ?_, fun j hj hbit => ?_⟩, hstored⟩
  · by_cases heq : j = i
    · subst heq
      simp [Hwmsen.deliver, hleft]
    · simp only [Hwmsen.deliver, Function.update_of_ne heq]
      exact h.named j hj
  · rw [show hasBit (s.deliver env time i count).sensor.mPendingMask j = _ from hasBit_clearBit _ (by omega),
      Bool.and_eq_true] at hbit
    exact h.enabled j hj hbit.1

theorem Pending.deliverAll {is : List Nat} (his : ∀ i ∈ is, i < 6) (h : s.Pending on) :
    (deliverAll env time is s count).sensor.Pending on ∧
      ∀ e ∈ (deliverAll env time is s count).stored, on e.sensor = true := by
  induction is generalizing s count with
  | nil => exact ⟨h, fun e he => absurd he not_mem_nil⟩
  | cons i is ih =>
    have hi := his i mem_cons_self
    have hrest : ∀ j ∈ is, j < 6 := fun j hj => his j (mem_cons_of_mem _ hj)
    unfold Hwmsen.deliverAll
    by_cases hmore : count ≠ 0
    · rw [if_pos hmore]
      by_cases hpends : s.mActiveSensors ≠ 0 ∧ hasBit s.mPendingMask i = true
      · rw [if_pos hpends]
        have hfirst : (s.deliver env time i count).sensor.Pending on ∧ _ := h.deliver hi
        obtain ⟨hsensor, hstored⟩ := hfirst
        have hothers : (Hwmsen.deliverAll env time is _ (s.deliver env time i count).count).sensor.Pending on ∧ _ :=
          ih hrest hsensor
        obtain ⟨hsensor', hstored'⟩ := hothers
        refine ⟨hsensor', fun e he => ?_⟩
        rcases mem_append.mp he with hnow | hlater
        · rw [hstored e hnow]
          exact h.enabled i hi hpends.2
        · exact hstored' e hlater
      · rw [if_neg hpends]
        have hothers : (Hwmsen.deliverAll env time is s count).sensor.Pending on ∧ _ := ih hrest h
        obtain ⟨hsensor', hstored'⟩ := hothers
        exact ⟨hsensor', fun e he => hstored' e (by simpa [Pass.andThen, Pass.keep] using he)⟩
    · rw [if_neg hmore]
      exact ⟨h, fun e he => absurd he not_mem_nil⟩

theorem processEvent_pending (code : Nat) (value : Int) (s : Hwmsen) :
    (s.processEvent code value).mPendingMask = s.mPendingMask ∧
      (s.processEvent code value).mPendingEvents = s.mPendingEvents := by
  unfold processEvent
  split_ifs <;> exact ⟨rfl, rfl⟩

/-- **A pass of the old driver** hands on events of sensors that are on, if the records it fetches are. -/
theorem Pending.pass (h : s.Pending on)
    (hrecords : s.mInputReader.event.type = .syn →
      ∀ d ∈ records env, (handleIndex d.sensor).isSome = true → on d.sensor = true) :
    (s.pass env count).sensor.Pending on ∧ ∀ e ∈ (s.pass env count).stored, on e.sensor = true := by
  have hnone : ∀ (t : Hwmsen), ∀ e ∈ (Pass.keep t count).stored, on e.sensor = true :=
    fun t e he => absurd he not_mem_nil
  unfold Hwmsen.pass
  dsimp only
  split
  · obtain ⟨hmask, hevents⟩ := processEvent_pending s.mInputReader.event.code s.mInputReader.event.value s
    exact ⟨h.of_eq hmask hevents, hnone _⟩
  · split
    · rename_i hsyn
      have hall : (s.syn env count).sensor.Pending on ∧ _ := (h.readSensorData (hrecords hsyn)).deliverAll (by decide)
      exact ⟨hall.1.of_eq rfl rfl, hall.2⟩
    · exact ⟨h.of_eq rfl rfl, hnone _⟩

theorem enable_pending (reply : EnableReply) (handle : Int) (en : Bool) (s : Hwmsen) :
    (s.enable reply handle en).1.mPendingMask = s.mPendingMask ∧
      (s.enable reply handle en).1.mPendingEvents = s.mPendingEvents := by
  unfold enable
  split
  · split
    · unfold switchOn
      dsimp only
      split_ifs <;> exact ⟨rfl, rfl⟩
    · unfold switchOff
      split_ifs <;> exact ⟨rfl, rfl⟩
  · exact ⟨rfl, rfl⟩

def Waits (s : Hwmsen) (handle : Int) : Prop := ∃ i, handleIndex handle = some i ∧ hasBit s.mPendingMask i = true

theorem Pending.switch (h : s.Pending on) {handle : Int} {en : Bool} (hoff : en = false → ¬ s.Waits handle) :
    s.Pending (Function.update on handle en) := by
  refine ⟨h.named, fun i hi hbit => ?_⟩
  by_cases heq : indexHandle i = handle
  · rw [heq, Function.update_self]
    cases en with
    | true => rfl
    | false =>
      refine absurd ⟨i, ?_, hbit⟩ (hoff rfl)
      rw [← heq]
      exact handleIndex_indexHandle hi
  · rw [Function.update_of_ne heq]
    exact h.enabled i hi hbit

end Hwmsen

/-! ## The step counter driver -/

namespace StepCounterSensor

variable {s : StepCounterSensor} {env : Surroundings} {count : Int}

theorem handle_quiet {event : InputEvent} (h : event.type ≠ .syn) (s : StepCounterSensor) :
    (s.handle env event count).stored = [] ∧
      (s.handle env event count).sensor.mPendingEvent.sensor = (report event).getD s.mPendingEvent.sensor := by
  unfold handle report
  by_cases hvalue : event.type = .abs ∨ event.type = .rel
  · rw [if_pos hvalue]
    refine ⟨rfl, ?_⟩
    unfold processEvent reportSensor
    split_ifs <;> rfl
  · rw [if_neg hvalue, if_neg hvalue, if_neg h]
    exact ⟨rfl, rfl⟩

theorem handle_syn {event : InputEvent} (hsyn : event.type = .syn) {e : SensorsEvent}
    (h : e ∈ (s.handle env event count).stored) : s.mEnabled ≠ 0 ∧ e.sensor = s.mPendingEvent.sensor := by
  unfold handle at h
  rw [if_neg (by simp [hsyn]), if_pos hsyn] at h
  unfold syn at h
  dsimp only at h
  split at h
  · rename_i henabled
    split at h
    · rw [mem_singleton.mp h]
      exact ⟨henabled, rfl⟩
    · cases h
  · cases h

end StepCounterSensor

/-! ## A driver in use -/

namespace Session

/-- The condition on a step.

  - No sensor is disabled while its data waits: a record marked pending (the old driver), or a report whose
    `EV_SYN` has not come (the step counter).
  - At an `EV_SYN`, the records the old driver fetches are of sensors that are on.
  - A report of the step counter is of a sensor that is on, and an `EV_SYN` that finds one of the three
    sensors enabled has a report before it in its frame. -/
def Sound (s : Session) : SessionMove → Prop
  | .enable handle en _ _ =>
    en = false →
      match s.sensor with
      | .hwmsen w => ¬ w.Waits handle
      | .stepCounter c => ¬ (s.reported = true ∧ c.mPendingEvent.sensor = handle)
      | _ => True
  | .read (.pass env) =>
    match s.sensor with
    | .hwmsen w =>
      w.mInputReader.event.type = .syn →
        ∀ d ∈ Hwmsen.records env, (Hwmsen.handleIndex d.sensor).isSome = true → s.lastOn d.sensor = true
    | .stepCounter c =>
      (∀ h, StepCounterSensor.report c.mInputReader.event = some h → s.lastOn h = true) ∧
      (c.mInputReader.event.type = .syn → c.mEnabled ≠ 0 → s.reported = true)
    | _ => True
  | _ => True

/-- The drivers concerned, as their constructors leave them. -/
inductive IsNew : SensorBase → Prop
  | hwmsen : IsNew (.hwmsen .new)
  | stepCounter (numEvents : Nat) : IsNew (.stepCounter (.new numEvents))

/-- One of the two drivers, and the data waiting is of sensors that are on. -/
inductive Inv : Session → Prop
  | hwmsen {w : Hwmsen} {call : Option ReadCall} {on : Int → Bool} {reported : Bool} (h : w.Pending on) :
      Inv ⟨.hwmsen w, call, on, reported⟩
  | stepCounter {c : StepCounterSensor} {call : Option ReadCall} {on : Int → Bool} {reported : Bool}
      (h : reported = true → on c.mPendingEvent.sensor = true) : Inv ⟨.stepCounter c, call, on, reported⟩

/-- Every event among the effects is of a sensor that was on. -/
def Delivers (on : Int → Bool) (out : List Effect) : Prop := ∀ e ∈ delivered out, on e.sensor = true

theorem delivers_effects {on : Int → Bool} {stored : List SensorsEvent} (accesses : List ArrayAccess)
    (h : ∀ e ∈ stored, on e.sensor = true) : Delivers on (effects stored accesses) := by
  rw [Delivers, delivered_effects]
  exact h

theorem delivers_none (on : Int → Bool) (accesses : List ArrayAccess) : Delivers on (effects [] accesses) :=
  delivers_effects accesses (fun _ he => absurd he not_mem_nil)

theorem start_inv {sensor : SensorBase} (h : IsNew sensor) : Inv (start sensor) := by
  cases h with
  | hwmsen => exact .hwmsen (Hwmsen.new_pending _)
  | stepCounter numEvents => exact .stepCounter (fun hreported => Bool.noConfusion hreported)

@[simp] theorem onAfter_nil (sensor : SensorBase) (on : Int → Bool) : onAfter sensor [] on = on := by
  funext h
  simp [onAfter]

theorem onAfter_of_not {sensor : SensorBase} (h : ∀ e, sensor.selfDisables e = false) (stored : List SensorsEvent)
    (on : Int → Bool) : onAfter sensor stored on = on := by
  funext k
  simp [onAfter, h]

variable {s : Session}

theorem Inv.enable (h : Inv s) {handle : Int} {en : Bool} {env : Surroundings} {ioctls : Hwmsen.EnableReply}
    (hsound : s.Sound (.enable handle en env ioctls)) : Inv (s.step (.enable handle en env ioctls)).1 := by
  cases h with
  | @hwmsen w call on reported hpending =>
    obtain ⟨hmask, hevents⟩ := Hwmsen.enable_pending ioctls handle en w
    exact .hwmsen ((hpending.switch hsound).of_eq hmask hevents)
  | @stepCounter c call on reported hpending =>
    have hsame : (c.enable (env.opens handle) handle en).1.mPendingEvent = c.mPendingEvent := by
      unfold StepCounterSensor.enable
      split <;> rfl
    refine .stepCounter (fun hreported => ?_)
    rw [hsame]
    by_cases heq : c.mPendingEvent.sensor = handle
    · rw [heq, Function.update_self]
      cases en with
      | true => rfl
      | false => exact absurd ⟨hreported, heq⟩ (hsound rfl)
    · rw [Function.update_of_ne heq]
      exact hpending hreported

theorem hwmsen_pass {w : Hwmsen} {on : Int → Bool} {reported : Bool} {call : ReadCall} {env : Surroundings}
    (h : w.Pending on) (hsound : Sound ⟨.hwmsen w, some call, on, reported⟩ (.read (.pass env))) :
    Inv (readStep ⟨.hwmsen w, some call, on, reported⟩ call (.pass env)).1 ∧
      Delivers on (readStep ⟨.hwmsen w, some call, on, reported⟩ call (.pass env)).2 := by
  have hpass : (w.pass env call.count).sensor.Pending on ∧ _ := h.pass hsound
  refine ⟨?_, delivers_effects [] hpass.2⟩
  unfold readStep
  dsimp only
  rw [onAfter_of_not (fun _ => rfl)]
  exact .hwmsen hpass.1

theorem stepCounter_pass {c : StepCounterSensor} {on : Int → Bool} {reported : Bool} {call : ReadCall}
    {env : Surroundings} (h : reported = true → on c.mPendingEvent.sensor = true)
    (hsound : Sound ⟨.stepCounter c, some call, on, reported⟩ (.read (.pass env))) :
    Inv (readStep ⟨.stepCounter c, some call, on, reported⟩ call (.pass env)).1 ∧
      Delivers on (readStep ⟨.stepCounter c, some call, on, reported⟩ call (.pass env)).2 := by
  obtain ⟨hreport, hsyn⟩ := hsound
  by_cases hend : c.mInputReader.event.type = .syn
  · refine ⟨.stepCounter (fun hafter => ?_), delivers_effects [] (fun e he => ?_)⟩
    · have hcleared : (SensorBase.stepCounter c).reportedAfter reported = true := hafter
      simp [SensorBase.reportedAfter, hend] at hcleared
    · obtain ⟨henabled, hsensor⟩ := StepCounterSensor.handle_syn hend he
      rw [hsensor]
      exact h (hsyn hend henabled)
  · have hquiet : (c.handle env c.mInputReader.event call.count).stored = [] ∧ _ :=
      StepCounterSensor.handle_quiet hend c
    obtain ⟨hnone, hsensor⟩ := hquiet
    refine ⟨.stepCounter (fun hafter => ?_), delivers_effects [] (fun e he => ?_)⟩
    · show onAfter _ (c.handle env c.mInputReader.event call.count).stored on
        (c.handle env c.mInputReader.event call.count).sensor.mPendingEvent.sensor = true
      rw [hnone, onAfter_nil, hsensor]
      cases hcode : StepCounterSensor.report c.mInputReader.event with
      | some k => exact hreport k hcode
      | none =>
        have hkept : (SensorBase.stepCounter c).reportedAfter reported = true := hafter
        exact h (by simpa [SensorBase.reportedAfter, hend, hcode] using hkept)
    · have he' : e ∈ (c.handle env c.mInputReader.event call.count).stored := he
      rw [hnone] at he'
      cases he'

theorem Inv.withCall (h : Inv s) (call : Option ReadCall) : Inv { s with call := call } := by
  cases h with
  | hwmsen h => exact .hwmsen h
  | stepCounter h => exact .stepCounter h

theorem Inv.withReader (h : Inv s) (r : InputEventCircularReader) : Inv { s with sensor := s.sensor.withReader r } := by
  cases h with
  | hwmsen h => exact .hwmsen (h.of_eq rfl rfl)
  | stepCounter h => exact .stepCounter h

theorem Inv.idle (h : Inv s) (call : ReadCall) :
    (∀ now, ReadMove.step s.sensor call (.scan now) = .stay s.sensor call call.stage) ∧
      ∀ reply cells, ReadMove.step s.sensor call (.query reply cells) = .stay s.sensor call call.stage := by
  cases h with
  | hwmsen h | stepCounter h => exact ⟨fun _ => rfl, fun _ _ => rfl⟩

theorem Inv.read (h : Inv s) {call : ReadCall} (hcall : s.call = some call) {m : ReadMove}
    (hsound : s.Sound (.read m)) : Inv (s.readStep call m).1 ∧ Delivers s.lastOn (s.readStep call m).2 := by
  have hnone : Delivers s.lastOn (effects [] []) := delivers_none _ _
  cases m with
  | enter =>
    simp only [readStep, ReadMove.step, Moved.stay, onAfter_nil]
    exact ⟨h.withCall _, hnone⟩
  | scan now =>
    simp only [readStep, (h.idle call).1 now, Moved.stay, onAfter_nil]
    exact ⟨h.withCall _, hnone⟩
  | query reply cells =>
    simp only [readStep, (h.idle call).2 reply cells, Moved.stay, onAfter_nil]
    exact ⟨h.withCall _, hnone⟩
  | fill reply =>
    simp only [readStep, ReadMove.step, ReadMove.fillStep, Moved.stay, onAfter_nil]
    exact ⟨(h.withReader _).withCall _, hnone⟩
  | pass env =>
    cases h with
    | hwmsen hpending =>
      obtain rfl := hcall
      exact hwmsen_pass hpending hsound
    | stepCounter hpending =>
      obtain rfl := hcall
      exact stepCounter_pass hpending hsound

/-- **One step**: the events it stores are of sensors that are on, and the data then waiting is too. -/
theorem Inv.step (h : Inv s) {move : SessionMove} (hen : EnabledIn s.sensor s.call move) (hsound : s.Sound move) :
    Inv (s.step move).1 ∧ Delivers s.lastOn (s.step move).2 := by
  have hnone : ∀ accesses, Delivers s.lastOn (effects [] accesses) := delivers_none _
  cases move with
  | enable handle en env ioctls => exact ⟨h.enable hsound, hnone _⟩
  | flush handle =>
    cases h with
    | hwmsen hpending => exact ⟨.hwmsen hpending, hnone []⟩
    | stepCounter hpending => exact ⟨.stepCounter hpending, hnone []⟩
  | call count | leave => exact ⟨h.withCall _, hnone []⟩
  | read m =>
    cases hcall : s.call with
    | none =>
      rw [hcall] at hen
      exact hen.elim
    | some call =>
      have hstep : s.step (.read m) = s.readStep call m := by
        simp [Session.step, hcall]
      rw [hstep]
      exact h.read hcall hsound

/-- **No events for disabled sensors**, in every run of the old driver or the step counter in which data
    comes for enabled sensors only, no sensor is disabled while its data waits, and the step counter's
    frames have a report: every event delivered is of a handle whose last `enable` call was an enable. -/
theorem delivered_enabled {sensor : SensorBase} (hnew : IsNew sensor)
    {tr : List (Transducer.Entry Session SessionMove Effect)} (hrun : (machine sensor).Run tr s)
    (hsound : ∀ x ∈ tr, Sound x.pre x.event) {x : Transducer.Entry Session SessionMove Effect} (hx : x ∈ tr)
    {e : SensorsEvent} (he : e ∈ delivered x.out) : x.pre.lastOn e.sensor = true := by
  have hall : Inv s ∧ ∀ x ∈ tr, Delivers x.pre.lastOn x.out :=
    hrun.outputs_along (start_inv hnew) (fun s move hinv hen hlast => hinv.step hen hlast) hsound
  exact hall.2 x hx e he

/-! ### Runs on fixed inputs -/

def gyroData : Surroundings := ⟨1, 1, fun _ => true, [⟨idGyroscope, [1, 2, 3], [], 1, 3, 1, 0⟩], fun _ _ => 0⟩

/-- The old driver with one sensor enabled; the data its device then announces is the gyroscope's. -/
def gyroRun (handle : Int) : List SessionMove :=
  [.enable handle true gyroData ⟨true, true, true⟩, .call 1, .read .enter,
    .read (.fill (.events [⟨0, .syn, 0, 0⟩])), .read (.pass gyroData)]

theorem delivered_enabled_gyro :
    ∃ x ∈ ((machine (.hwmsen .new)).exec (gyroRun idGyroscope)).1, ∃ e ∈ delivered x.out,
      e.sensor = idGyroscope ∧ x.pre.lastOn e.sensor = true := by
  have hadm : (machine (.hwmsen .new)).Admissible (machine (.hwmsen .new)).init (gyroRun idGyroscope) := by decide
  have hrun := Transducer.run_exec _ hadm
  have hdelivers : ∃ x ∈ ((machine (.hwmsen .new)).exec (gyroRun idGyroscope)).1, ∃ e ∈ delivered x.out,
      e.sensor = idGyroscope := by
    decide
  obtain ⟨x, hx, e, he, hsensor⟩ := hdelivers
  refine ⟨x, hx, e, he, hsensor, delivered_enabled .hwmsen hrun (Transducer.exec_along _ ?_) hx he⟩
  exact ⟨fun hoff => Bool.noConfusion hoff, trivial, trivial, trivial, fun _ => by decide, trivial⟩

/-- With the accelerometer enabled the gyroscope's event is delivered too, though it was never enabled. -/
theorem delivered_disabled :
    ¬ ∀ tr s, (machine (.hwmsen .new)).Run tr s → ∀ x ∈ tr, ∀ e ∈ delivered x.out, x.pre.lastOn e.sensor = true := by
  intro hall
  have hadm : (machine (.hwmsen .new)).Admissible (machine (.hwmsen .new)).init (gyroRun idAccelerometer) := by
    decide
  have hdelivers : ∃ x ∈ ((machine (.hwmsen .new)).exec (gyroRun idAccelerometer)).1, ∃ e ∈ delivered x.out,
      x.pre.lastOn e.sensor = false := by
    decide
  obtain ⟨x, hx, e, he, hoff⟩ := hdelivers
  have hon : x.pre.lastOn e.sensor = true := hall _ _ (Transducer.run_exec _ hadm) x hx e he
  rw [hoff] at hon
  cases hon

end Session

end HuaweiY5.Sensors
