import HuaweiY5.Mnld.Handlers

/-!
# `GpsHal.System` — the GPS HAL in front of mnld

The HAL runs on two threads of the system server. The framework's thread calls `gpsinf_start` and
`gpsinf_stop`, which record the wish in `gps_state_intent` and then send START or STOP to mnld. The worker
thread waits for mnld's messages; on a reboot message it reads the intent and tells the new mnld about it
(`update_mnld_reboot`). Neither thread takes `mutex_gps_state_intent`, so every access to the intent and every
send is a step of its own here.
-/

namespace HuaweiY5.GpsHal

open Mnld

/-- `gpshal_state`, in the order of the source. -/
inductive GpshalState
  | unknown
  | resource
  | cleanup
  | init
  | stop
  | start
deriving DecidableEq

/-- The numeric value of a state: "state order is important". -/
def GpshalState.rank : GpshalState → Nat
  | .unknown => 0
  | .resource => 1
  | .cleanup => 2
  | .init => 3
  | .stop => 4
  | .start => 5

/-- The two state fields of `gpshal_context_t`. -/
structure HalContext where
  gpsStateIntent : GpshalState
  gpsState : GpshalState
deriving DecidableEq

/-- The messages of `hal2mnl_interface` the two threads send. -/
inductive HalMsg
  | gpsInit
  | gpsStart
  | gpsStop
deriving DecidableEq

/-- The state `gpshal2mnl_gps_*` records once the message is sent. -/
def HalMsg.reached : HalMsg → GpshalState
  | .gpsInit => .init
  | .gpsStart => .start
  | .gpsStop => .stop

/-- The handler of `mnld.c` each message runs. -/
def HalMsg.event (epo : EpoEnv) : HalMsg → MainEvent
  | .gpsInit => .halGpsInit
  | .gpsStart => .halGpsStart epo
  | .gpsStop => .halGpsStop

/-- Where the worker is in `update_mnld_reboot`. -/
inductive WorkerPc
  | idle
  | readIntent
  | send (msg : HalMsg) (rest : List HalMsg)
deriving DecidableEq

/-- The messages `update_mnld_reboot` sends for the intent it read. -/
def updateMnldReboot : GpshalState → List HalMsg
  | .init | .stop => [.gpsInit]
  | .start => [.gpsInit, .gpsStart]
  | .cleanup | .unknown | .resource => []

def WorkerPc.sending : List HalMsg → WorkerPc
  | [] => .idle
  | msg :: rest => .send msg rest

/-- The HAL, mnld, and the messages under way between them. -/
structure HalSystem where
  hal : HalContext
  /-- the message the framework's call has still to send -/
  fw : Option HalMsg
  worker : WorkerPc
  /-- reboot messages waiting for the worker -/
  toHal : Nat
  toMnld : List HalMsg
  mnld : MnldContext

inductive HalEvent
  | call (start : Bool)
  | fwSend
  | workerTake
  | workerRead
  | workerSend
  | deliver (epo : EpoEnv)
  | mnld (e : MainEvent)
  | restart (lost : Nat)
deriving DecidableEq

def callMsg (start : Bool) : HalMsg := if start then .gpsStart else .gpsStop

def callIntent (start : Bool) : GpshalState := if start then .start else .stop

/-- `gpshal2mnl_gps_init`, `gpshal2mnl_gps_start`, `gpshal2mnl_gps_stop`: a send, unless the HAL has no
    resources. -/
def HalSystem.gpshal2mnl (msg : HalMsg) (s : HalSystem) : HalSystem :=
  if GpshalState.resource.rank ≤ s.hal.gpsState.rank then
    { s with toMnld := s.toMnld ++ [msg], hal.gpsState := msg.reached }
  else s

/-- mnld's main thread handles one event; its reboot messages go to the HAL. -/
def HalSystem.handle (e : MainEvent) (s : HalSystem) : HalSystem :=
  let t := Mnld.handle e ⟨s.mnld, []⟩
  { s with mnld := t.ctx, toHal := s.toHal + t.sent.count .mnl2halMnldReboot }

def HalSystem.step (s : HalSystem) : HalEvent → HalSystem
  -- gpsinf_start, gpsinf_stop: gpshal_set_gps_state_intent, and then …
  | .call start => { s with hal.gpsStateIntent := callIntent start, fw := some (callMsg start) }
  -- … gpshal2mnl_gps_start or gpshal2mnl_gps_stop
  | .fwSend =>
    match s.fw with
    | some msg => { s.gpshal2mnl msg with fw := none }
    | none => s
  | .workerTake => { s with toHal := s.toHal - 1, worker := .readIntent }
  | .workerRead => { s with worker := .sending (updateMnldReboot s.hal.gpsStateIntent) }
  | .workerSend =>
    match s.worker with
    | .send msg rest => { s.gpshal2mnl msg with worker := .sending rest }
    | .idle | .readIntent => s
  | .deliver epo =>
    match s.toMnld with
    | msg :: rest => { s with toMnld := rest }.handle (msg.event epo)
    | [] => s
  | .mnld e => s.handle e
  -- main: memset(&g_mnld_ctx, 0, …) and mnl2hal_mnld_reboot
  | .restart lost => { s with mnld := .zero, toHal := s.toHal + 1, toMnld := s.toMnld.drop lost }

/-- The events that reach mnld through the HAL's socket, and only so. -/
def fromHal : MainEvent → Bool
  | .halReboot | .halGpsInit | .halGpsStart _ | .halGpsStop | .halGpsCleanup => true
  | _ => false

def HalSystem.enabled (s : HalSystem) : HalEvent → Prop
  | .call _ => s.fw = none
  | .fwSend => s.fw ≠ none
  | .workerTake => s.worker = .idle ∧ 0 < s.toHal
  | .workerRead => s.worker = .readIntent
  | .workerSend => s.worker ≠ .idle ∧ s.worker ≠ .readIntent
  | .deliver _ => s.toMnld ≠ []
  | .mnld e => fromHal e = false ∧ mnldMachine.enabled s.mnld e
  | .restart _ => True

/-- **The HAL and mnld** after `gpsinf_init`: INIT is under way, mnld has just started. -/
def halMachine : Transducer HalSystem HalEvent Unit where
  init := ⟨⟨.init, .init⟩, none, .idle, 0, [.gpsInit], .zero⟩
  enabled := HalSystem.enabled
  step s e := (s.step e, [])

abbrev HalEntry := Transducer.Entry HalSystem HalEvent Unit

/-- `gps_used` of mnld's HAL client. -/
def HalSystem.halUsed (s : HalSystem) : Bool := (s.mnld.clients .hal).gpsUsed

/-! ## What mnld makes of the messages -/

theorem mnldFsm_gpsUsed (ev : GpsEvent) (d : Int) (t : Turn) (c : GpsClient) :
    ((mnldFsm ev d t).ctx.clients c).gpsUsed = (t.ctx.clients c).gpsUsed := by
  cases hst : t.ctx.gpsState with
  | idle => cases ev <;> simp [mnldFsm, hst, fsmGpsStateIdle, resetAcked]
  | starting =>
    cases ev <;> simp [mnldFsm, hst, fsmGpsStateStarting]
    split <;> simp [resetAcked]
  | started =>
    cases ev <;> simp [mnldFsm, hst, fsmGpsStateStarted, resetAcked]
    · split <;> simp [resetAcked]
    · split <;> rfl
  | stopping =>
    cases ev <;> simp [mnldFsm, hst, fsmGpsStateStopping, resetAcked]
    split <;> simp [resetAcked]

theorem count_reboot_eq_zero {os : List Output} (h : ∀ o ∈ os, o ≠ .mnl2halMnldReboot) :
    os.count .mnl2halMnldReboot = 0 :=
  List.count_eq_zero.mpr fun hmem => h _ hmem rfl

@[simp] theorem count_reboot_openAcksSent (si : Int) (x : MnldContext) :
    (openAcksSent si x).count .mnl2halMnldReboot = 0 := by
  refine count_reboot_eq_zero fun o ho => ?_
  obtain ⟨c, -, ho⟩ := List.mem_flatMap.mp ho
  rintro rfl
  cases c <;> split at ho <;> simp [openAckMsgs] at ho

variable (x : MnldContext)

@[simp] theorem count_reboot_closeAcksSent : (closeAcksSent x).count .mnl2halMnldReboot = 0 := by
  refine count_reboot_eq_zero fun o ho => ?_
  obtain ⟨c, -, ho⟩ := List.mem_flatMap.mp ho
  rintro rfl
  cases c <;> split at ho <;> simp [closeAckMsgs] at ho

@[simp] theorem count_reboot_resetAckSent : (resetAckSent x).count .mnl2halMnldReboot = 0 := by
  unfold resetAckSent; split <;> rfl

@[simp] theorem count_reboot_aidingSent : (aidingSent x).count .mnl2halMnldReboot = 0 := by
  unfold aidingSent
  split
  · exact count_reboot_eq_zero (by simp)
  · rfl

@[simp] theorem mnldFsm_count_reboot (ev : GpsEvent) (d : Int) (t : Turn) :
    (mnldFsm ev d t).sent.count .mnl2halMnldReboot = t.sent.count .mnl2halMnldReboot := by
  cases hst : t.ctx.gpsState with
  | idle => cases ev <;> simp [mnldFsm, hst, fsmGpsStateIdle]
  | starting =>
    cases ev <;> simp [mnldFsm, hst, fsmGpsStateStarting]
    split <;> simp
  | started =>
    cases ev <;> simp [mnldFsm, hst, fsmGpsStateStarted]
    · split <;> simp
    · split <;> simp
  | stopping =>
    cases ev <;> simp [mnldFsm, hst, fsmGpsStateStopping]
    split <;> simp

/-- What a message makes of `gps_used`. -/
def HalMsg.write (used : Bool) : HalMsg → Bool
  | .gpsInit => used
  | .gpsStart => true
  | .gpsStop => false

theorem handle_msg_halUsed (epo : EpoEnv) (msg : HalMsg) :
    ((handle (msg.event epo) ⟨x, []⟩).ctx.clients .hal).gpsUsed = msg.write (x.clients .hal).gpsUsed := by
  cases msg with
  | gpsInit => rfl
  | gpsStart =>
    refine (mnldFsm_gpsUsed _ _ _ _).trans ?_
    unfold halStartGpsTriggerEpoDownload
    split <;> rfl
  | gpsStop => exact mnldFsm_gpsUsed _ _ _ _

theorem handle_msg_count_reboot (epo : EpoEnv) (msg : HalMsg) :
    (handle (msg.event epo) ⟨x, []⟩).sent.count .mnl2halMnldReboot = 0 := by
  cases msg with
  | gpsInit => rfl
  | gpsStart =>
    refine (mnldFsm_count_reboot _ _ _).trans ?_
    unfold halStartGpsTriggerEpoDownload
    split
    · exact count_reboot_eq_zero (by simp)
    · rfl
  | gpsStop => exact mnldFsm_count_reboot _ _ _

theorem handle_other_halUsed {e : MainEvent} (he : fromHal e = false) :
    ((handle e ⟨x, []⟩).ctx.clients .hal).gpsUsed = (x.clients .hal).gpsUsed ∨
      ((handle e ⟨x, []⟩).ctx.clients .hal).gpsUsed = false ∧
        0 < (handle e ⟨x, []⟩).sent.count .mnl2halMnldReboot := by
  have hclient : ∀ (ev : GpsEvent) (c : GpsClient) (f : ClientFlags → ClientFlags) (t : Turn), c ≠ .hal →
      ((mnldFsm ev 0 (t.writeClient c f)).ctx.clients .hal).gpsUsed = (t.ctx.clients .hal).gpsUsed :=
    fun ev c f t hc => (mnldFsm_gpsUsed _ _ _ _).trans
      (congrArg ClientFlags.gpsUsed (Function.update_of_ne (Ne.symm hc) _ _))
  cases e with
  | halReboot | halGpsInit | halGpsStart _ | halGpsStop | halGpsCleanup => cases he
  | halGpsDeleteAidingData flags => exact .inl (mnldFsm_gpsUsed _ _ _ _)
  | agpsReboot | agpsOpenGpsReq | agpsCloseGpsReq | flpReboot | flpGpsStart _ | flpGpsStop _
  | flpTestGpsStart | flpTestGpsStop | factoryGpsStart | factoryGpsStop | atTestGpsStart | atTestGpsStop =>
    exact .inl (hclient _ _ _ _ (by decide))
  | agpsResetGpsReq flags =>
    left
    simp only [handle, agpsResetGpsReq]
    split
    · rfl
    · exact hclient _ _ _ _ (by decide)
  | startDone isAssistReq | stopDone => exact .inl (mnldFsm_gpsUsed _ _ _ _)
  | resetDone => left; simp [handle, mainEventResetDone, resetAcked]
  | nmeaTimeout =>
    simp only [handle, mainEventNmeaTimeout]
    split
    · right
      refine ⟨mnldFsm_gpsUsed _ _ _ _, ?_⟩
      simp only [Turn.send_sent, List.count_append]
      exact Nat.add_pos_right _ (by decide)
    · exact .inl rfl

end HuaweiY5.GpsHal
