import HuaweiY5.Lib.Transducer
import HuaweiY5.Mnld.Fsm

/-!
# `Mnld.Handlers` — the requests the main thread handles, and its runs

The sockets of `mnld_main_thread` deliver requests of the six clients (`hal_*`, `agps_*`, `flp2mnl_*`,
`flp_test2mnl_*`, `at_test2mnl_*`, `factory_mnld_*`) and the internal events of `main_event_hdlr`. Every
client's start, stop and reboot writes that client's flags and then runs the FSM, so the three families
are one definition each; `hal_gps_start` alone does something in between.
-/

namespace HuaweiY5.Mnld

/-- What `hal_start_gps_trigger_epo_download` asks the EPO module: `epo_downloader_is_file_invalid` and
    `epo_is_epo_download_enabled`. -/
structure EpoEnv where
  fileInvalid : Bool
  downloadEnabled : Bool
deriving DecidableEq

inductive MainEvent
  | halReboot
  | halGpsInit
  | halGpsStart (epo : EpoEnv)
  | halGpsStop
  | halGpsCleanup
  | halGpsDeleteAidingData (flags : BitVec 32)
  | agpsReboot
  | agpsOpenGpsReq
  | agpsCloseGpsReq
  | agpsResetGpsReq (flags : BitVec 32)
  | flpReboot
  | flpGpsStart (mnlMode : Int)
  | flpGpsStop (mnlMode : Int)
  | flpTestGpsStart
  | flpTestGpsStop
  | factoryGpsStart
  | factoryGpsStop
  | atTestGpsStart
  | atTestGpsStop
  | startDone (isAssistReq : Int)
  | stopDone
  | resetDone
  | nmeaTimeout
deriving DecidableEq

/-! ## The client families -/

/-- The flags a start request writes; `ack` says whether the client wants an open acknowledgement. -/
def startFlags (ack : Bool) (f : ClientFlags) : ClientFlags :=
  { f with gpsUsed := true, needOpenAck := ack, needCloseAck := false }

/-- The flags a stop request writes; `ack` says whether the client wants a close acknowledgement. -/
def stopFlags (ack : Bool) (f : ClientFlags) : ClientFlags :=
  { f with gpsUsed := false, needOpenAck := false, needCloseAck := ack }

/-- The flags of a client that asks for nothing; a reboot writes these. -/
def noFlags : ClientFlags := ⟨false, false, false, false⟩

def clientStart (c : GpsClient) (ack : Bool) (t : Turn) : Turn := mnldFsm .start 0 (t.writeClient c (startFlags ack))

def clientStop (c : GpsClient) (ack : Bool) (t : Turn) : Turn := mnldFsm .stop 0 (t.writeClient c (stopFlags ack))

def clientReboot (c : GpsClient) (t : Turn) : Turn := mnldFsm .stop 0 (t.writeClient c fun _ => noFlags)

/-! ## HAL → MNL -/

def halReboot : Turn → Turn := clientReboot .hal

def halGpsInit (t : Turn) : Turn :=
  (t.write fun x => { x with isGpsInit := true }).send [.gpsDriverStateInit, .mnl2agpsGpsInit]

def halStartGpsTriggerEpoDownload (epo : EpoEnv) (t : Turn) : Turn :=
  if t.ctx.isEpoDownloading = false ∧ epo.fileInvalid ∧ epo.downloadEnabled then
    (t.write fun x => { x with isEpoDownloading := true }).send [.epoDownloaderStart]
  else t

def halGpsStart (epo : EpoEnv) (t : Turn) : Turn :=
  let t := t.writeClient .hal (startFlags true)
  let t := halStartGpsTriggerEpoDownload epo t
  mnldFsm .start 0 t

def halGpsStop : Turn → Turn := clientStop .hal true

def halGpsCleanup (t : Turn) : Turn := (t.write fun x => { x with isGpsInit := false }).send [.mnl2agpsGpsCleanup]

def halGpsDeleteAidingData (flags : BitVec 32) (t : Turn) : Turn :=
  let t := t.send [.mnl2agpsDeleteAidingData flags]
  let t := t.writeClient .hal fun f => { f with needResetAck := false }  -- HAL no need the ACK
  let t := t.write fun x => { x with deleteAidingFlag := x.deleteAidingFlag ||| flags }
  mnldFsm .reset 0 t

/-! ## AGPSD → MNL -/

def agpsReboot : Turn → Turn := clientReboot .agps

def agpsOpenGpsReq : Turn → Turn := clientStart .agps true

def agpsCloseGpsReq : Turn → Turn := clientStop .agps true

def agpsResetGpsReq (flags : BitVec 32) (t : Turn) : Turn :=
  if flags = 0 then t.send [.mnl2agpsResetGpsDone]
  else
    let t := t.write fun x => { x with deleteAidingFlag := x.deleteAidingFlag ||| flags }
    let t := t.writeClient .agps fun f => { f with needResetAck := true }
    mnldFsm .reset 0 t

/-! ## FLP, the test clients and the factory mode → MNL -/

/-- `mnl_offload_set_enabled` / `mnl_offload_clear_enabled`, as `flp2mnl_hdlr` picks them from the mode. -/
def setOffload (mnlMode : Int) (t : Turn) : Turn := t.write fun x => { x with offloadEnabled := mnlMode == 1 }

def flp2mnlFlpReboot : Turn → Turn := clientReboot .flp

/-- The FLPMNL_GPS_START case of `flp2mnl_hdlr`: the mode, then `flp2mnl_gps_start`. -/
def flp2mnlGpsStart (mnlMode : Int) (t : Turn) : Turn := clientStart .flp true (setOffload mnlMode t)

/-- The FLPMNL_GPS_STOP case of `flp2mnl_hdlr`: the mode, then `flp2mnl_gps_stop`. -/
def flp2mnlGpsStop (mnlMode : Int) (t : Turn) : Turn := clientStop .flp true (setOffload mnlMode t)

def flpTest2mnlGpsStart : Turn → Turn := clientStart .flpTest false

def flpTest2mnlGpsStop : Turn → Turn := clientStop .flpTest false

def factoryMnldGpsStart : Turn → Turn := clientStart .factory false

def factoryMnldGpsStop : Turn → Turn := clientStop .factory false

def atTest2mnlGpsStart : Turn → Turn := clientStart .atCmdTest false

def atTest2mnlGpsStop : Turn → Turn := clientStop .atCmdTest false

/-! ## ALL → MAIN -/

/-- The GPS2MAIN_EVENT_RESET_DONE case of `main_event_hdlr`. -/
def mainEventResetDone (t : Turn) : Turn :=
  doGpsResetHdlr (t.write fun x => { x with timerReset := false })

/-- The GPS2MAIN_EVENT_NMEA_TIMEOUT case of `main_event_hdlr`. -/
def mainEventNmeaTimeout (t : Turn) : Turn :=
  if mnldIsGpsStartedDone t.ctx then
    let t := mtkGpsClearGpsUser t
    let t := mnldFsm .stop 0 t
    -- send the reboot message to the related modules
    t.send [.mnl2halMnldReboot, .mnl2agpsMnlReboot, .mnl2flpMnldReboot, .gpsControlMnlSetStatus]
  else t

def handle : MainEvent → Turn → Turn
  | .halReboot => halReboot
  | .halGpsInit => halGpsInit
  | .halGpsStart epo => halGpsStart epo
  | .halGpsStop => halGpsStop
  | .halGpsCleanup => halGpsCleanup
  | .halGpsDeleteAidingData flags => halGpsDeleteAidingData flags
  | .agpsReboot => agpsReboot
  | .agpsOpenGpsReq => agpsOpenGpsReq
  | .agpsCloseGpsReq => agpsCloseGpsReq
  | .agpsResetGpsReq flags => agpsResetGpsReq flags
  | .flpReboot => flp2mnlFlpReboot
  | .flpGpsStart mnlMode => flp2mnlGpsStart mnlMode
  | .flpGpsStop mnlMode => flp2mnlGpsStop mnlMode
  | .flpTestGpsStart => flpTest2mnlGpsStart
  | .flpTestGpsStop => flpTest2mnlGpsStop
  | .factoryGpsStart => factoryMnldGpsStart
  | .factoryGpsStop => factoryMnldGpsStop
  | .atTestGpsStart => atTest2mnlGpsStart
  | .atTestGpsStop => atTest2mnlGpsStop
  | .startDone isAssistReq => mnldFsm .startDone isAssistReq
  | .stopDone => mnldFsm .stopDone 0
  | .resetDone => mainEventResetDone
  | .nmeaTimeout => mainEventNmeaTimeout

def handleEvent (x : MnldContext) (e : MainEvent) : MnldContext × List Output :=
  ((handle e ⟨x, []⟩).ctx, (handle e ⟨x, []⟩).sent)

/-- **The main thread.** STOP_DONE is delivered only in STOPPING, everything else at any time. -/
def mnldMachine : Transducer MnldContext MainEvent Output where
  init := .zero
  enabled x e := e = .stopDone → x.gpsState = .stopping
  step := handleEvent

/-! ## What an event does, said once

Every event writes at most one client's flags and some deletion flags and then runs the FSM on an FSM
event; RESET_DONE and the NMEA timeout are the two exceptions. `handle_cases` is that classification as
an elimination rule: a fact about every event has one case per kind, not one per handler. -/

inductive EventKind
  | start (c : GpsClient)
  | stop (c : GpsClient)
  | reboot (c : GpsClient)
  | halDelete (flags : BitVec 32)
  | agpsReset (flags : BitVec 32)
  | startDone (isAssistReq : Int)
  | stopDone
  | resetDone
  | nmeaTimeout
  | other
deriving DecidableEq

def MainEvent.kind : MainEvent → EventKind
  | .halReboot => .reboot .hal
  | .halGpsInit => .other
  | .halGpsStart _ => .start .hal
  | .halGpsStop => .stop .hal
  | .halGpsCleanup => .other
  | .halGpsDeleteAidingData flags => .halDelete flags
  | .agpsReboot => .reboot .agps
  | .agpsOpenGpsReq => .start .agps
  | .agpsCloseGpsReq => .stop .agps
  | .agpsResetGpsReq flags => .agpsReset flags
  | .flpReboot => .reboot .flp
  | .flpGpsStart _ => .start .flp
  | .flpGpsStop _ => .stop .flp
  | .flpTestGpsStart => .start .flpTest
  | .flpTestGpsStop => .stop .flpTest
  | .factoryGpsStart => .start .factory
  | .factoryGpsStop => .stop .factory
  | .atTestGpsStart => .start .atCmdTest
  | .atTestGpsStop => .stop .atCmdTest
  | .startDone isAssistReq => .startDone isAssistReq
  | .stopDone => .stopDone
  | .resetDone => .resetDone
  | .nmeaTimeout => .nmeaTimeout

theorem MainEvent.eq_of_kind_startDone {m : MainEvent} {a : Int} (h : m.kind = .startDone a) : m = .startDone a := by
  cases m <;> cases h; rfl

theorem MainEvent.eq_of_kind_stopDone {m : MainEvent} (h : m.kind = .stopDone) : m = .stopDone := by
  cases m <;> cases h; rfl

theorem MainEvent.eq_of_kind_resetDone {m : MainEvent} (h : m.kind = .resetDone) : m = .resetDone := by
  cases m <;> cases h; rfl

def GpsClient.wantsAck : GpsClient → Bool
  | .hal | .agps | .flp => true
  | .flpTest | .atCmdTest | .factory => false

/-- A handler about to run the FSM: from the context `x` it wrote the flags `f` of client `c` and added the
    deletion flags `fl`; it sent at most the EPO trigger and the copy of a HAL deletion for agpsd. -/
structure Prepared (x : MnldContext) (c : GpsClient) (f : ClientFlags) (fl : BitVec 32) (t : Turn) :
    Prop where
  clients : t.ctx.clients = Function.update x.clients c f
  gpsState : t.ctx.gpsState = x.gpsState
  flag : t.ctx.deleteAidingFlag = x.deleteAidingFlag ||| fl
  timerReset : t.ctx.timerReset = x.timerReset
  sent : ∀ o ∈ t.sent, o = .epoDownloaderStart ∨ ∃ flags, o = .mnl2agpsDeleteAidingData flags

/-- **The events by kind.** To prove `P e` of the handler of every event `e`, prove it of the FSM call each
    kind of event ends in, of RESET_DONE and the NMEA timeout, and of the handlers that leave the GPS
    status alone: an AGPS reset of no flags is acknowledged on the spot. -/
theorem handle_cases {x : MnldContext} {P : MainEvent → Turn → Prop}
    (start : ∀ (e : MainEvent) (c : GpsClient) (t : Turn), e.kind = .start c →
      Prepared x c (startFlags c.wantsAck (x.clients c)) 0 t → P e (mnldFsm .start 0 t))
    (stop : ∀ (e : MainEvent) (c : GpsClient) (t : Turn), e.kind = .stop c →
      Prepared x c (stopFlags c.wantsAck (x.clients c)) 0 t → P e (mnldFsm .stop 0 t))
    (reboot : ∀ (e : MainEvent) (c : GpsClient) (t : Turn), e.kind = .reboot c →
      Prepared x c noFlags 0 t → P e (mnldFsm .stop 0 t))
    (halDelete : ∀ (e : MainEvent) (flags : BitVec 32) (t : Turn), e.kind = .halDelete flags →
      Prepared x .hal { x.clients .hal with needResetAck := false } flags t → P e (mnldFsm .reset 0 t))
    (agpsReset : ∀ (e : MainEvent) (flags : BitVec 32) (t : Turn), e.kind = .agpsReset flags → flags ≠ 0 →
      Prepared x .agps { x.clients .agps with needResetAck := true } flags t → P e (mnldFsm .reset 0 t))
    (agpsResetNone : ∀ e : MainEvent, e.kind = .agpsReset 0 → P e ⟨x, [.mnl2agpsResetGpsDone]⟩)
    (startDone : ∀ (e : MainEvent) (assist : Int), e.kind = .startDone assist →
      P e (mnldFsm .startDone assist ⟨x, []⟩))
    (stopDone : ∀ e : MainEvent, e.kind = .stopDone → P e (mnldFsm .stopDone 0 ⟨x, []⟩))
    (resetDone : ∀ e : MainEvent, e.kind = .resetDone → P e (mainEventResetDone ⟨x, []⟩))
    (nmeaTimeout : ∀ e : MainEvent, e.kind = .nmeaTimeout → P e (mainEventNmeaTimeout ⟨x, []⟩))
    (other : ∀ (e : MainEvent) (t : Turn), e.kind = .other → (∃ b, t.ctx = { x with isGpsInit := b }) →
      (∀ o ∈ t.sent, o = .gpsDriverStateInit ∨ o = .mnl2agpsGpsInit ∨ o = .mnl2agpsGpsCleanup) → P e t)
    (e : MainEvent) : P e (handle e ⟨x, []⟩) := by
  have hor : x.deleteAidingFlag = x.deleteAidingFlag ||| 0 := (BitVec.or_zero).symm
  cases e with
  | halReboot => exact reboot _ .hal _ rfl ⟨rfl, rfl, hor, rfl, by simp⟩
  | halGpsInit => exact other _ _ rfl ⟨true, rfl⟩ (by simp [handle, halGpsInit])
  | halGpsStart epo =>
    refine start _ .hal _ rfl ?_
    unfold halStartGpsTriggerEpoDownload
    split <;> exact ⟨rfl, rfl, hor, rfl, by simp⟩
  | halGpsStop => exact stop _ .hal _ rfl ⟨rfl, rfl, hor, rfl, by simp⟩
  | halGpsCleanup => exact other _ _ rfl ⟨false, rfl⟩ (by simp [handle, halGpsCleanup])
  | halGpsDeleteAidingData flags => exact halDelete _ _ _ rfl ⟨rfl, rfl, rfl, rfl, by simp⟩
  | agpsReboot => exact reboot _ .agps _ rfl ⟨rfl, rfl, hor, rfl, by simp⟩
  | agpsOpenGpsReq => exact start _ .agps _ rfl ⟨rfl, rfl, hor, rfl, by simp⟩
  | agpsCloseGpsReq => exact stop _ .agps _ rfl ⟨rfl, rfl, hor, rfl, by simp⟩
  | agpsResetGpsReq flags =>
    simp only [handle, agpsResetGpsReq]
    split
    · rename_i hz
      subst hz
      exact agpsResetNone _ rfl
    · rename_i hz
      exact agpsReset _ _ _ rfl hz ⟨rfl, rfl, rfl, rfl, by simp⟩
  | flpReboot => exact reboot _ .flp _ rfl ⟨rfl, rfl, hor, rfl, by simp⟩
  | flpGpsStart mode => exact start _ .flp _ rfl ⟨rfl, rfl, hor, rfl, by simp [setOffload]⟩
  | flpGpsStop mode => exact stop _ .flp _ rfl ⟨rfl, rfl, hor, rfl, by simp [setOffload]⟩
  | flpTestGpsStart => exact start _ .flpTest _ rfl ⟨rfl, rfl, hor, rfl, by simp⟩
  | flpTestGpsStop => exact stop _ .flpTest _ rfl ⟨rfl, rfl, hor, rfl, by simp⟩
  | factoryGpsStart => exact start _ .factory _ rfl ⟨rfl, rfl, hor, rfl, by simp⟩
  | factoryGpsStop => exact stop _ .factory _ rfl ⟨rfl, rfl, hor, rfl, by simp⟩
  | atTestGpsStart => exact start _ .atCmdTest _ rfl ⟨rfl, rfl, hor, rfl, by simp⟩
  | atTestGpsStop => exact stop _ .atCmdTest _ rfl ⟨rfl, rfl, hor, rfl, by simp⟩
  | startDone assist => exact startDone _ assist rfl
  | stopDone => exact stopDone _ rfl
  | resetDone => exact resetDone _ rfl
  | nmeaTimeout => exact nmeaTimeout _ rfl

end HuaweiY5.Mnld
