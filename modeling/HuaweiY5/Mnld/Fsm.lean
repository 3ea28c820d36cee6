import HuaweiY5.Mnld.Context

/-!
# `Mnld.Fsm` — the GPS state machine of `mnld.c`

`mnld_fsm` dispatches one event on the current `gps_state`; the four `fsm_gps_state_*` functions share
the acknowledgement handlers `do_gps_started_hdlr`, `do_gps_stopped_hdlr` and `do_gps_reset_hdlr`. Each
definition below is one function of the source, statement by statement.
-/

namespace HuaweiY5.Mnld

/-! ## Queries over the clients -/

def gpsUserUnknown : BitVec 32 := 0x0
def gpsUserApp : BitVec 32 := 0x1
def gpsUserAgps : BitVec 32 := 0x2
def gpsUserMeta : BitVec 32 := 0x4
def gpsUserFlp : BitVec 32 := 0x10
def gpsUserOflTest : BitVec 32 := 0x20
def gpsUserAtCmd : BitVec 32 := 0x40

variable (t : Turn) (x : MnldContext) (event : GpsEvent) (siAssistReq : Int) (c : GpsClient)

def isAllGpsClientExit : Bool :=
  !(x.clients .hal).gpsUsed && !(x.clients .agps).gpsUsed && !(x.clients .flp).gpsUsed &&
    !(x.clients .flpTest).gpsUsed && !(x.clients .atCmdTest).gpsUsed && !(x.clients .factory).gpsUsed

def isAGpsClientExist : Bool :=
  (x.clients .hal).gpsUsed || (x.clients .agps).gpsUsed || (x.clients .flp).gpsUsed ||
    (x.clients .flpTest).gpsUsed || (x.clients .atCmdTest).gpsUsed || (x.clients .factory).gpsUsed

/-- `mtk_gps_get_gps_user`: the bit mask of the clients that use GPS. -/
def mtkGpsGetGpsUser : BitVec 32 :=
  let user (c : GpsClient) (bit : BitVec 32) := if (x.clients c).gpsUsed then bit else 0
  gpsUserUnknown ||| user .hal gpsUserApp ||| user .agps gpsUserAgps ||| user .flp gpsUserFlp |||
    user .flpTest gpsUserOflTest ||| user .atCmdTest gpsUserAtCmd ||| user .factory gpsUserMeta

def mtkGpsClearGpsUser : Turn := t.write fun x => { x with clients := fun c => { x.clients c with gpsUsed := false } }

def mnldIsGpsStartedDone : Bool := x.gpsState == .started

/-! ## The acknowledgement handlers -/

def doGpsResetHdlr : Turn :=
  if (t.ctx.clients .agps).needResetAck then
    (t.writeClient .agps fun f => { f with needResetAck := false }).send [.mnl2agpsResetGpsDone]
  else t

def openAckMsgs : GpsClient → List Output
  | .hal => [.mnl2halGpsStatus .sessionEngineOn, .mnl2halGpsStatus .sessionBegin,
             .mnl2agpsGpsOpen siAssistReq]
  | .agps => [.mnl2agpsOpenGpsDone]
  | .flp => [.mnl2flpGpsOpenDone, .mnl2agpsGpsOpen siAssistReq]
  | .flpTest | .atCmdTest | .factory => []

def closeAckMsgs : GpsClient → List Output
  | .hal => [.mnl2halGpsStatus .sessionEnd, .mnl2halGpsStatus .sessionEngineOff, .mnl2agpsGpsClose]
  | .agps => [.mnl2agpsCloseGpsDone]
  | .flp => [.mnl2flpGpsCloseDone]
  | .flpTest | .atCmdTest | .factory => []

/-- `if (c->need_open_ack) { c->need_open_ack = false; … }`. -/
def ackOpen (t : Turn) : Turn :=
  if (t.ctx.clients c).needOpenAck then
    (t.writeClient c fun f => { f with needOpenAck := false }).send (openAckMsgs siAssistReq c)
  else t

/-- `if (c->need_close_ack) { c->need_close_ack = false; … }`. -/
def ackClose (t : Turn) : Turn :=
  if (t.ctx.clients c).needCloseAck then
    (t.writeClient c fun f => { f with needCloseAck := false }).send (closeAckMsgs c)
  else t

/-- The `delete_aiding_flag` block: arm the guard timer, send the flags to gps_control and clear them. -/
def sendAidingFlag : Turn :=
  if t.ctx.deleteAidingFlag ≠ 0 then
    ((t.write fun x => { x with timerReset := true }).send
      [.gpsControlGpsReset t.ctx.deleteAidingFlag]).write fun x => { x with deleteAidingFlag := 0 }
  else t

def doGpsStartedHdlr (t : Turn) : Turn :=
  let t := ackOpen siAssistReq .hal t
  let t := ackOpen siAssistReq .agps t
  let t := ackOpen siAssistReq .flp t
  let t := ackOpen siAssistReq .flpTest t
  let t := ackOpen siAssistReq .atCmdTest t
  let t := ackOpen siAssistReq .factory t
  let t := doGpsResetHdlr t
  sendAidingFlag t

def doGpsStoppedHdlr : Turn :=
  let t := ackClose .hal t
  let t := ackClose .agps t
  let t := ackClose .flp t
  let t := ackClose .flpTest t
  let t := ackClose .atCmdTest t
  let t := ackClose .factory t
  doGpsResetHdlr t

/-! ## The state machine -/

/-- The tail shared by the two starts: arm `timer_start` unless only offload users exist, hand the
    accumulated deletion flags to gps_control with the START command, and clear them. -/
def sendStart : Turn :=
  let gpsUser := mtkGpsGetGpsUser t.ctx
  -- if no other users except GPS_USER_FLP or GPS_USER_OFL_TEST, bypass restart
  let t := if gpsUser &&& (gpsUserFlp ||| gpsUserOflTest) = gpsUser ∧ t.ctx.offloadEnabled then t
    else t.write fun x => { x with timerStart := true }
  (t.send [.gpsControlGpsStart t.ctx.deleteAidingFlag]).write fun x => { x with deleteAidingFlag := 0 }

/-- The tail shared by the two stops: enter STOPPING, arm `timer_stop`, send the STOP command. -/
def sendStop : Turn :=
  (t.write fun x => { x with gpsState := .stopping, timerStop := true }).send [.gpsControlGpsStop]

def fsmGpsStateIdle (t : Turn) : Turn :=
  match event with
  | .start =>
    let t := t.send [.mnl2halRequestWakelock]
    let t := t.write fun x => { x with gpsState := .starting }
    sendStart t
  | .stop => doGpsStoppedHdlr t
  | .reset => doGpsResetHdlr t
  | .startDone | .stopDone => t

def fsmGpsStateStarting (data1 : Int) (t : Turn) : Turn :=
  match event with
  | .start | .stop | .reset => t
  | .startDone =>
    let t := t.write fun x => { x with timerStart := false }
    let t := doGpsStartedHdlr data1 t
    if isAllGpsClientExit t.ctx then sendStop t
    else t.write fun x => { x with gpsState := .started }
  | .stopDone => t.send [.crashToDebug]

def fsmGpsStateStarted (t : Turn) : Turn :=
  match event with
  | .start => doGpsStartedHdlr 0 t
  | .stop => if isAllGpsClientExit t.ctx then sendStop t else doGpsStoppedHdlr t
  | .reset => sendAidingFlag t
  | .startDone =>
    if gpsUserApp &&& mtkGpsGetGpsUser t.ctx ≠ 0 then t.send [.mnl2agpsReaidingReq] else t
  | .stopDone => t.send [.crashToDebug]

def fsmGpsStateStopping (t : Turn) : Turn :=
  match event with
  | .start | .stop => t
  | .reset => doGpsResetHdlr t
  | .stopDone =>
    let t := t.write fun x => { x with timerStop := false }
    let t := doGpsStoppedHdlr t
    if isAGpsClientExist t.ctx then
      sendStart (t.write fun x => { x with gpsState := .starting })
    else
      (t.send [.mnl2halReleaseWakelock]).write fun x => { x with gpsState := .idle }
  | .startDone => t

def mnldFsm (data1 : Int) (t : Turn) : Turn :=
  match t.ctx.gpsState with
  | .idle => fsmGpsStateIdle event t
  | .starting => fsmGpsStateStarting event data1 t
  | .started => fsmGpsStateStarted event t
  | .stopping => fsmGpsStateStopping event t

/-! ## Closed forms

A handler that finds a flag clear leaves it clear, so both branches of `if (need_ack) need_ack = false`
write the same value: the context a handler leaves needs no case split, only its messages do. -/

theorem isAllGpsClientExit_iff {x : MnldContext} :
    isAllGpsClientExit x = true ↔ ∀ c, (x.clients c).gpsUsed = false := by
  simp only [isAllGpsClientExit, Bool.and_eq_true, Bool.not_eq_true']
  constructor
  · rintro ⟨⟨⟨⟨⟨h1, h2⟩, h3⟩, h4⟩, h5⟩, h6⟩ c
    cases c <;> assumption
  · intro h
    exact ⟨⟨⟨⟨⟨h _, h _⟩, h _⟩, h _⟩, h _⟩, h _⟩

theorem isAllGpsClientExit_eq_false_iff {x : MnldContext} :
    isAllGpsClientExit x = false ↔ ∃ c, (x.clients c).gpsUsed = true := by
  rw [← Bool.not_eq_true, isAllGpsClientExit_iff]
  simp

theorem isAGpsClientExist_eq {x : MnldContext} : isAGpsClientExist x = !isAllGpsClientExit x := by
  simp [isAGpsClientExist, isAllGpsClientExit]

def GpsClient.order : List GpsClient := [.hal, .agps, .flp, .flpTest, .atCmdTest, .factory]

theorem GpsClient.mem_order : c ∈ GpsClient.order := by
  cases c <;> decide

/-- What `do_gps_reset_hdlr` sends. -/
def resetAckSent : List Output :=
  if (x.clients .agps).needResetAck then [.mnl2agpsResetGpsDone] else []

/-- The open acknowledgements `do_gps_started_hdlr` sends. -/
def openAcksSent (x : MnldContext) : List Output :=
  GpsClient.order.flatMap fun c => if (x.clients c).needOpenAck then openAckMsgs siAssistReq c else []

/-- The close acknowledgements `do_gps_stopped_hdlr` sends. -/
def closeAcksSent : List Output :=
  GpsClient.order.flatMap fun c => if (x.clients c).needCloseAck then closeAckMsgs c else []

/-- The command of the `delete_aiding_flag` block. -/
def aidingSent : List Output :=
  if x.deleteAidingFlag ≠ 0 then [.gpsControlGpsReset x.deleteAidingFlag] else []

/-- The client flags after `do_gps_reset_hdlr`. -/
def resetAcked (cl : GpsClient → ClientFlags) (c : GpsClient) : ClientFlags :=
  { cl c with needResetAck := if c = .agps then false else (cl c).needResetAck }

@[simp] theorem doGpsResetHdlr_ctx : (doGpsResetHdlr t).ctx = { t.ctx with clients := resetAcked t.ctx.clients } := by
  have hcl : ∀ cl : GpsClient → ClientFlags,
      Function.update cl .agps { cl .agps with needResetAck := false } = resetAcked cl := by
    intro cl; funext c; cases c <;> simp [resetAcked]
  unfold doGpsResetHdlr
  split
  · simp [hcl]
  · rename_i h
    have hid : resetAcked t.ctx.clients = t.ctx.clients := by
      ext <;> simp only [resetAcked]
      split
      · rename_i hc; subst hc; simpa using h
      · rfl
    rw [hid]

@[simp] theorem doGpsResetHdlr_sent : (doGpsResetHdlr t).sent = t.sent ++ resetAckSent t.ctx := by
  unfold doGpsResetHdlr resetAckSent; split <;> simp

theorem ackOpen_ctx (si : Int) (c : GpsClient) (t : Turn) : (ackOpen si c t).ctx = { t.ctx with
      clients := Function.update t.ctx.clients c { t.ctx.clients c with needOpenAck := false } } := by
  unfold ackOpen
  split
  · rfl
  · rename_i h
    have hid : ({ t.ctx.clients c with needOpenAck := false } : ClientFlags) = t.ctx.clients c := by
      simp only [Bool.not_eq_true] at h
      rw [← h]
    rw [hid, Function.update_eq_self]

theorem ackOpen_sent (si : Int) (c : GpsClient) (t : Turn) :
    (ackOpen si c t).sent = t.sent ++ if (t.ctx.clients c).needOpenAck then openAckMsgs si c else [] := by
  unfold ackOpen; split <;> simp

theorem ackClose_ctx (t : Turn) : (ackClose c t).ctx = { t.ctx with
      clients := Function.update t.ctx.clients c { t.ctx.clients c with needCloseAck := false } } := by
  unfold ackClose
  split
  · rfl
  · rename_i h
    have hid : ({ t.ctx.clients c with needCloseAck := false } : ClientFlags) = t.ctx.clients c := by
      simp only [Bool.not_eq_true] at h
      rw [← h]
    rw [hid, Function.update_eq_self]

theorem ackClose_sent (t : Turn) :
    (ackClose c t).sent = t.sent ++ if (t.ctx.clients c).needCloseAck then closeAckMsgs c else [] := by
  unfold ackClose; split <;> simp

@[simp] theorem sendAidingFlag_ctx : (sendAidingFlag t).ctx = { t.ctx with
      timerReset := t.ctx.timerReset || t.ctx.deleteAidingFlag != 0, deleteAidingFlag := 0 } := by
  unfold sendAidingFlag
  split
  · rename_i h
    have hb : (t.ctx.deleteAidingFlag != 0) = true := bne_iff_ne.mpr h
    simp only [Turn.write_ctx, Turn.send_ctx, hb, Bool.or_true]
  · rename_i h
    have h0 : t.ctx.deleteAidingFlag = 0 := not_not.mp h
    have hb : (t.ctx.deleteAidingFlag != 0) = false := by simp [h0]
    rw [hb, Bool.or_false, ← h0]

@[simp] theorem sendAidingFlag_sent : (sendAidingFlag t).sent = t.sent ++ aidingSent t.ctx := by
  unfold sendAidingFlag aidingSent; split <;> simp

@[simp] theorem doGpsStartedHdlr_ctx (si : Int) (t : Turn) : (doGpsStartedHdlr si t).ctx = { t.ctx with
      clients := fun c => { resetAcked t.ctx.clients c with needOpenAck := false }
      timerReset := t.ctx.timerReset || t.ctx.deleteAidingFlag != 0
      deleteAidingFlag := 0 } := by
  simp only [doGpsStartedHdlr, sendAidingFlag_ctx, doGpsResetHdlr_ctx, ackOpen_ctx]
  congr 1
  funext c
  cases c <;> simp [resetAcked, Function.update]

@[simp] theorem doGpsStartedHdlr_sent (si : Int) (t : Turn) :
    (doGpsStartedHdlr si t).sent = t.sent ++ openAcksSent si t.ctx ++ resetAckSent t.ctx ++ aidingSent t.ctx := by
  simp [doGpsStartedHdlr, ackOpen_ctx, ackOpen_sent, Function.update, openAcksSent, GpsClient.order,
    resetAckSent, aidingSent]

@[simp] theorem doGpsStoppedHdlr_ctx : (doGpsStoppedHdlr t).ctx = { t.ctx with
      clients := fun c => { resetAcked t.ctx.clients c with needCloseAck := false } } := by
  simp only [doGpsStoppedHdlr, doGpsResetHdlr_ctx, ackClose_ctx]
  congr 1
  funext c
  cases c <;> simp [resetAcked, Function.update]

@[simp] theorem doGpsStoppedHdlr_sent :
    (doGpsStoppedHdlr t).sent = t.sent ++ closeAcksSent t.ctx ++ resetAckSent t.ctx := by
  simp [doGpsStoppedHdlr, ackClose_ctx, ackClose_sent, Function.update, closeAcksSent, GpsClient.order, resetAckSent]

/-- Only users that offload serves exist: a start is not guarded by `timer_start`. -/
def offloadOnly : Prop :=
  mtkGpsGetGpsUser x &&& (gpsUserFlp ||| gpsUserOflTest) = mtkGpsGetGpsUser x ∧ x.offloadEnabled
  deriving Decidable

@[simp] theorem sendStart_ctx : (sendStart t).ctx = { t.ctx with
      timerStart := if offloadOnly t.ctx then t.ctx.timerStart else true, deleteAidingFlag := 0 } := by
  by_cases h : offloadOnly t.ctx
  · have h' := h
    unfold offloadOnly at h'
    simp [sendStart, h, h']
  · have h' := h
    unfold offloadOnly at h'
    simp [sendStart, h, h']

@[simp] theorem sendStart_sent :
    (sendStart t).sent = t.sent ++ [Output.gpsControlGpsStart t.ctx.deleteAidingFlag] := by
  unfold sendStart; dsimp only; split <;> simp

@[simp] theorem sendStop_ctx : (sendStop t).ctx = { t.ctx with gpsState := .stopping, timerStop := true } := rfl

@[simp] theorem sendStop_sent : (sendStop t).sent = t.sent ++ [Output.gpsControlGpsStop] := rfl

end HuaweiY5.Mnld
