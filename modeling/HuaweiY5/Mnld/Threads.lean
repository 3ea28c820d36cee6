import HuaweiY5.Lib.Interleave
import HuaweiY5.Mnld.Handlers

/-!
# `Mnld.Threads` — the client requests access by access

`Fsm` and `Handlers` run each handler in one piece, as the main thread does when nobody else touches
`g_mnld_ctx`. libmnl calls the NMEA callback on a thread of its own, and the end of an AT-command test
(`nmea_parser_at_cmd_pre`, `gpsinf_mtk_gps_test_stop`) calls `at_test2mnl_gps_stop` right there. For such a
second thread a handler is not one step: here every read of a field, every assignment and every message of
the FSM and of a client's start or stop is an access of its own, in the order of the source.
-/

namespace HuaweiY5.Mnld.Threads

open Interleave

/-! ## Single accesses -/

def set (f : MnldContext → MnldContext) : Prog Turn := .act (Turn.write f)

variable (c : GpsClient)

def setClient (f : ClientFlags → ClientFlags) : Prog Turn := .act (Turn.writeClient c f)

def post (o : Output) : Prog Turn := .act (Turn.send [o])

/-- `c->gps_used`. -/
def used (t : Turn) : Bool := (t.ctx.clients c).gpsUsed

/-! ## The acknowledgement handlers -/

def doGpsResetHdlr : Prog Turn :=
  .test (fun t => (t.ctx.clients .agps).needResetAck)
    (.seq [setClient .agps fun f => { f with needResetAck := false }, post .mnl2agpsResetGpsDone]) .ret

/-- `if (c->need_open_ack) { c->need_open_ack = false; … }`. -/
def ackOpen (siAssistReq : Int) (c : GpsClient) : Prog Turn :=
  .test (fun t => (t.ctx.clients c).needOpenAck)
    (.seq (setClient c (fun f => { f with needOpenAck := false }) :: (openAckMsgs siAssistReq c).map post))
    .ret

/-- `if (c->need_close_ack) { c->need_close_ack = false; … }`. -/
def ackClose : Prog Turn :=
  .test (fun t => (t.ctx.clients c).needCloseAck)
    (.seq (setClient c (fun f => { f with needCloseAck := false }) :: (closeAckMsgs c).map post)) .ret

/-- The `delete_aiding_flag` block: the field is read for the test and again for the command. -/
def sendAidingFlag : Prog Turn :=
  .test (fun t => t.ctx.deleteAidingFlag ≠ 0)
    (.seq [set fun x => { x with timerReset := true },
      .read fun t => post (.gpsControlGpsReset t.ctx.deleteAidingFlag),
      set fun x => { x with deleteAidingFlag := 0 }]) .ret

def doGpsStartedHdlr (siAssistReq : Int) : Prog Turn :=
  .seq [ackOpen siAssistReq .hal, ackOpen siAssistReq .agps, ackOpen siAssistReq .flp,
    ackOpen siAssistReq .flpTest, ackOpen siAssistReq .atCmdTest, ackOpen siAssistReq .factory,
    doGpsResetHdlr, sendAidingFlag]

def doGpsStoppedHdlr : Prog Turn :=
  .seq [ackClose .hal, ackClose .agps, ackClose .flp, ackClose .flpTest, ackClose .atCmdTest,
    ackClose .factory, doGpsResetHdlr]

/-! ## Queries over the clients -/

/-- `if (is_all_gps_client_exit()) p else q`, for the clients still to be read: `&&` stops at the first client that
    uses GPS. -/
def ifAllExit : List GpsClient → Prog Turn → Prog Turn → Prog Turn
  | [], p, _ => p
  | c :: cs, p, q => .test (used c) q (ifAllExit cs p q)

/-- The loop-free accumulation of `mtk_gps_get_gps_user`, for the clients still to be read. -/
def collectUsers : List (GpsClient × BitVec 32) → BitVec 32 → (BitVec 32 → Prog Turn) → Prog Turn
  | [], gpsUser, k => k gpsUser
  | (c, bit) :: cs, gpsUser, k =>
    .read fun t => collectUsers cs (gpsUser ||| if used c t then bit else 0) k

/-- `mtk_gps_get_gps_user`, its result handed to `k`. -/
def mtkGpsGetGpsUser (k : BitVec 32 → Prog Turn) : Prog Turn :=
  collectUsers [(.hal, gpsUserApp), (.agps, gpsUserAgps), (.flp, gpsUserFlp), (.flpTest, gpsUserOflTest),
    (.atCmdTest, gpsUserAtCmd), (.factory, gpsUserMeta)] gpsUserUnknown k

/-! ## The state machine -/

/-- Arm `timer_start` unless only offload users exist; the mode is read only if they do. -/
def armTimerStart : Prog Turn :=
  mtkGpsGetGpsUser fun gpsUser =>
    let arm := set fun x => { x with timerStart := true }
    if gpsUser &&& (gpsUserFlp ||| gpsUserOflTest) = gpsUser then
      .test (fun t => t.ctx.offloadEnabled) .ret arm
    else arm

def sendStart : Prog Turn :=
  .seq [armTimerStart, .read fun t => post (.gpsControlGpsStart t.ctx.deleteAidingFlag),
    set fun x => { x with deleteAidingFlag := 0 }]

def sendStop : Prog Turn :=
  .seq [set fun x => { x with gpsState := .stopping }, set fun x => { x with timerStop := true },
    post .gpsControlGpsStop]

def fsmGpsStateIdle : GpsEvent → Prog Turn
  | .start =>
    .seq [post .mnl2halRequestWakelock, set fun x => { x with gpsState := .starting }, sendStart]
  | .stop => doGpsStoppedHdlr
  | .reset => doGpsResetHdlr
  | .startDone | .stopDone => .ret

def fsmGpsStateStarting (event : GpsEvent) (data1 : Int) : Prog Turn :=
  match event with
  | .start | .stop | .reset => .ret
  | .startDone =>
    .seq [set fun x => { x with timerStart := false }, doGpsStartedHdlr data1,
      ifAllExit GpsClient.order sendStop (set fun x => { x with gpsState := .started })]
  | .stopDone => post .crashToDebug

def fsmGpsStateStarted : GpsEvent → Prog Turn
  | .start => doGpsStartedHdlr 0
  | .stop => ifAllExit GpsClient.order sendStop doGpsStoppedHdlr
  | .reset => sendAidingFlag
  | .startDone =>
    mtkGpsGetGpsUser fun gpsUser => if gpsUserApp &&& gpsUser ≠ 0 then post .mnl2agpsReaidingReq else .ret
  | .stopDone => post .crashToDebug

def fsmGpsStateStopping : GpsEvent → Prog Turn
  | .start | .stop => .ret
  | .reset => doGpsResetHdlr
  | .stopDone =>
    .seq [set fun x => { x with timerStop := false }, doGpsStoppedHdlr,
      ifAllExit GpsClient.order
        (.seq [post .mnl2halReleaseWakelock, set fun x => { x with gpsState := .idle }])
        (.seq [set fun x => { x with gpsState := .starting }, sendStart])]
  | .startDone => .ret

/-- `mnld_fsm`: `gps_state` is read once, at the start. -/
def mnldFsm (event : GpsEvent) (data1 : Int) : Prog Turn :=
  .read fun t =>
    match t.ctx.gpsState with
    | .idle => fsmGpsStateIdle event
    | .starting => fsmGpsStateStarting event data1
    | .started => fsmGpsStateStarted event
    | .stopping => fsmGpsStateStopping event

/-! ## The client requests -/

/-- The starts and stops of the six clients. -/
inductive ClientRequest
  | halGpsStart (epo : EpoEnv)
  | halGpsStop
  | agpsOpenGpsReq
  | agpsCloseGpsReq
  | flpGpsStart (mnlMode : Int)
  | flpGpsStop (mnlMode : Int)
  | flpTestGpsStart
  | flpTestGpsStop
  | factoryGpsStart
  | factoryGpsStop
  | atTestGpsStart
  | atTestGpsStop
deriving DecidableEq

def startWrites (ack : Bool) : Prog Turn :=
  .seq [setClient c fun f => { f with gpsUsed := true }, setClient c fun f => { f with needOpenAck := ack },
    setClient c fun f => { f with needCloseAck := false }]

def stopWrites (ack : Bool) : Prog Turn :=
  .seq [setClient c fun f => { f with gpsUsed := false },
    setClient c fun f => { f with needOpenAck := false }, setClient c fun f => { f with needCloseAck := ack }]

def halStartGpsTriggerEpoDownload (epo : EpoEnv) : Prog Turn :=
  .test (fun t => t.ctx.isEpoDownloading) .ret
    (if epo.fileInvalid && epo.downloadEnabled then
      .seq [set fun x => { x with isEpoDownloading := true }, post .epoDownloaderStart]
    else .ret)

namespace ClientRequest

def event : ClientRequest → MainEvent
  | halGpsStart epo => .halGpsStart epo
  | halGpsStop => .halGpsStop
  | agpsOpenGpsReq => .agpsOpenGpsReq
  | agpsCloseGpsReq => .agpsCloseGpsReq
  | flpGpsStart mnlMode => .flpGpsStart mnlMode
  | flpGpsStop mnlMode => .flpGpsStop mnlMode
  | flpTestGpsStart => .flpTestGpsStart
  | flpTestGpsStop => .flpTestGpsStop
  | factoryGpsStart => .factoryGpsStart
  | factoryGpsStop => .factoryGpsStop
  | atTestGpsStart => .atTestGpsStart
  | atTestGpsStop => .atTestGpsStop

def client : ClientRequest → GpsClient
  | halGpsStart _ | halGpsStop => .hal
  | agpsOpenGpsReq | agpsCloseGpsReq => .agps
  | flpGpsStart _ | flpGpsStop _ => .flp
  | flpTestGpsStart | flpTestGpsStop => .flpTest
  | factoryGpsStart | factoryGpsStop => .factory
  | atTestGpsStart | atTestGpsStop => .atCmdTest

def isStart : ClientRequest → Bool
  | halGpsStart _ | agpsOpenGpsReq | flpGpsStart _ | flpTestGpsStart | factoryGpsStart | atTestGpsStart =>
    true
  | halGpsStop | agpsCloseGpsReq | flpGpsStop _ | flpTestGpsStop | factoryGpsStop | atTestGpsStop => false

def writes : ClientRequest → Prog Turn
  | halGpsStart epo => .seq [startWrites .hal true, halStartGpsTriggerEpoDownload epo]
  | halGpsStop => stopWrites .hal true
  | agpsOpenGpsReq => startWrites .agps true
  | agpsCloseGpsReq => stopWrites .agps true
  | flpGpsStart mnlMode => .seq [.act (setOffload mnlMode), startWrites .flp true]
  | flpGpsStop mnlMode => .seq [.act (setOffload mnlMode), stopWrites .flp true]
  | flpTestGpsStart => startWrites .flpTest false
  | flpTestGpsStop => stopWrites .flpTest false
  | factoryGpsStart => startWrites .factory false
  | factoryGpsStop => stopWrites .factory false
  | atTestGpsStart => startWrites .atCmdTest false
  | atTestGpsStop => stopWrites .atCmdTest false

def fsmEvent (r : ClientRequest) : GpsEvent := if r.isStart then .start else .stop

/-- **The request as a thread's code.** -/
def prog (r : ClientRequest) : Prog Turn := r.writes.andThen (mnldFsm r.fsmEvent 0)

end ClientRequest

/-! ## Run without interruption, the accesses are the handlers -/

@[simp] theorem set_exec (f : MnldContext → MnldContext) (t : Turn) : (set f).exec t = t.write f := rfl

variable (c : GpsClient) (t : Turn)

@[simp] theorem setClient_exec (f : ClientFlags → ClientFlags) (t : Turn) :
    (setClient c f).exec t = t.writeClient c f := rfl

@[simp] theorem post_exec (o : Output) (t : Turn) : (post o).exec t = t.send [o] := rfl

@[simp] theorem posts_exec (os : List Output) (t : Turn) : (Prog.seq (os.map post)).exec t = t.send os := by
  induction os generalizing t with
  | nil => simp [Turn.send]
  | cons o os ih => simp [ih, Turn.send]

theorem writeClient_writeClient (f g : ClientFlags → ClientFlags) (t : Turn) :
    (t.writeClient c f).writeClient c g = t.writeClient c fun fl => g (f fl) := by
  simp [Turn.writeClient, Turn.write]

@[simp] theorem doGpsResetHdlr_exec : doGpsResetHdlr.exec t = Mnld.doGpsResetHdlr t := by
  simp [doGpsResetHdlr, Mnld.doGpsResetHdlr]

@[simp] theorem ackOpen_exec (si : Int) (c : GpsClient) (t : Turn) : (ackOpen si c).exec t = Mnld.ackOpen si c t := by
  simp [ackOpen, Mnld.ackOpen]

@[simp] theorem ackClose_exec : (ackClose c).exec t = Mnld.ackClose c t := by
  simp [ackClose, Mnld.ackClose]

@[simp] theorem sendAidingFlag_exec : sendAidingFlag.exec t = Mnld.sendAidingFlag t := by
  simp [sendAidingFlag, Mnld.sendAidingFlag]

@[simp] theorem doGpsStartedHdlr_exec (si : Int) (t : Turn) :
    (doGpsStartedHdlr si).exec t = Mnld.doGpsStartedHdlr si t := by
  simp [doGpsStartedHdlr, Mnld.doGpsStartedHdlr]

@[simp] theorem doGpsStoppedHdlr_exec : doGpsStoppedHdlr.exec t = Mnld.doGpsStoppedHdlr t := by
  simp [doGpsStoppedHdlr, Mnld.doGpsStoppedHdlr]

theorem ifAllExit_exec (cs : List GpsClient) (p q : Prog Turn) (t : Turn) :
    (ifAllExit cs p q).exec t = if cs.any fun c => used c t then q.exec t else p.exec t := by
  induction cs with
  | nil => rfl
  | cons c cs ih =>
    simp only [ifAllExit, Prog.exec_test, ih]
    by_cases hc : used c t = true <;> simp [hc]

@[simp] theorem ifAllExit_order_exec (p q : Prog Turn) (t : Turn) :
    (ifAllExit GpsClient.order p q).exec t = if isAllGpsClientExit t.ctx then p.exec t else q.exec t := by
  have hany : (GpsClient.order.any fun c => used c t) = !isAllGpsClientExit t.ctx := by
    simp [GpsClient.order, used, isAllGpsClientExit, Bool.or_assoc]
  rw [ifAllExit_exec, hany]
  cases isAllGpsClientExit t.ctx <;> rfl

@[simp] theorem mtkGpsGetGpsUser_exec (k : BitVec 32 → Prog Turn) (t : Turn) :
    (mtkGpsGetGpsUser k).exec t = (k (Mnld.mtkGpsGetGpsUser t.ctx)).exec t := rfl

@[simp] theorem sendStart_exec : sendStart.exec t = Mnld.sendStart t := by
  have harm : armTimerStart.exec t =
      if offloadOnly t.ctx then t else t.write fun x => { x with timerStart := true } := by
    simp only [armTimerStart, mtkGpsGetGpsUser_exec, offloadOnly]
    split <;> simp_all
  simp only [sendStart, Prog.exec_seq_cons, harm]
  rfl

@[simp] theorem sendStop_exec : sendStop.exec t = Mnld.sendStop t := rfl

@[simp] theorem mnldFsm_exec (ev : GpsEvent) (data1 : Int) (t : Turn) :
    (mnldFsm ev data1).exec t = Mnld.mnldFsm ev data1 t := by
  simp only [mnldFsm, Prog.exec_read, Mnld.mnldFsm]
  cases t.ctx.gpsState with
  | idle => cases ev <;> simp [fsmGpsStateIdle, Mnld.fsmGpsStateIdle]
  | starting =>
    cases ev <;> simp [fsmGpsStateStarting, Mnld.fsmGpsStateStarting]
  | started =>
    cases ev <;> simp [fsmGpsStateStarted, Mnld.fsmGpsStateStarted]
    split <;> rfl
  | stopping =>
    cases ev <;> simp [fsmGpsStateStopping, Mnld.fsmGpsStateStopping, isAGpsClientExist_eq]
    split <;> simp_all

theorem startWrites_exec (ack : Bool) (t : Turn) : (startWrites c ack).exec t = t.writeClient c (startFlags ack) := by
  simp only [startWrites, Prog.exec_seq_cons, setClient_exec, writeClient_writeClient]
  rfl

theorem stopWrites_exec (ack : Bool) (t : Turn) : (stopWrites c ack).exec t = t.writeClient c (stopFlags ack) := by
  simp only [stopWrites, Prog.exec_seq_cons, setClient_exec, writeClient_writeClient]
  rfl

theorem halStartGpsTriggerEpoDownload_exec (epo : EpoEnv) (t : Turn) :
    (halStartGpsTriggerEpoDownload epo).exec t = Mnld.halStartGpsTriggerEpoDownload epo t := by
  simp only [halStartGpsTriggerEpoDownload, Mnld.halStartGpsTriggerEpoDownload, Prog.exec_test]
  cases t.ctx.isEpoDownloading <;> simp
  split <;> simp_all

/-- **Refinement.** A request that is not interrupted is the main thread's handler. -/
theorem ClientRequest.prog_exec (r : ClientRequest) (t : Turn) : r.prog.exec t = handle r.event t := by
  cases r <;>
    simp only [prog, Prog.exec_andThen, mnldFsm_exec, writes, Prog.exec_seq_cons, Prog.exec_seq_nil,
      Prog.exec_act, startWrites_exec, stopWrites_exec, halStartGpsTriggerEpoDownload_exec] <;> rfl

end HuaweiY5.Mnld.Threads
