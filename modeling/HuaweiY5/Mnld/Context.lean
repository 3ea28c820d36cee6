import Mathlib.Data.Fintype.Basic

/-!
# `Mnld.Context` — the data the mnld main thread works on

`mnld.h` keeps one global `mnld_context`: four flags for each of the six GPS clients, the FSM state, the
accumulated aiding-data deletion flags and the three guarding timers. Messages leave the main thread
through sockets; an `Output` is one such call. A `Turn` is the main thread in the middle of one handler:
the context as written so far and the messages sent so far.
-/

namespace HuaweiY5.Mnld

/-- `mnld_gps_state`. -/
inductive GpsState
  | idle
  | starting
  | started
  | stopping
deriving DecidableEq

/-- `mnld_gps_event`. -/
inductive GpsEvent
  | start
  | stop
  | reset
  | startDone
  | stopDone
deriving DecidableEq

/-- The members of `mnld_gps_clients`. -/
inductive GpsClient
  | hal
  | agps
  | flp
  | flpTest
  | atCmdTest
  | factory
deriving DecidableEq

instance : Fintype GpsClient := ⟨{.hal, .agps, .flp, .flpTest, .atCmdTest, .factory}, by intro c; cases c <;> decide⟩

/-- `mnld_gps_client`. -/
@[ext] structure ClientFlags where
  gpsUsed : Bool
  needOpenAck : Bool
  needCloseAck : Bool
  needResetAck : Bool
deriving DecidableEq

/-- The part of `g_mnld_ctx` (and of `mnld_cfg`) that the GPS handlers read and write. -/
structure MnldContext where
  clients : GpsClient → ClientFlags
  gpsState : GpsState
  isGpsInit : Bool
  deleteAidingFlag : BitVec 32
  timerStart : Bool
  timerStop : Bool
  timerReset : Bool
  isEpoDownloading : Bool
  offloadEnabled : Bool

/-- `memset(&g_mnld_ctx, 0, …)` in `main`. -/
def MnldContext.zero : MnldContext where
  clients := fun _ => ⟨false, false, false, false⟩
  gpsState := .idle
  isGpsInit := false
  deleteAidingFlag := 0
  timerStart := false
  timerStop := false
  timerReset := false
  isEpoDownloading := false
  offloadEnabled := false

/-- `GPS_STATUS_SESSION_*`. -/
inductive SessionStatus
  | sessionBegin
  | sessionEnd
  | sessionEngineOn
  | sessionEngineOff
deriving DecidableEq

/-- The calls by which the main thread reaches the other parties; `crashToDebug` is `CRASH_TO_DEBUG()`. -/
inductive Output
  | gpsControlGpsStart (flags : BitVec 32)
  | gpsControlGpsStop
  | gpsControlGpsReset (flags : BitVec 32)
  | gpsControlMnlSetStatus
  | gpsDriverStateInit
  | epoDownloaderStart
  | mnl2halGpsStatus (status : SessionStatus)
  | mnl2halRequestWakelock
  | mnl2halReleaseWakelock
  | mnl2halMnldReboot
  | mnl2agpsGpsInit
  | mnl2agpsGpsCleanup
  | mnl2agpsGpsOpen (assistReq : Int)
  | mnl2agpsGpsClose
  | mnl2agpsOpenGpsDone
  | mnl2agpsCloseGpsDone
  | mnl2agpsResetGpsDone
  | mnl2agpsReaidingReq
  | mnl2agpsDeleteAidingData (flags : BitVec 32)
  | mnl2agpsMnlReboot
  | mnl2flpGpsOpenDone
  | mnl2flpGpsCloseDone
  | mnl2flpMnldReboot
  | crashToDebug
deriving DecidableEq

/-- The main thread inside a handler: the context as written so far, and the messages sent so far. -/
structure Turn where
  ctx : MnldContext
  sent : List Output

namespace Turn

variable (f : MnldContext → MnldContext) (os : List Output) (t : Turn)

def write : Turn := { t with ctx := f t.ctx }

def writeClient (c : GpsClient) (f : ClientFlags → ClientFlags) (t : Turn) : Turn :=
  t.write fun x => { x with clients := Function.update x.clients c (f (x.clients c)) }

def send : Turn := { t with sent := t.sent ++ os }

@[simp] theorem write_ctx : (t.write f).ctx = f t.ctx := rfl
@[simp] theorem write_sent : (t.write f).sent = t.sent := rfl
@[simp] theorem send_ctx : (t.send os).ctx = t.ctx := rfl
@[simp] theorem send_sent : (t.send os).sent = t.sent ++ os := rfl

@[simp] theorem writeClient_ctx (c : GpsClient) (f : ClientFlags → ClientFlags) (t : Turn) :
    (t.writeClient c f).ctx = { t.ctx with clients := Function.update t.ctx.clients c (f (t.ctx.clients c)) } := rfl

@[simp] theorem writeClient_sent (c : GpsClient) (f : ClientFlags → ClientFlags) (t : Turn) :
    (t.writeClient c f).sent = t.sent := rfl

end Turn

end HuaweiY5.Mnld
