import HuaweiY5.Mnld.Engine

/-!
# `Mnld.Controller` — the gps_control thread of `gps_controller.c`

gps_control takes one command after the other off its socket (`gps_control_event_hdlr`) and drives libmnl.
What matters to the rest of the daemon is the answer each command puts into the main thread's socket, and
the restart type a DELETE_AIDING_DATA command hands to libmnl. START has no answer of its own: START_DONE
comes from a libmnl callback, at any time.
-/

namespace HuaweiY5.Mnld

/-- The commands of `gps_control_event_hdlr` (`main2gps_event`). -/
inductive GpsCommand
  | start (flags : BitVec 32)
  | stop
  | deleteAidingData (flags : BitVec 32)
  | nmeaDataTimeout
deriving DecidableEq

/-- The messages of gps_control and libmnl to the main thread (`gps2main_event`). -/
inductive Gps2Main
  | startDone (isAssistReq : Int)
  | stopDone
  | resetDone
  | nmeaTimeout
deriving DecidableEq

/-- `main_event_hdlr`: the event each message is. -/
def Gps2Main.event : Gps2Main → MainEvent
  | .startDone isAssistReq => .startDone isAssistReq
  | .stopDone => .stopDone
  | .resetDone => .resetDone
  | .nmeaTimeout => .nmeaTimeout

/-- The command an engine message is; the wakelock messages go to the HAL, a crash to nobody. -/
def EngineMsg.command : EngineMsg → Option GpsCommand
  | .start flags => some (.start flags)
  | .stop => some .stop
  | .deleteAidingData flags => some (.deleteAidingData flags)
  | .requestWakelock | .releaseWakelock | .crash => none

/-! ## Restart types -/

/-- `MTK_GPS_START_TYPE`. -/
inductive RestartType
  | default
  | hot
  | warm
  | cold
  | full
  | battery
  | agps
  | dEphAlm
  | dTime
deriving DecidableEq

def gpsDeleteEphemeris : BitVec 32 := 0x0001
def gpsDeleteAlmanac : BitVec 32 := 0x0002
def gpsDeletePosition : BitVec 32 := 0x0004
def gpsDeleteTime : BitVec 32 := 0x0008
def gpsDeleteClk : BitVec 32 := 0x0800
def gpsDeleteAll : BitVec 32 := 0xFFFF

def flagHotStart : BitVec 32 := 0x0
def flagWarmStart : BitVec 32 := gpsDeleteEphemeris
def flagColdStart : BitVec 32 := gpsDeleteEphemeris ||| gpsDeletePosition
def flagFullStart : BitVec 32 := gpsDeleteAll
def flagAgpsStart : BitVec 32 := gpsDeleteAll &&& ~~~gpsDeleteClk
def flagDeleteEphAlmStart : BitVec 32 := gpsDeleteEphemeris ||| gpsDeleteAlmanac
def flagDeleteTimeStart : BitVec 32 := gpsDeleteTime

/-- The flags `mnld_gps_delete_aiding_data` knows. -/
def supportedFlags : List (BitVec 32) :=
  [flagHotStart, flagWarmStart, flagColdStart, flagFullStart, flagAgpsStart, flagDeleteEphAlmStart,
    flagDeleteTimeStart]

/-- The restart type `mnld_gps_delete_aiding_data` passes to `mtk_gps_set_param`. -/
def restartType (flags : BitVec 32) : RestartType :=
  if flags = flagHotStart then .hot
  else if flags = flagWarmStart then .warm
  else if flags = flagColdStart then .cold
  else if flags = flagFullStart then .full
  else if flags = flagAgpsStart then .agps
  else if flags = flagDeleteEphAlmStart then .dEphAlm
  else if flags = flagDeleteTimeStart then .dTime
  else .hot  -- the initialiser of `restart`

/-- The aiding data a restart type deletes, read as the flags it is matched with. -/
def RestartType.deletes : RestartType → BitVec 32
  | .hot => flagHotStart
  | .warm => flagWarmStart
  | .cold => flagColdStart
  | .full => flagFullStart
  | .agps => flagAgpsStart
  | .dEphAlm => flagDeleteEphAlmStart
  | .dTime => flagDeleteTimeStart
  | .default | .battery => 0

theorem restartType_supported {flags : BitVec 32} (h : flags ∈ supportedFlags) :
    (restartType flags).deletes = flags := by
  simp only [supportedFlags, List.mem_cons, List.not_mem_nil, or_false] at h
  rcases h with rfl | rfl | rfl | rfl | rfl | rfl | rfl <;> rfl

theorem restartType_unsupported {flags : BitVec 32} (h : flags ∉ supportedFlags) :
    (restartType flags).deletes = 0 := by
  simp only [supportedFlags, List.mem_cons, not_or] at h
  obtain ⟨h0, h1, h2, h3, h4, h5, h6⟩ := h
  simp only [restartType, h0, h1, h2, h3, h4, h5, h6]
  rfl

/-! ## The command handler -/

def mnldGpsStart (_flags : BitVec 32) : List Gps2Main := []

/-- `mnld_gps_stop`; `stopped` says whether `mnld_gps_stop_impl` succeeded. -/
def mnldGpsStop (stopped : Bool) : List Gps2Main := if stopped then [.stopDone] else []

/-- `mnld_gps_delete_aiding_data`: the restart type for libmnl, and the answer. -/
def mnldGpsDeleteAidingData (flags : BitVec 32) : RestartType × List Gps2Main := (restartType flags, [.resetDone])

/-- `gps_control_event_hdlr`: what a command answers to the main thread. -/
def gpsControlEventHdlr (stopped : Bool) : GpsCommand → List Gps2Main
  | .start flags => mnldGpsStart flags
  | .stop => mnldGpsStop stopped
  | .deleteAidingData flags => (mnldGpsDeleteAidingData flags).2
  | .nmeaDataTimeout => []

end HuaweiY5.Mnld
