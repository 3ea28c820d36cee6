import HuaweiY5.Mnld.Handlers

/-!
# `Mnld.Epo` — the EPO download is in flight at most once

The main thread asks the EPO thread for a download with a START message and learns the result from EPO_DONE.
`is_epo_downloading` is set where a START is sent — in `hal_gps_start` and at two places of
`hal_update_network_state` — and cleared where an EPO_DONE is handled. `EpoSystem` puts both threads and the two
sockets together; `epo_single_flight` says that the flag counts what is on the way.
-/

namespace HuaweiY5.Mnld

open List
open Transducer (Entry out)

/-! ## The code -/

def networkTypeWifi : Int := 1

inductive EpoDownloadResult
  | success
  | fail
deriving DecidableEq

/-- What `hal_update_network_state` asks the EPO module: `epo_is_wifi_trigger_enabled` besides the rest. -/
structure EpoConfig extends EpoEnv where
  wifiTriggerEnabled : Bool
deriving DecidableEq

/-- The calls by which the main thread reaches the others, with those the GPS handlers do not make. -/
inductive EpoOutput
  | mnld (o : Output)
  | mnl2agpsUpdateNetworkState (connected type roaming : Int) (extraInfo : String)
  | epoUpdateEpoFile
deriving DecidableEq

/-- `mnld_context` with the rest of `mnl_epo_status`. -/
structure EpoContext where
  mnld : MnldContext
  isNetworkConnected : Bool
  isWifiConnected : Bool

def mnldIsGpsStarted (x : MnldContext) : Bool := x.gpsState == .starting || x.gpsState == .started

/-- `is_epo_downloading = true; epo_downloader_start();` under the test that both callers make. -/
def EpoContext.triggerDownload (x : EpoContext) (trigger : Bool) : EpoContext × List EpoOutput :=
  if trigger then
    ({ x with mnld := { x.mnld with isEpoDownloading := true } }, [.mnld .epoDownloaderStart])
  else (x, [])

def halUpdateNetworkState (cfg : EpoConfig) (connected type roaming : Int) (extraInfo : String)
    (x : EpoContext) : EpoContext × List EpoOutput :=
  let sent := [EpoOutput.mnl2agpsUpdateNetworkState connected type roaming extraInfo]
  let x := { x with
    isNetworkConnected := connected != 0
    isWifiConnected := if type = networkTypeWifi then connected != 0 else false }
  let r :=
    if mnldIsGpsStarted x.mnld then
      x.triggerDownload (connected != 0 && !x.mnld.isEpoDownloading && cfg.fileInvalid && cfg.downloadEnabled)
    else if type = networkTypeWifi then
      x.triggerDownload (connected != 0 && !x.mnld.isEpoDownloading && cfg.wifiTriggerEnabled &&
        cfg.fileInvalid && cfg.downloadEnabled)
    else (x, [])
  (r.1, sent ++ r.2)

/-- The EPO2MAIN_EVENT_EPO_DONE case of `main_event_hdlr`; the result is only logged. -/
def mainEventEpoDone (_result : EpoDownloadResult) (x : EpoContext) : EpoContext × List EpoOutput :=
  let x := { x with mnld := { x.mnld with isEpoDownloading := false } }
  (x, if mnldIsGpsStartedDone x.mnld then [.epoUpdateEpoFile] else [])

/-- An event of the main thread, on the larger context. -/
def EpoContext.handle (e : MainEvent) (x : EpoContext) : EpoContext × List EpoOutput :=
  ({ x with mnld := (handleEvent x.mnld e).1 }, (handleEvent x.mnld e).2.map .mnld)

/-! ## The two threads and their sockets -/

/-- `toEpo` is the socket of the EPO thread, where every message is a START; `downloading` says that the thread
    is inside `mnld_epo_download`; `toMain` has the results posted by `mnld_epo_download_done`. -/
structure EpoSystem where
  ctx : EpoContext
  toEpo : Nat
  downloading : Bool
  toMain : List EpoDownloadResult

/-- The steps. The result of a download is whatever `epo_file_update_impl` returns. -/
inductive EpoEvent
  | main (e : MainEvent)
  | updateNetworkState (cfg : EpoConfig) (connected type roaming : Int) (extraInfo : String)
  | epoDone
  | epoTakesStart
  | epoFinishes (result : EpoDownloadResult)
deriving DecidableEq

/-- The number of START messages among the messages sent. -/
def startsIn (os : List EpoOutput) : Nat := os.count (.mnld .epoDownloaderStart)

namespace EpoSystem

/-- A handler of the main thread returned: its messages to the EPO thread are queued. -/
def afterMain (s : EpoSystem) (r : EpoContext × List EpoOutput) : EpoSystem × List EpoOutput :=
  ({ s with ctx := r.1, toEpo := s.toEpo + startsIn r.2 }, r.2)

/-- A message is taken only where there is one, and the EPO thread does one thing at a time. -/
def enabled (s : EpoSystem) : EpoEvent → Prop
  | .main _ | .updateNetworkState .. => True
  | .epoDone => s.toMain ≠ []
  | .epoTakesStart => 0 < s.toEpo ∧ s.downloading = false
  | .epoFinishes _ => s.downloading = true

def step (s : EpoSystem) : EpoEvent → EpoSystem × List EpoOutput
  | .main e => s.afterMain (s.ctx.handle e)
  | .updateNetworkState cfg connected type roaming extraInfo =>
    s.afterMain (halUpdateNetworkState cfg connected type roaming extraInfo s.ctx)
  | .epoDone =>
    match s.toMain with
    | [] => (s, [])
    | result :: rest => afterMain { s with toMain := rest } (mainEventEpoDone result s.ctx)
  | .epoTakesStart => ({ s with toEpo := s.toEpo - 1, downloading := true }, [])
  | .epoFinishes result => ({ s with downloading := false, toMain := s.toMain ++ [result] }, [])

/-- mnld at its start: `memset` has cleared the context, the sockets are empty. -/
def machine : Transducer EpoSystem EpoEvent EpoOutput where
  init := ⟨⟨.zero, false, false⟩, 0, false, []⟩
  enabled := enabled
  step := step

end EpoSystem

/-! ## Only three places start a download -/

/-- Nothing happened to the download: the flag is the same, and no START was sent. -/
structure EpoKept (t t' : Turn) : Prop where
  flag : t'.ctx.isEpoDownloading = t.ctx.isEpoDownloading
  starts : t'.sent.count .epoDownloaderStart = t.sent.count .epoDownloaderStart

namespace EpoKept

variable {t t' t'' : Turn}

theorem refl (t : Turn) : EpoKept t t := ⟨rfl, rfl⟩

theorem trans (h : EpoKept t t') (h' : EpoKept t' t'') : EpoKept t t'' :=
  ⟨h'.flag.trans h.flag, h'.starts.trans h.starts⟩

theorem write {f : MnldContext → MnldContext} (h : EpoKept t t')
    (hf : ∀ x, (f x).isEpoDownloading = x.isEpoDownloading) : EpoKept t (t'.write f) :=
  h.trans ⟨hf _, rfl⟩

theorem writeClient {c : GpsClient} {f : ClientFlags → ClientFlags} (h : EpoKept t t') :
    EpoKept t (t'.writeClient c f) :=
  h.trans ⟨rfl, rfl⟩

theorem send {os : List Output} (h : EpoKept t t') (hos : Output.epoDownloaderStart ∉ os) : EpoKept t (t'.send os) :=
  h.trans ⟨rfl, by rw [Turn.send_sent, count_append, count_eq_zero_of_not_mem hos, Nat.add_zero]⟩

theorem doGpsResetHdlr (h : EpoKept t t') : EpoKept t (doGpsResetHdlr t') := by
  unfold Mnld.doGpsResetHdlr
  split
  · exact h.writeClient.send (by decide)
  · exact h

theorem ackOpen {c : GpsClient} {si : Int} (h : EpoKept t t') : EpoKept t (ackOpen si c t') := by
  unfold Mnld.ackOpen
  split
  · exact h.writeClient.send (by cases c <;> simp [openAckMsgs])
  · exact h

theorem ackClose {c : GpsClient} (h : EpoKept t t') : EpoKept t (ackClose c t') := by
  unfold Mnld.ackClose
  split
  · exact h.writeClient.send (by cases c <;> decide)
  · exact h

theorem sendAidingFlag (h : EpoKept t t') : EpoKept t (sendAidingFlag t') := by
  unfold Mnld.sendAidingFlag
  split
  · exact ((h.write (by intro; rfl)).send (by simp)).write (by intro; rfl)
  · exact h

theorem doGpsStartedHdlr {si : Int} (h : EpoKept t t') : EpoKept t (doGpsStartedHdlr si t') :=
  h.ackOpen.ackOpen.ackOpen.ackOpen.ackOpen.ackOpen.doGpsResetHdlr.sendAidingFlag

theorem doGpsStoppedHdlr (h : EpoKept t t') : EpoKept t (doGpsStoppedHdlr t') :=
  h.ackClose.ackClose.ackClose.ackClose.ackClose.ackClose.doGpsResetHdlr

theorem sendStart (h : EpoKept t t') : EpoKept t (sendStart t') := by
  unfold Mnld.sendStart
  refine EpoKept.write (EpoKept.send ?_ (by simp)) (by intro; rfl)
  split
  · exact h
  · exact h.write (by intro; rfl)

theorem sendStop (h : EpoKept t t') : EpoKept t (sendStop t') := (h.write (by intro; rfl)).send (by decide)

theorem mnldFsm {event : GpsEvent} {data1 : Int} (h : EpoKept t t') : EpoKept t (mnldFsm event data1 t') := by
  unfold Mnld.mnldFsm
  split
  · cases event with
    | start => exact ((h.send (by decide)).write (by intro; rfl)).sendStart
    | stop => exact h.doGpsStoppedHdlr
    | reset => exact h.doGpsResetHdlr
    | startDone | stopDone => exact h
  · cases event with
    | start | stop | reset => exact h
    | startDone =>
      have hack : EpoKept t (Mnld.doGpsStartedHdlr data1
          (t'.write fun x => { x with timerStart := false })) := (h.write (by intro; rfl)).doGpsStartedHdlr
      simp only [fsmGpsStateStarting]
      split
      · exact hack.sendStop
      · exact hack.write (by intro; rfl)
    | stopDone => exact h.send (by decide)
  · cases event with
    | start => exact h.doGpsStartedHdlr
    | stop =>
      simp only [fsmGpsStateStarted]
      split
      · exact h.sendStop
      · exact h.doGpsStoppedHdlr
    | reset => exact h.sendAidingFlag
    | startDone =>
      simp only [fsmGpsStateStarted]
      split
      · exact h.send (by decide)
      · exact h
    | stopDone => exact h.send (by decide)
  · cases event with
    | start | stop | startDone => exact h
    | reset => exact h.doGpsResetHdlr
    | stopDone =>
      have hack := (h.write (f := fun x => { x with timerStop := false }) (by intro; rfl)).doGpsStoppedHdlr
      simp only [fsmGpsStateStopping]
      split
      · exact (hack.write (by intro; rfl)).sendStart
      · exact (hack.send (by decide)).write (by intro; rfl)

end EpoKept

/-- What a handler of the main thread can do to the download: nothing, or start one that was not running. -/
def StartsFairly (before after : Bool) (starts : Nat) : Prop :=
  (after = before ∧ starts = 0) ∨ (before = false ∧ after = true ∧ starts = 1)

theorem EpoKept.startsFairly {x : MnldContext} {t : Turn} (h : EpoKept ⟨x, []⟩ t) :
    StartsFairly x.isEpoDownloading t.ctx.isEpoDownloading (t.sent.count .epoDownloaderStart) :=
  .inl ⟨h.flag, h.starts⟩

theorem halGpsStart_startsFairly (x : MnldContext) (epo : EpoEnv) :
    StartsFairly x.isEpoDownloading (halGpsStart epo ⟨x, []⟩).ctx.isEpoDownloading
      ((halGpsStart epo ⟨x, []⟩).sent.count .epoDownloaderStart) := by
  have hfsm : EpoKept _ (halGpsStart epo ⟨x, []⟩) := (EpoKept.refl
    (halStartGpsTriggerEpoDownload epo (Turn.writeClient .hal (startFlags true) ⟨x, []⟩))).mnldFsm
  rw [hfsm.flag, hfsm.starts]
  unfold halStartGpsTriggerEpoDownload
  split
  · rename_i hidle
    exact .inr ⟨hidle.1, rfl, rfl⟩
  · exact .inl ⟨rfl, rfl⟩

theorem handle_startsFairly (x : MnldContext) (e : MainEvent) :
    StartsFairly x.isEpoDownloading (handle e ⟨x, []⟩).ctx.isEpoDownloading
      ((handle e ⟨x, []⟩).sent.count .epoDownloaderStart) := by
  have h := EpoKept.refl ⟨x, []⟩
  cases e with
  | halGpsStart epo => exact halGpsStart_startsFairly x epo
  | halReboot | agpsReboot | flpReboot => exact h.writeClient.mnldFsm.startsFairly
  | halGpsInit | halGpsCleanup => exact ((h.write (by intro; rfl)).send (by decide)).startsFairly
  | halGpsStop | agpsCloseGpsReq | flpTestGpsStop | factoryGpsStop | atTestGpsStop
  | agpsOpenGpsReq | flpTestGpsStart | factoryGpsStart | atTestGpsStart =>
    exact h.writeClient.mnldFsm.startsFairly
  | flpGpsStart mode | flpGpsStop mode =>
    exact (h.write (by intro; rfl)).writeClient.mnldFsm.startsFairly
  | halGpsDeleteAidingData flags =>
    exact ((h.send (by simp)).writeClient.write (by intro; rfl)).mnldFsm.startsFairly
  | agpsResetGpsReq flags =>
    simp only [handle, agpsResetGpsReq]
    split
    · exact (h.send (by decide)).startsFairly
    · exact (h.write (by intro; rfl)).writeClient.mnldFsm.startsFairly
  | startDone isAssistReq | stopDone => exact h.mnldFsm.startsFairly
  | resetDone => exact (h.write (by intro; rfl)).doGpsResetHdlr.startsFairly
  | nmeaTimeout =>
    simp only [handle, mainEventNmeaTimeout]
    split
    · exact ((h.write (by intro; rfl)).mnldFsm.send (by decide)).startsFairly
    · exact h.startsFairly

theorem triggerDownload_startsFairly {x : EpoContext} {trigger : Bool}
    (h : trigger = true → x.mnld.isEpoDownloading = false) :
    StartsFairly x.mnld.isEpoDownloading (x.triggerDownload trigger).1.mnld.isEpoDownloading
      (startsIn (x.triggerDownload trigger).2) := by
  cases trigger with
  | true => exact .inr ⟨h rfl, rfl, rfl⟩
  | false => exact .inl ⟨rfl, rfl⟩

theorem halUpdateNetworkState_startsFairly (cfg : EpoConfig) (connected type roaming : Int)
    (extraInfo : String) (x : EpoContext) :
    let r := halUpdateNetworkState cfg connected type roaming extraInfo x
    StartsFairly x.mnld.isEpoDownloading r.1.mnld.isEpoDownloading (startsIn r.2) := by
  simp only [halUpdateNetworkState]
  split
  · refine triggerDownload_startsFairly fun htrigger => ?_
    simp only [Bool.and_eq_true, Bool.not_eq_true'] at htrigger
    exact htrigger.1.1.2
  · split
    · refine triggerDownload_startsFairly fun htrigger => ?_
      simp only [Bool.and_eq_true, Bool.not_eq_true'] at htrigger
      exact htrigger.1.1.1.2
    · exact .inl ⟨rfl, rfl⟩

/-! ## The flag counts what is on the way -/

namespace EpoSystem

/-- The STARTs queued, the download in progress and the EPO_DONEs queued. -/
def inFlight (s : EpoSystem) : Nat := s.toEpo + s.downloading.toNat + s.toMain.length

/-- `is_epo_downloading` is 1 if something is on the way and 0 if not. -/
def SingleFlight (s : EpoSystem) : Prop := s.inFlight = s.ctx.mnld.isEpoDownloading.toNat

theorem singleFlight_afterMain {s : EpoSystem} {r : EpoContext × List EpoOutput} (h : s.SingleFlight)
    (hfair : StartsFairly s.ctx.mnld.isEpoDownloading r.1.mnld.isEpoDownloading (startsIn r.2)) :
    (s.afterMain r).1.SingleFlight := by
  simp only [SingleFlight, inFlight, afterMain] at h ⊢
  rcases hfair with ⟨hflag, hstarts⟩ | ⟨hbefore, hafter, hstarts⟩
  · rw [hflag, hstarts]
    exact h
  · rw [hbefore] at h
    rw [hafter]
    simp only [Bool.toNat_false, Bool.toNat_true] at h ⊢
    omega

theorem handle_fair (x : EpoContext) (e : MainEvent) :
    StartsFairly x.mnld.isEpoDownloading (x.handle e).1.mnld.isEpoDownloading (startsIn (x.handle e).2) := by
  have hcount : startsIn (x.handle e).2 = (handle e ⟨x.mnld, []⟩).sent.count .epoDownloaderStart :=
    count_map_of_injective _ _ (fun _ _ h => EpoOutput.mnld.inj h) _
  rw [hcount]
  exact handle_startsFairly x.mnld e

theorem singleFlight_step (s : EpoSystem) (e : EpoEvent) (h : s.SingleFlight) (hen : machine.enabled s e) :
    (machine.next s e).SingleFlight := by
  cases e with
  | main e => exact singleFlight_afterMain h (handle_fair s.ctx e)
  | updateNetworkState cfg connected type roaming extraInfo =>
    exact singleFlight_afterMain h
      (halUpdateNetworkState_startsFairly cfg connected type roaming extraInfo s.ctx)
  | epoDone =>
    obtain ⟨ctx, toEpo, downloading, toMain⟩ := s
    cases toMain with
    | nil => exact absurd rfl hen
    | cons result rest =>
      -- a result is queued, so the flag is set and nothing else is on the way
      have hquiet : startsIn (mainEventEpoDone result ctx).2 = 0 := by
        simp only [mainEventEpoDone]
        split <;> rfl
      simp only [SingleFlight, inFlight, length_cons] at h
      have hbound := Bool.toNat_le ctx.mnld.isEpoDownloading
      simp only [SingleFlight, inFlight, Transducer.next, machine, step, afterMain]
      show _ = Bool.toNat false
      simp only [Bool.toNat_false]
      omega
  | epoTakesStart =>
    obtain ⟨hpos, hidle⟩ := hen
    simp only [SingleFlight, inFlight, hidle, Bool.toNat_false] at h
    simp only [SingleFlight, inFlight, Transducer.next, machine, step, Bool.toNat_true]
    omega
  | epoFinishes result =>
    have hbusy : s.downloading = true := hen
    simp only [SingleFlight, inFlight, hbusy, Bool.toNat_true] at h
    simp only [SingleFlight, inFlight, Transducer.next, machine, step, Bool.toNat_false, length_append, length_singleton]
    omega

theorem idle_of_start {s : EpoSystem} {e : EpoEvent} (h : s.SingleFlight)
    (hstart : .mnld .epoDownloaderStart ∈ machine.out s e) :
    s.inFlight = 0 ∧ startsIn (machine.out s e) = 1 := by
  have hpos : 0 < startsIn (machine.out s e) := count_pos_iff.mpr hstart
  have hfair : ∀ {after : Bool}, StartsFairly s.ctx.mnld.isEpoDownloading after (startsIn (machine.out s e)) →
      s.inFlight = 0 ∧ startsIn (machine.out s e) = 1 := by
    rintro after (⟨-, hzero⟩ | ⟨hbefore, -, hone⟩)
    · omega
    · exact ⟨h.trans (by rw [hbefore]; rfl), hone⟩
  cases e with
  | main e => exact hfair (handle_fair s.ctx e)
  | updateNetworkState cfg connected type roaming extraInfo =>
    exact hfair (halUpdateNetworkState_startsFairly cfg connected type roaming extraInfo s.ctx)
  | epoDone =>
    obtain ⟨ctx, toEpo, downloading, toMain⟩ := s
    cases toMain with
    | nil => cases hstart
    | cons result rest =>
      simp only [out, machine, step, afterMain, mainEventEpoDone] at hstart
      split at hstart <;> simp at hstart
  | epoTakesStart | epoFinishes result => cases hstart

/-- **The EPO download is single-flight.** After every interleaving of events of the main thread, updates of
    the network state and steps of the EPO thread, the STARTs queued, the downloads in progress and the
    EPO_DONEs queued are 1 if `is_epo_downloading` is set and 0 if not; and every step that requests a
    download requests one, with nothing on the way. -/
theorem epo_single_flight {tr : List (Entry EpoSystem EpoEvent EpoOutput)} {s : EpoSystem}
    (h : machine.Run tr s) :
    s.toEpo + s.downloading.toNat + s.toMain.length = (if s.ctx.mnld.isEpoDownloading then 1 else 0) ∧
      ∀ y ∈ tr, .mnld .epoDownloaderStart ∈ y.out → y.pre.inFlight = 0 ∧ startsIn y.out = 1 := by
  have hinit : machine.init.SingleFlight := rfl
  have hinv : ∀ {tr : List (Entry EpoSystem EpoEvent EpoOutput)} {s : EpoSystem},
      machine.Run tr s → s.SingleFlight := fun hrun => hrun.invariant hinit singleFlight_step
  refine ⟨(hinv h).trans ?_, fun y hy hstart => ?_⟩
  · cases s.ctx.mnld.isEpoDownloading <;> rfl
  · obtain ⟨⟨tr', hrun⟩, -, hout⟩ := h.mem hy
    rw [hout] at hstart ⊢
    exact idle_of_start (hinv hrun) hstart

/-- A download was requested, made and finished: its result is on the way. -/
theorem epo_single_flight_download :
    let s := (machine.exec [.main (.halGpsStart ⟨true, true⟩), .epoTakesStart, .epoFinishes .success]).2
    s.toEpo + s.downloading.toNat + s.toMain.length = 1 := by
  have hen : machine.Admissible machine.init
      [.main (.halGpsStart ⟨true, true⟩), .epoTakesStart, .epoFinishes .success] :=
    ⟨trivial, ⟨by decide, rfl⟩, rfl, trivial⟩
  exact (epo_single_flight (machine.run_exec hen)).1

end EpoSystem
end HuaweiY5.Mnld
