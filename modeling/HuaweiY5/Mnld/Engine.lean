import HuaweiY5.Mnld.Invariant

/-!
# `Mnld.Engine` — the main thread as gps_control and the wakelock see it

Most of what the main thread sends are acknowledgements to its clients. The engine itself only sees five
kinds of message: the wakelock pair and the START, STOP and DELETE_AIDING_DATA commands; a crash is the
sixth thing it can notice. `EngineStep` is the **abstract engine driver**: four states, the accumulated
deletion flags, and the transitions that send those messages, with no clients at all. `handle_engineStep`
shows that every event of the main thread is one of its steps, so results about what the engine is told are
proved on nine transitions.
-/

namespace HuaweiY5.Mnld

open List Option

/-- What the engine side notices of the main thread. -/
inductive EngineMsg
  | requestWakelock
  | start (flags : BitVec 32)
  | deleteAidingData (flags : BitVec 32)
  | stop
  | releaseWakelock
  | crash
deriving DecidableEq

def Output.engine : Output → Option EngineMsg
  | .mnl2halRequestWakelock => some .requestWakelock
  | .gpsControlGpsStart flags => some (.start flags)
  | .gpsControlGpsReset flags => some (.deleteAidingData flags)
  | .gpsControlGpsStop => some .stop
  | .mnl2halReleaseWakelock => some .releaseWakelock
  | .crashToDebug => some .crash
  | _ => none

def engineMsgs (os : List Output) : List EngineMsg := os.filterMap Output.engine

@[simp] theorem engineMsgs_append (os os' : List Output) :
    engineMsgs (os ++ os') = engineMsgs os ++ engineMsgs os' := filterMap_append

def MainEvent.requested (e : MainEvent) : Option (BitVec 32) :=
  match e.kind with
  | .halDelete flags | .agpsReset flags => some flags
  | _ => none

/-- The FSM event a main-thread event ends in, if any. -/
def MainEvent.fsm (e : MainEvent) : Option GpsEvent :=
  match e.kind with
  | .start _ => some .start
  | .stop _ | .reboot _ | .nmeaTimeout => some .stop
  | .halDelete _ | .agpsReset _ => some .reset
  | .startDone _ => some .startDone
  | .stopDone => some .stopDone
  | .resetDone | .other => none

open MainEvent (fsm requested)

/-- A DELETE_AIDING_DATA command, sent only if there is something to delete. -/
def deleteCmd (fl : BitVec 32) : List EngineMsg := if fl ≠ 0 then [.deleteAidingData fl] else []

/-- **The abstract engine driver.** `EngineStep ev s fl s' fl' msgs`: in state `s`, with the deletion flags
    `fl` accumulated (this event's included), an event that is `ev` to the FSM may lead to `s'` and `fl'`,
    sending `msgs`. -/
inductive EngineStep :
    Option GpsEvent → GpsState → BitVec 32 → GpsState → BitVec 32 → List EngineMsg → Prop
  | quiet {ev s fl} : EngineStep ev s fl s fl []
  | wake {fl} : EngineStep (some .start) .idle fl .starting 0 [.requestWakelock, .start fl]
  | run {fl} : EngineStep (some .startDone) .starting fl .started 0 (deleteCmd fl)
  | abandon {fl} : EngineStep (some .startDone) .starting fl .stopping 0 (deleteCmd fl ++ [.stop])
  | delete {ev fl} : ev = .start ∨ ev = .reset →
      EngineStep (some ev) .started fl .started 0 (deleteCmd fl)
  | halt {fl} : EngineStep (some .stop) .started fl .stopping fl [.stop]
  | restart {fl} : EngineStep (some .stopDone) .stopping fl .starting 0 [.start fl]
  | sleep {fl} : EngineStep (some .stopDone) .stopping fl .idle fl [.releaseWakelock]
  | crash {s fl} : s = .starting ∨ s = .started → EngineStep (some .stopDone) s fl s fl [.crash]

/-! ## The acknowledgements are no engine messages -/

theorem engineMsgs_eq_nil {os : List Output} (h : ∀ o ∈ os, o.engine = none) : engineMsgs os = [] :=
  filterMap_eq_nil_iff.mpr h

@[simp] theorem engineMsgs_resetAckSent (x : MnldContext) : engineMsgs (resetAckSent x) = [] := by
  unfold resetAckSent; split <;> rfl

variable {c : GpsClient} {fl : BitVec 32} {msgs : List EngineMsg}

theorem engine_openAckMsgs {si : Int} {o : Output} (ho : o ∈ openAckMsgs si c) : o.engine = none := by
  cases c <;> simp only [openAckMsgs, mem_cons, not_mem_nil, or_false] at ho
  case hal => rcases ho with rfl | rfl | rfl <;> rfl
  case agps => subst ho; rfl
  case flp => rcases ho with rfl | rfl <;> rfl

theorem engine_closeAckMsgs {o : Output} (ho : o ∈ closeAckMsgs c) : o.engine = none := by
  cases c <;> simp only [closeAckMsgs, mem_cons, not_mem_nil, or_false] at ho
  case hal => rcases ho with rfl | rfl | rfl <;> rfl
  case agps => subst ho; rfl
  case flp => subst ho; rfl

@[simp] theorem engineMsgs_openAcksSent (si : Int) (x : MnldContext) : engineMsgs (openAcksSent si x) = [] := by
  refine engineMsgs_eq_nil fun o ho => ?_
  obtain ⟨c, -, ho⟩ := mem_flatMap.mp ho
  split at ho
  · exact engine_openAckMsgs ho
  · simp at ho

variable (ev : GpsEvent) (x : MnldContext)

@[simp] theorem engineMsgs_closeAcksSent : engineMsgs (closeAcksSent x) = [] := by
  refine engineMsgs_eq_nil fun o ho => ?_
  obtain ⟨c, -, ho⟩ := mem_flatMap.mp ho
  split at ho
  · exact engine_closeAckMsgs ho
  · simp at ho

@[simp] theorem engineMsgs_aidingSent : engineMsgs (aidingSent x) = deleteCmd x.deleteAidingFlag := by
  unfold aidingSent deleteCmd; split <;> rfl

theorem Prepared.engineMsgs_sent {x : MnldContext} {f : ClientFlags} {t : Turn} (hp : Prepared x c f fl t) :
    engineMsgs t.sent = [] := by
  refine engineMsgs_eq_nil fun o ho => ?_
  rcases hp.sent o ho with rfl | ⟨flags, rfl⟩ <;> rfl

/-! ## The main thread refines the driver -/

/-- A driver step appended to what the turn had already sent. -/
def TurnStep (t t' : Turn) : Prop :=
  ∃ msgs, EngineStep (some ev) t.ctx.gpsState t.ctx.deleteAidingFlag t'.ctx.gpsState
      t'.ctx.deleteAidingFlag msgs ∧
    engineMsgs t'.sent = engineMsgs t.sent ++ msgs

theorem fsmGpsStateIdle_engineStep (t : Turn) (hst : t.ctx.gpsState = .idle) :
    TurnStep ev t (fsmGpsStateIdle ev t) := by
  cases ev with
  | start =>
    refine ⟨[.requestWakelock, .start t.ctx.deleteAidingFlag], ?_, ?_⟩
    · simpa [fsmGpsStateIdle, hst] using EngineStep.wake
    · simp [fsmGpsStateIdle]
      rfl
  | stop | reset | startDone | stopDone =>
    exact ⟨[], by simpa [fsmGpsStateIdle] using EngineStep.quiet, by simp [fsmGpsStateIdle]⟩

theorem fsmGpsStateStarting_engineStep (d : Int) (t : Turn) (hst : t.ctx.gpsState = .starting) :
    TurnStep ev t (fsmGpsStateStarting ev d t) := by
  cases ev with
  | start | stop | reset => exact ⟨[], .quiet, (append_nil _).symm⟩
  | startDone =>
    simp only [fsmGpsStateStarting]
    split
    · -- everyone has left while the engine was starting
      refine ⟨deleteCmd t.ctx.deleteAidingFlag ++ [EngineMsg.stop], ?_, by simp; rfl⟩
      simpa [hst] using EngineStep.abandon
    · exact ⟨deleteCmd t.ctx.deleteAidingFlag, by simpa [hst] using EngineStep.run, by simp⟩
  | stopDone => exact ⟨[.crash], .crash (.inl hst), engineMsgs_append _ _⟩

theorem fsmGpsStateStarted_engineStep (t : Turn) (hst : t.ctx.gpsState = .started) :
    TurnStep ev t (fsmGpsStateStarted ev t) := by
  cases ev with
  | start | reset =>
    refine ⟨deleteCmd t.ctx.deleteAidingFlag, ?_, by simp [fsmGpsStateStarted]⟩
    simpa [fsmGpsStateStarted, hst] using EngineStep.delete (by simp)
  | stop =>
    simp only [fsmGpsStateStarted]
    split
    · exact ⟨[.stop], by simpa [hst] using EngineStep.halt, by simp; rfl⟩
    · exact ⟨[], by simpa using EngineStep.quiet, by simp⟩
  | startDone =>
    simp only [fsmGpsStateStarted]
    split
    · exact ⟨[], .quiet, engineMsgs_append _ _⟩
    · exact ⟨[], .quiet, (append_nil _).symm⟩
  | stopDone => exact ⟨[.crash], .crash (.inr hst), engineMsgs_append _ _⟩

theorem fsmGpsStateStopping_engineStep (t : Turn) (hst : t.ctx.gpsState = .stopping) :
    TurnStep ev t (fsmGpsStateStopping ev t) := by
  cases ev with
  | start | stop | reset | startDone =>
    exact ⟨[], by simpa [fsmGpsStateStopping] using EngineStep.quiet, by simp [fsmGpsStateStopping]⟩
  | stopDone =>
    simp only [fsmGpsStateStopping]
    split
    · -- a client came back while the engine was stopping
      refine ⟨[.start t.ctx.deleteAidingFlag], ?_, by simp; rfl⟩
      simpa [hst] using EngineStep.restart
    · refine ⟨[.releaseWakelock], ?_, by simp; rfl⟩
      simpa [hst] using EngineStep.sleep

theorem mnldFsm_engineStep (d : Int) (t : Turn) : TurnStep ev t (mnldFsm ev d t) := by
  cases hst : t.ctx.gpsState with
  | idle => simpa only [mnldFsm, hst] using fsmGpsStateIdle_engineStep ev t hst
  | starting => simpa only [mnldFsm, hst] using fsmGpsStateStarting_engineStep ev d t hst
  | started => simpa only [mnldFsm, hst] using fsmGpsStateStarted_engineStep ev t hst
  | stopping => simpa only [mnldFsm, hst] using fsmGpsStateStopping_engineStep ev t hst

theorem Prepared.engineStep {x : MnldContext} {f : ClientFlags} {t : Turn} (hp : Prepared x c f fl t) (ev : GpsEvent)
    (d : Int) :
    EngineStep (some ev) x.gpsState (x.deleteAidingFlag ||| fl) (mnldFsm ev d t).ctx.gpsState
      (mnldFsm ev d t).ctx.deleteAidingFlag (engineMsgs (mnldFsm ev d t).sent) := by
  obtain ⟨msgs, hstep, hmsgs⟩ := mnldFsm_engineStep ev d t
  rw [hmsgs, hp.engineMsgs_sent, ← hp.gpsState, ← hp.flag]
  exact hstep

theorem mnldFsm_engineStep_fresh (d : Int) (x : MnldContext) :
    EngineStep (some ev) x.gpsState x.deleteAidingFlag (mnldFsm ev d ⟨x, []⟩).ctx.gpsState
      (mnldFsm ev d ⟨x, []⟩).ctx.deleteAidingFlag (engineMsgs (mnldFsm ev d ⟨x, []⟩).sent) := by
  obtain ⟨msgs, hstep, hmsgs⟩ := mnldFsm_engineStep ev d ⟨x, []⟩
  rw [hmsgs]
  exact hstep

theorem mainEventNmeaTimeout_engineStep :
    EngineStep (some .stop) x.gpsState x.deleteAidingFlag (mainEventNmeaTimeout ⟨x, []⟩).ctx.gpsState
      (mainEventNmeaTimeout ⟨x, []⟩).ctx.deleteAidingFlag
      (engineMsgs (mainEventNmeaTimeout ⟨x, []⟩).sent) := by
  unfold mainEventNmeaTimeout
  split
  · have h := mnldFsm_engineStep_fresh .stop 0 (mtkGpsClearGpsUser ⟨x, []⟩).ctx
    have hmsgs : engineMsgs [.mnl2halMnldReboot, .mnl2agpsMnlReboot, .mnl2flpMnldReboot, .gpsControlMnlSetStatus] = [] := rfl
    simp only [Turn.send_sent, engineMsgs_append, hmsgs, append_nil]
    exact h
  · exact .quiet

/-- **The main thread refines the engine driver**: handling an event is one driver step, with the event's
    deletion flags added first. -/
theorem handle_engineStep (e : MainEvent) :
    EngineStep e.fsm x.gpsState (x.deleteAidingFlag ||| e.requested.getD 0)
      (handle e ⟨x, []⟩).ctx.gpsState (handle e ⟨x, []⟩).ctx.deleteAidingFlag
      (engineMsgs (handle e ⟨x, []⟩).sent) := by
  refine handle_cases (P := fun e t => EngineStep e.fsm x.gpsState
    (x.deleteAidingFlag ||| e.requested.getD 0) t.ctx.gpsState t.ctx.deleteAidingFlag (engineMsgs t.sent))
    ?start ?stop ?reboot ?halDelete ?agpsReset ?agpsResetNone ?startDone ?stopDone ?resetDone
    ?nmeaTimeout ?other e
  case start | stop | reboot =>
    intro e c t hk hp
    simpa only [fsm, requested, hk, getD_none] using hp.engineStep _ 0
  case halDelete =>
    intro e fl t hk hp
    simpa only [fsm, requested, hk, getD_some] using hp.engineStep .reset 0
  case agpsReset =>
    intro e fl t hk _ hp
    simpa only [fsm, requested, hk, getD_some] using hp.engineStep .reset 0
  case agpsResetNone =>
    intro e hk
    have hmsgs : engineMsgs [.mnl2agpsResetGpsDone] = [] := rfl
    simpa [requested, hk, hmsgs] using EngineStep.quiet
  case startDone =>
    intro e a hk
    simpa [fsm, requested, hk] using mnldFsm_engineStep_fresh .startDone a x
  case stopDone =>
    intro e hk
    simpa [fsm, requested, hk] using mnldFsm_engineStep_fresh .stopDone 0 x
  case resetDone =>
    intro e hk
    simpa [requested, hk, mainEventResetDone] using EngineStep.quiet
  case nmeaTimeout =>
    intro e hk
    simpa [fsm, requested, hk] using mainEventNmeaTimeout_engineStep x
  case other =>
    intro e t hk hctx hsent
    obtain ⟨b, hctx⟩ := hctx
    have hmsgs : engineMsgs t.sent = [] := engineMsgs_eq_nil fun o ho => by
      rcases hsent o ho with rfl | rfl | rfl <;> rfl
    simpa [requested, hk, hmsgs, hctx] using EngineStep.quiet

/-! ## What the driver does, by event and by kind -/

theorem EngineStep.stop_cases {s s' : GpsState} {fl' : BitVec 32} (h : EngineStep (some .stop) s fl s' fl' msgs) :
    s' = s ∧ msgs = [] ∨ s = .started ∧ s' = .stopping ∧ msgs = [.stop] := by
  cases h with
  | quiet => exact .inl ⟨rfl, rfl⟩
  | delete hev => rcases hev with h | h <;> cases h
  | halt => exact .inr ⟨rfl, rfl, rfl⟩

theorem MainEvent.fsm_eq_stopDone {e : MainEvent} (h : e.fsm = some .stopDone) : e = .stopDone := by
  cases e <;> first | rfl | simp [fsm, MainEvent.kind] at h

theorem MainEvent.fsm_eq_startDone {e : MainEvent} (h : e.fsm = some .startDone) : ∃ a, e.kind = .startDone a := by
  cases e <;> first | exact ⟨_, rfl⟩ | simp [fsm, MainEvent.kind] at h

theorem EngineStep.moves {ev : Option GpsEvent} {s s' : GpsState} {fl' : BitVec 32}
    (h : EngineStep ev s fl s' fl' msgs) :
    s' = s ∨ (ev = some .stop ∧ s = .started ∧ s' = .stopping) ∨ (ev = some .start ∧ s = .idle) ∨
      (ev = some .startDone ∧ s = .starting) ∨ (ev = some .stopDone ∧ s = .stopping) := by
  cases h <;> simp

theorem EngineStep.reset_started {s' : GpsState} {fl' : BitVec 32}
    (h : EngineStep (some .reset) .started fl s' fl' msgs) (hfl : fl ≠ 0) (hfl' : fl' = 0) :
    .deleteAidingData fl ∈ msgs := by
  cases h with
  | quiet => exact absurd hfl' hfl
  | delete =>
    unfold deleteCmd
    rw [if_pos hfl]
    exact mem_singleton_self _

end HuaweiY5.Mnld
