import HuaweiY5.Mnld.Engine

/-!
# `Mnld.ResetDriver` — how the main thread answers agpsd's reset requests

A reset request of agpsd is remembered in one boolean, `agps.need_reset_ack`, and answered by
`mnl2agps_reset_gps_done` in `do_gps_reset_hdlr`. That handler is called on many paths: `fsmAcks` and
`handleAcks` are the table of them. `handle_resets` says what each event does to the boolean, to the
message and to `timer_reset`; the results about reset acknowledgements use only this.
-/

namespace HuaweiY5.Mnld

open List

/-- agpsd waits for `mnl2agps_reset_gps_done`. -/
def resetPending (x : MnldContext) : Bool := (x.clients .agps).needResetAck

/-- The FSM calls `do_gps_reset_hdlr`. -/
def fsmAcks (ev : GpsEvent) (x : MnldContext) : Bool :=
  match x.gpsState, ev with
  | .idle, .stop | .idle, .reset | .starting, .startDone | .started, .start => true
  | .started, .stop => !isAllGpsClientExit x
  | .stopping, .reset | .stopping, .stopDone => true
  | _, _ => false

/-- What an FSM call does to the pending reset, its acknowledgement and `timer_reset`. -/
structure FsmResets (ev : GpsEvent) (t t' : Turn) : Prop where
  pending : resetPending t'.ctx = (resetPending t.ctx && !fsmAcks ev t.ctx)
  acked : Output.mnl2agpsResetGpsDone ∈ t'.sent ↔
    Output.mnl2agpsResetGpsDone ∈ t.sent ∨ (resetPending t.ctx = true ∧ fsmAcks ev t.ctx = true)
  armed : t.ctx.timerReset = true → t'.ctx.timerReset = true
  arms : ∀ g, Output.gpsControlGpsReset g ∈ t'.sent → Output.gpsControlGpsReset g ∈ t.sent ∨ t'.ctx.timerReset = true

/-! ## Where the acknowledgement is among the messages -/

@[simp] theorem resetDone_mem_resetAckSent {x : MnldContext} :
    Output.mnl2agpsResetGpsDone ∈ resetAckSent x ↔ resetPending x = true := by
  unfold resetAckSent resetPending; split <;> simp_all

@[simp] theorem resetDone_not_mem_openAcksSent {si : Int} {x : MnldContext} :
    Output.mnl2agpsResetGpsDone ∉ openAcksSent si x := by
  intro h
  obtain ⟨c, -, h⟩ := mem_flatMap.mp h
  split at h
  · cases c <;> simp [openAckMsgs] at h
  · simp at h

@[simp] theorem resetDone_not_mem_closeAcksSent {x : MnldContext} : Output.mnl2agpsResetGpsDone ∉ closeAcksSent x := by
  intro h
  obtain ⟨c, -, h⟩ := mem_flatMap.mp h
  split at h
  · cases c <;> simp [closeAckMsgs] at h
  · simp at h

@[simp] theorem resetDone_not_mem_aidingSent {x : MnldContext} : Output.mnl2agpsResetGpsDone ∉ aidingSent x := by
  unfold aidingSent; split <;> simp

theorem delete_not_mem {os : List Output} (h : engineMsgs os = []) (g : BitVec 32) :
    Output.gpsControlGpsReset g ∉ os := by
  intro hmem
  exact Option.some_ne_none (EngineMsg.deleteAidingData g) (filterMap_eq_nil_iff.mp h _ hmem)

variable {x : MnldContext} {ev : GpsEvent} {t : Turn} {e : MainEvent}

@[simp] theorem delete_not_mem_resetAckSent (g : BitVec 32) : Output.gpsControlGpsReset g ∉ resetAckSent x :=
  delete_not_mem (engineMsgs_resetAckSent x) g

@[simp] theorem delete_not_mem_openAcksSent (g : BitVec 32) (si : Int) :
    Output.gpsControlGpsReset g ∉ openAcksSent si x :=
  delete_not_mem (engineMsgs_openAcksSent si x) g

@[simp] theorem delete_not_mem_closeAcksSent (g : BitVec 32) : Output.gpsControlGpsReset g ∉ closeAcksSent x :=
  delete_not_mem (engineMsgs_closeAcksSent x) g

@[simp] theorem delete_mem_aidingSent {g : BitVec 32} :
    Output.gpsControlGpsReset g ∈ aidingSent x ↔ x.deleteAidingFlag ≠ 0 ∧ g = x.deleteAidingFlag := by
  unfold aidingSent
  split <;> simp_all

/-! ## The three handlers and the FSM -/

theorem fsmGpsStateIdle_resets (ev : GpsEvent) (t : Turn) (hst : t.ctx.gpsState = .idle) :
    FsmResets ev t (fsmGpsStateIdle ev t) := by
  cases ev <;> constructor <;> simp +contextual [fsmGpsStateIdle, fsmAcks, hst, resetPending, resetAcked]

theorem fsmGpsStateStarting_resets (ev : GpsEvent) (d : Int) (t : Turn) (hst : t.ctx.gpsState = .starting) :
    FsmResets ev t (fsmGpsStateStarting ev d t) := by
  cases ev with
  | startDone =>
    simp only [fsmGpsStateStarting]
    split <;> constructor <;> simp +contextual [or_imp, fsmAcks, hst, resetPending, resetAcked]
  | start | stop | reset | stopDone => constructor <;> simp +contextual [fsmGpsStateStarting, fsmAcks, hst]

theorem fsmGpsStateStarted_resets (ev : GpsEvent) (t : Turn) (hst : t.ctx.gpsState = .started) :
    FsmResets ev t (fsmGpsStateStarted ev t) := by
  cases ev with
  | stop | startDone =>
    simp only [fsmGpsStateStarted]
    split <;> rename_i hif <;> constructor <;> simp +contextual [fsmAcks, hst, hif, resetPending, resetAcked]
  | start | reset | stopDone =>
    constructor <;> simp +contextual [or_imp, fsmGpsStateStarted, fsmAcks, hst, resetPending, resetAcked]

theorem fsmGpsStateStopping_resets (ev : GpsEvent) (t : Turn) (hst : t.ctx.gpsState = .stopping) :
    FsmResets ev t (fsmGpsStateStopping ev t) := by
  cases ev with
  | stopDone =>
    simp only [fsmGpsStateStopping]
    split <;> constructor <;> simp +contextual [fsmAcks, hst, resetPending, resetAcked]
  | start | stop | reset | startDone =>
    constructor <;> simp +contextual [fsmGpsStateStopping, fsmAcks, hst, resetPending, resetAcked]

/-- **Step lemma** of the FSM. -/
theorem mnldFsm_resets (ev : GpsEvent) (d : Int) (t : Turn) : FsmResets ev t (mnldFsm ev d t) := by
  cases hst : t.ctx.gpsState with
  | idle => simpa only [mnldFsm, hst] using fsmGpsStateIdle_resets ev t hst
  | starting => simpa only [mnldFsm, hst] using fsmGpsStateStarting_resets ev d t hst
  | started => simpa only [mnldFsm, hst] using fsmGpsStateStarted_resets ev t hst
  | stopping => simpa only [mnldFsm, hst] using fsmGpsStateStopping_resets ev t hst

/-! ## The events -/

/-- Some client other than `c` uses GPS. -/
def otherUser (x : MnldContext) (c : GpsClient) : Bool := decide (∃ c', c' ≠ c ∧ (x.clients c').gpsUsed = true)

/-- A reset is pending once the event's own flags are written: a request is, and a rebooted agpsd no longer
    waits. -/
def pendingFor (e : MainEvent) (x : MnldContext) : Bool :=
  match e.kind with
  | .agpsReset _ => true
  | .reboot c => c != .agps && resetPending x
  | _ => resetPending x

/-- The event runs `do_gps_reset_hdlr`. -/
def handleAcks (e : MainEvent) (x : MnldContext) : Bool :=
  match e.kind with
  | .start _ => x.gpsState == .started
  | .stop c | .reboot c => x.gpsState == .idle || (x.gpsState == .started && otherUser x c)
  | .halDelete _ | .agpsReset _ => x.gpsState == .idle || x.gpsState == .stopping
  | .startDone _ => x.gpsState == .starting
  | .stopDone => x.gpsState == .stopping
  | .resetDone => true
  | .nmeaTimeout | .other => false

/-- What handling an event does to the pending reset, its acknowledgement and `timer_reset`. -/
structure HandleResets (e : MainEvent) (x : MnldContext) (t : Turn) : Prop where
  pending : resetPending t.ctx = (pendingFor e x && !handleAcks e x)
  acked : Output.mnl2agpsResetGpsDone ∈ t.sent ↔ pendingFor e x = true ∧ handleAcks e x = true
  armed : e.kind ≠ .resetDone → x.timerReset = true → t.ctx.timerReset = true
  arms : ∀ g, Output.gpsControlGpsReset g ∈ t.sent → t.ctx.timerReset = true
  disarms : e.kind = .resetDone → t.ctx.timerReset = false

theorem Prepared.resets {c : GpsClient} {f : ClientFlags} {fl : BitVec 32} (hp : Prepared x c f fl t) {d : Int}
    (hk : e.kind ≠ .resetDone) (hpend : resetPending t.ctx = pendingFor e x)
    (hacks : fsmAcks ev t.ctx = handleAcks e x) : HandleResets e x (mnldFsm ev d t) := by
  have h := mnldFsm_resets ev d t
  have hnot : Output.mnl2agpsResetGpsDone ∉ t.sent := fun hmem => by
    rcases hp.sent _ hmem with h | ⟨_, h⟩ <;> cases h
  refine ⟨?_, ?_, ?_, ?_, ?_⟩
  · rw [h.pending, hpend, hacks]
  · rw [h.acked, hpend, hacks]
    exact or_iff_right hnot
  · exact fun _ hx => h.armed (hp.timerReset ▸ hx)
  · exact fun g hg => (h.arms g hg).resolve_left (delete_not_mem hp.engineMsgs_sent g)
  · exact fun he => absurd he hk

theorem fsmResets_fresh {d : Int} (hk : e.kind ≠ .resetDone) (hpend : resetPending x = pendingFor e x)
    (hacks : fsmAcks ev x = handleAcks e x) : HandleResets e x (mnldFsm ev d ⟨x, []⟩) := by
  have h := mnldFsm_resets ev d ⟨x, []⟩
  refine ⟨?_, ?_, fun _ => h.armed, fun g hg => ?_, fun he => absurd he hk⟩
  · rw [h.pending, hpend, hacks]
  · rw [h.acked, hpend, hacks]
    exact or_iff_right (by simp)
  · exact (h.arms g hg).resolve_left (by simp)

theorem Prepared.resetPending_eq {c : GpsClient} {f : ClientFlags} {fl : BitVec 32} (hp : Prepared x c f fl t)
    (hf : c = .agps → f.needResetAck = (x.clients .agps).needResetAck) : resetPending t.ctx = resetPending x := by
  unfold resetPending
  rw [hp.clients]
  by_cases hc : c = .agps
  · subst hc; simpa using hf rfl
  · rw [Function.update_of_ne (Ne.symm hc)]

theorem Prepared.fsmAcks_stop {c : GpsClient} {f : ClientFlags} {fl : BitVec 32} (hp : Prepared x c f fl t)
    (hf : f.gpsUsed = false) :
    fsmAcks .stop t.ctx = (x.gpsState == .idle || (x.gpsState == .started && otherUser x c)) := by
  have hother : (!isAllGpsClientExit t.ctx) = otherUser x c := by
    rw [Bool.eq_iff_iff, Bool.not_eq_true', isAllGpsClientExit_eq_false_iff, otherUser, decide_eq_true_iff,
      hp.clients]
    refine exists_congr fun c' => ?_
    by_cases hc : c' = c
    · subst hc; simp [hf]
    · simp [hc]
  unfold fsmAcks
  rw [hp.gpsState]
  cases x.gpsState <;> simp [hother]

theorem mainEventNmeaTimeout_resets (hk : e.kind = .nmeaTimeout) (x : MnldContext) :
    HandleResets e x (mainEventNmeaTimeout ⟨x, []⟩) := by
  have hpend : pendingFor e x = resetPending x := by simp [pendingFor, hk]
  have hacks : handleAcks e x = false := by simp [handleAcks, hk]
  have hne : e.kind ≠ .resetDone := by simp [hk]
  unfold mainEventNmeaTimeout
  split
  · rename_i hst
    have hst : x.gpsState = .started := by simpa [mnldIsGpsStartedDone] using hst
    have hno : fsmAcks .stop (mtkGpsClearGpsUser ⟨x, []⟩).ctx = false := by
      unfold fsmAcks
      rw [show (mtkGpsClearGpsUser ⟨x, []⟩).ctx.gpsState = .started from hst]
      rfl
    have h := mnldFsm_resets .stop 0 (mtkGpsClearGpsUser ⟨x, []⟩)
    refine ⟨?_, ?_, fun _ => h.armed, fun g hg => ?_, fun he => absurd he hne⟩
    · rw [Turn.send_ctx, h.pending, hno, hpend, hacks]; rfl
    · rw [Turn.send_sent, mem_append, h.acked, hno, hacks]
      simp [mtkGpsClearGpsUser]
    · rw [Turn.send_sent, mem_append] at hg
      exact (h.arms g (hg.resolve_right (by simp))).resolve_left (by simp [mtkGpsClearGpsUser])
  · exact ⟨by simp [hpend, hacks], by simp [hacks], fun _ => id, by simp, fun he => absurd he hne⟩

/-- **What every event does to agpsd's reset**, an empty reset apart. -/
theorem handle_resets (he : e ≠ .agpsResetGpsReq 0) : HandleResets e x (handle e ⟨x, []⟩) := by
  refine handle_cases (P := fun e t => e ≠ .agpsResetGpsReq 0 → HandleResets e x t)
    ?start ?stop ?reboot ?halDelete ?agpsReset ?agpsResetNone ?startDone ?stopDone ?resetDone
    ?nmeaTimeout ?other e he
  case start =>
    intro e c t hk hp _
    refine hp.resets (by simp [hk]) ?_ ?_
    · rw [hp.resetPending_eq (by rintro rfl; rfl)]; simp [pendingFor, hk]
    · simp only [fsmAcks, handleAcks, hk, hp.gpsState]; cases x.gpsState <;> rfl
  case stop =>
    intro e c t hk hp _
    refine hp.resets (by simp [hk]) ?_ ?_
    · rw [hp.resetPending_eq (by rintro rfl; rfl)]; simp [pendingFor, hk]
    · rw [hp.fsmAcks_stop rfl]; simp [handleAcks, hk]
  case reboot =>
    intro e c t hk hp _
    refine hp.resets (by simp [hk]) ?_ ?_
    · by_cases hc : c = .agps
      · subst hc
        simp [resetPending, pendingFor, hk, hp.clients, noFlags]
      · rw [hp.resetPending_eq (fun h => absurd h hc)]
        simp [pendingFor, hk, hc]
    · rw [hp.fsmAcks_stop rfl]; simp [handleAcks, hk]
  case halDelete =>
    intro e fl t hk hp _
    refine hp.resets (by simp [hk]) ?_ ?_
    · rw [hp.resetPending_eq (by simp)]; simp [pendingFor, hk]
    · simp only [fsmAcks, handleAcks, hk, hp.gpsState]; cases x.gpsState <;> rfl
  case agpsReset =>
    intro e fl t hk _ hp _
    refine hp.resets (by simp [hk]) ?_ ?_
    · simp [resetPending, pendingFor, hk, hp.clients]
    · simp only [fsmAcks, handleAcks, hk, hp.gpsState]; cases x.gpsState <;> rfl
  case agpsResetNone =>
    intro e hk he
    cases e <;> simp_all [MainEvent.kind]
  case startDone | stopDone =>
    intros
    rename_i hk _
    refine fsmResets_fresh (by simp [hk]) (by simp [pendingFor, hk]) ?_
    simp only [fsmAcks, handleAcks, hk]
    cases x.gpsState <;> rfl
  case resetDone =>
    intro e hk _
    constructor <;> simp [mainEventResetDone, resetPending, resetAcked, handleAcks, pendingFor, hk]
  case nmeaTimeout =>
    intro e hk _
    exact mainEventNmeaTimeout_resets hk x
  case other =>
    intro e t hk hctx hsent _
    obtain ⟨b, hctx⟩ := hctx
    refine ⟨?_, ?_, fun _ h => ?_, fun g h => ?_, fun h => absurd h (by simp [hk])⟩
    · simp [hctx, resetPending, pendingFor, handleAcks, hk]
    · simp only [handleAcks, hk, Bool.false_eq_true, and_false, iff_false]
      intro h
      rcases hsent _ h with h | h | h <;> cases h
    · rw [hctx]; exact h
    · rcases hsent _ h with h | h | h <;> cases h

end HuaweiY5.Mnld
