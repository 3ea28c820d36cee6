import HuaweiY5.Mnld.Handlers

/-!
# `Mnld.Invariant` — what every reachable context of the main thread satisfies

`FsmInv` ties the client flags to the FSM state. It is not preserved *inside* a handler: a request first
writes its client's flags and only then runs the FSM, so between the two the context already has a user in
IDLE, or no user left in STARTED. The step lemmas therefore come in two layers: what a request's writes
keep (`ClientsOk` and one clause per FSM event), and what `mnld_fsm` makes of such a context.
-/

namespace HuaweiY5.Mnld

/-- How the flags of one client constrain each other, in any FSM state and also between two statements of a
    handler. -/
structure ClientsOk (x : MnldContext) : Prop where
  openUsed : ∀ c, (x.clients c).needOpenAck = true → (x.clients c).gpsUsed = true
  closeUnused : ∀ c, (x.clients c).needCloseAck = true → (x.clients c).gpsUsed = false
  resetAgps : ∀ c, c ≠ .agps → (x.clients c).needResetAck = false

/-- **The invariant of the main thread.** -/
structure FsmInv (x : MnldContext) : Prop extends ClientsOk x where
  idle : x.gpsState = .idle → ∀ c, x.clients c = noFlags
  started : x.gpsState = .started →
    (∀ c, (x.clients c).needOpenAck = false) ∧ x.deleteAidingFlag = 0 ∧ ∃ c, (x.clients c).gpsUsed = true

theorem fsmInv_zero : FsmInv .zero where
  openUsed := by simp [MnldContext.zero]
  closeUnused := by simp [MnldContext.zero]
  resetAgps := by simp [MnldContext.zero]
  idle := fun _ _ => rfl
  started := by simp [MnldContext.zero]

/-! ## What a request's writes keep -/

variable {x : MnldContext} {t : Turn} {d : Int}

theorem ClientsOk.prepared (h : ClientsOk x) {c : GpsClient} {f : ClientFlags} {fl : BitVec 32}
    (hp : Prepared x c f fl t)
    (ho : f.needOpenAck = true → f.gpsUsed = true) (hc : f.needCloseAck = true → f.gpsUsed = false)
    (hr : c ≠ .agps → f.needResetAck = false) : ClientsOk t.ctx := by
  refine ⟨fun d => ?_, fun d => ?_, fun d hd => ?_⟩ <;> rw [hp.clients]
  · by_cases hdc : d = c
    · subst hdc; simpa using ho
    · simpa [hdc] using h.openUsed d
  · by_cases hdc : d = c
    · subst hdc; simpa using hc
    · simpa [hdc] using h.closeUnused d
  · by_cases hdc : d = c
    · subst hdc; simpa using hr hd
    · simpa [hdc] using h.resetAgps d hd

/-! ## What `mnld_fsm` makes of such a context -/

theorem fsmInv_start (h : ClientsOk t.ctx)
    (hs : t.ctx.gpsState = .started → ∃ c, (t.ctx.clients c).gpsUsed = true) :
    FsmInv (mnldFsm .start d t).ctx := by
  cases hst : t.ctx.gpsState with
  | idle =>
    simp only [mnldFsm, hst, fsmGpsStateIdle, sendStart_ctx]
    exact ⟨⟨h.openUsed, h.closeUnused, h.resetAgps⟩, by simp, by simp⟩
  | starting =>
    simp only [mnldFsm, hst, fsmGpsStateStarting]
    exact ⟨h, by simp [hst], by simp [hst]⟩
  | started =>
    simp only [mnldFsm, hst, fsmGpsStateStarted, doGpsStartedHdlr_ctx]
    exact ⟨⟨by simp, h.closeUnused, fun c hc => by simp [resetAcked, h.resetAgps c hc]⟩,
      by simp, fun _ => ⟨fun _ => rfl, rfl, hs hst⟩⟩
  | stopping =>
    simp only [mnldFsm, hst, fsmGpsStateStopping]
    exact ⟨h, by simp [hst], by simp [hst]⟩

theorem fsmInv_stop (h : ClientsOk t.ctx)
    (hi : t.ctx.gpsState = .idle → ∀ c, (t.ctx.clients c).gpsUsed = false)
    (hs : t.ctx.gpsState = .started → (∀ c, (t.ctx.clients c).needOpenAck = false) ∧ t.ctx.deleteAidingFlag = 0) :
    FsmInv (mnldFsm .stop d t).ctx := by
  -- whatever the state, the flags `do_gps_stopped_hdlr` leaves are consistent
  have hstopped : ClientsOk (doGpsStoppedHdlr t).ctx := by
    rw [doGpsStoppedHdlr_ctx]
    exact ⟨h.openUsed, by simp, fun c hc => by simp [resetAcked, h.resetAgps c hc]⟩
  cases hst : t.ctx.gpsState with
  | idle =>
    simp only [mnldFsm, hst, fsmGpsStateIdle]
    refine ⟨hstopped, fun _ c => ?_, by simp [hst]⟩
    have hopen : (t.ctx.clients c).needOpenAck = false := by
      by_contra ho
      exact absurd (h.openUsed c (by simpa using ho)) (by simp [hi hst c])
    have hreset : c ≠ .agps → (t.ctx.clients c).needResetAck = false := h.resetAgps c
    simp only [doGpsStoppedHdlr_ctx, resetAcked, hi hst c, hopen, noFlags]
    split
    · rfl
    · rename_i hc; rw [hreset hc]
  | starting =>
    simp only [mnldFsm, hst, fsmGpsStateStarting]
    exact ⟨h, by simp [hst], by simp [hst]⟩
  | started =>
    simp only [mnldFsm, hst, fsmGpsStateStarted]
    split
    · exact ⟨⟨h.openUsed, h.closeUnused, h.resetAgps⟩, by simp, by simp⟩
    · rename_i hex
      refine ⟨hstopped, by simp [hst], fun _ => ?_⟩
      simp only [doGpsStoppedHdlr_ctx]
      exact ⟨(hs hst).1, (hs hst).2, isAllGpsClientExit_eq_false_iff.mp (by simpa using hex)⟩
  | stopping =>
    simp only [mnldFsm, hst, fsmGpsStateStopping]
    exact ⟨h, by simp [hst], by simp [hst]⟩

theorem fsmInv_reset (h : ClientsOk t.ctx)
    (hi : t.ctx.gpsState = .idle → ∀ c, resetAcked t.ctx.clients c = noFlags)
    (hs : t.ctx.gpsState = .started →
      (∀ c, (t.ctx.clients c).needOpenAck = false) ∧ ∃ c, (t.ctx.clients c).gpsUsed = true) :
    FsmInv (mnldFsm .reset d t).ctx := by
  have hacked : ClientsOk (doGpsResetHdlr t).ctx := by
    rw [doGpsResetHdlr_ctx]
    exact ⟨h.openUsed, h.closeUnused, fun c hc => by simp [resetAcked, h.resetAgps c hc]⟩
  cases hst : t.ctx.gpsState with
  | idle =>
    simp only [mnldFsm, hst, fsmGpsStateIdle]
    refine ⟨hacked, fun _ c => ?_, by simp [hst]⟩
    rw [doGpsResetHdlr_ctx]; exact hi hst c
  | starting =>
    simp only [mnldFsm, hst, fsmGpsStateStarting]
    exact ⟨h, by simp [hst], by simp [hst]⟩
  | started =>
    simp only [mnldFsm, hst, fsmGpsStateStarted, sendAidingFlag_ctx]
    exact ⟨⟨h.openUsed, h.closeUnused, h.resetAgps⟩, by simp, fun _ => ⟨(hs hst).1, rfl, (hs hst).2⟩⟩
  | stopping =>
    simp only [mnldFsm, hst, fsmGpsStateStopping]
    exact ⟨hacked, by simp [hst], by simp [hst]⟩

theorem fsmInv_startDone (h : FsmInv t.ctx) : FsmInv (mnldFsm .startDone d t).ctx := by
  cases hst : t.ctx.gpsState with
  | idle => simpa only [mnldFsm, hst, fsmGpsStateIdle] using h
  | starting =>
    have hok : ClientsOk (doGpsStartedHdlr d (t.write fun x => { x with timerStart := false })).ctx := by
      rw [doGpsStartedHdlr_ctx]
      exact ⟨by simp, h.closeUnused, fun c hc => by simp [resetAcked, h.resetAgps c hc]⟩
    simp only [mnldFsm, hst, fsmGpsStateStarting]
    split
    · exact ⟨⟨hok.openUsed, hok.closeUnused, hok.resetAgps⟩, by simp, by simp⟩
    · rename_i hex
      refine ⟨⟨hok.openUsed, hok.closeUnused, hok.resetAgps⟩, by simp, fun _ => ?_⟩
      have hused := isAllGpsClientExit_eq_false_iff.mp (eq_false_of_ne_true hex)
      exact ⟨by simp, by simp, hused⟩
  | started =>
    simp only [mnldFsm, hst, fsmGpsStateStarted]
    split <;> exact h
  | stopping => simpa only [mnldFsm, hst, fsmGpsStateStopping] using h

theorem fsmInv_stopDone (h : FsmInv t.ctx) (hst : t.ctx.gpsState = .stopping) :
    FsmInv (mnldFsm .stopDone d t).ctx := by
  have hok : ClientsOk (doGpsStoppedHdlr (t.write fun x => { x with timerStop := false })).ctx := by
    rw [doGpsStoppedHdlr_ctx]
    exact ⟨h.openUsed, by simp, fun c hc => by simp [resetAcked, h.resetAgps c hc]⟩
  simp only [mnldFsm, hst, fsmGpsStateStopping]
  split
  · simp only [sendStart_ctx]
    exact ⟨⟨hok.openUsed, hok.closeUnused, hok.resetAgps⟩, by simp, by simp⟩
  · rename_i hex
    have hexit : ∀ c, (t.ctx.clients c).gpsUsed = false := by
      rw [isAGpsClientExist_eq] at hex
      have := isAllGpsClientExit_iff.mp (by simpa using hex)
      simpa [resetAcked] using this
    refine ⟨⟨hok.openUsed, hok.closeUnused, hok.resetAgps⟩, fun _ c => ?_, by simp⟩
    -- nobody uses GPS, so no open acknowledgement is pending either
    have hopen : (t.ctx.clients c).needOpenAck = false := by
      by_contra ho
      exact absurd (h.openUsed c (by simpa using ho)) (by simp [hexit c])
    simp only [Turn.write_ctx, Turn.send_ctx, doGpsStoppedHdlr_ctx, resetAcked, hexit c, hopen, noFlags]
    split
    · rfl
    · rename_i hc; rw [h.resetAgps c hc]

/-! ## One event, and every run -/

theorem fsmInv_gone (h : FsmInv x) {c : GpsClient} {f : ClientFlags} (hp : Prepared x c f 0 t)
    (hu : f.gpsUsed = false) (ho : f.needOpenAck = false) (hr : c ≠ .agps → f.needResetAck = false) :
    FsmInv (mnldFsm .stop 0 t).ctx := by
  refine fsmInv_stop (h.toClientsOk.prepared hp (by simp [ho]) (fun _ => hu) hr)
    (fun hst c' => ?_) (fun hst => ⟨fun c' => ?_, ?_⟩)
  · rw [hp.clients]
    by_cases hc : c' = c
    · subst hc; simpa using hu
    · simp [hc, h.idle (hp.gpsState ▸ hst) c', noFlags]
  · rw [hp.clients]
    by_cases hc : c' = c
    · subst hc; simpa using ho
    · simpa [hc] using (h.started (hp.gpsState ▸ hst)).1 c'
  · rw [hp.flag, (h.started (hp.gpsState ▸ hst)).2.1]; simp

theorem fsmInv_resetRequest (h : FsmInv x) {c : GpsClient} {ack : Bool} {fl : BitVec 32}
    (hp : Prepared x c { x.clients c with needResetAck := ack } fl t) (hack : c ≠ .agps → ack = false) :
    FsmInv (mnldFsm .reset 0 t).ctx := by
  have hok : ClientsOk t.ctx := h.toClientsOk.prepared hp (h.openUsed c) (h.closeUnused c) hack
  -- apart from the reset acknowledgement, every client's flags are what they were
  have hflags : ∀ c', (t.ctx.clients c').needOpenAck = (x.clients c').needOpenAck ∧
      (t.ctx.clients c').needCloseAck = (x.clients c').needCloseAck ∧
      (t.ctx.clients c').gpsUsed = (x.clients c').gpsUsed := by
    intro c'
    rw [hp.clients]
    by_cases hc : c' = c
    · subst hc; simp
    · simp [hc]
  refine fsmInv_reset hok (fun hst c' => ?_) (fun hst => ?_)
  · obtain ⟨h1, h2, h3⟩ := hflags c'
    have hr := hok.resetAgps c'
    rw [h.idle (hp.gpsState ▸ hst) c'] at h1 h2 h3
    ext
    · exact h3
    · exact h1
    · exact h2
    · simp only [resetAcked]
      split
      · rfl
      · rename_i hc; exact hr hc
  · obtain ⟨hopen, -, cu, hcu⟩ := h.started (hp.gpsState ▸ hst)
    exact ⟨fun c' => by rw [(hflags c').1]; exact hopen c', cu, by rw [(hflags cu).2.2]; exact hcu⟩

theorem fsmInv_nmeaTimeout (h : FsmInv t.ctx) : FsmInv (mainEventNmeaTimeout t).ctx := by
  unfold mainEventNmeaTimeout
  split
  · rename_i hst
    have hst : t.ctx.gpsState = .started := by simpa [mnldIsGpsStartedDone] using hst
    obtain ⟨hopen, hflag, -⟩ := h.started hst
    refine fsmInv_stop ⟨fun c ho => ?_, fun _ _ => rfl, h.resetAgps⟩ (fun _ _ => rfl)
      (fun _ => ⟨hopen, hflag⟩)
    exact absurd ho (by simp [mtkGpsClearGpsUser, hopen c])
  · exact h

/-- **One event keeps the invariant.** -/
theorem fsmInv_handle (h : FsmInv x) (e : MainEvent) (hen : e = .stopDone → x.gpsState = .stopping) :
    FsmInv (handle e ⟨x, []⟩).ctx := by
  revert hen
  refine handle_cases (P := fun e t => (e = .stopDone → x.gpsState = .stopping) → FsmInv t.ctx)
    ?start ?stop ?reboot ?halDelete ?agpsReset ?agpsResetNone ?startDone ?stopDone ?resetDone
    ?nmeaTimeout ?other e
  case start =>
    intro e c t _ hp _
    refine fsmInv_start (h.toClientsOk.prepared hp (by simp [startFlags]) (by simp [startFlags])
      (h.resetAgps c)) fun _ => ⟨c, ?_⟩
    rw [hp.clients]; simp [startFlags]
  case stop => exact fun e c t _ hp _ => fsmInv_gone h hp rfl rfl (h.resetAgps c)
  case reboot => exact fun e c t _ hp _ => fsmInv_gone h hp rfl rfl fun _ => rfl
  case halDelete => exact fun e fl t _ hp _ => fsmInv_resetRequest h hp fun _ => rfl
  case agpsReset => exact fun e fl t _ _ hp _ => fsmInv_resetRequest h hp fun hc => absurd rfl hc
  case agpsResetNone => exact fun e _ _ => h
  case startDone => exact fun e assist _ _ => fsmInv_startDone h
  case stopDone =>
    intro e hk hen
    exact fsmInv_stopDone h (hen (MainEvent.eq_of_kind_stopDone hk))
  case resetDone =>
    intro e _ _
    simp only [mainEventResetDone, doGpsResetHdlr_ctx]
    refine ⟨⟨h.openUsed, h.closeUnused, fun c hc => ?_⟩, fun hst c => ?_, h.started⟩
    · simpa [resetAcked, hc] using h.resetAgps c hc
    · simp [resetAcked, h.idle hst c, noFlags]
  case nmeaTimeout => exact fun e _ _ => fsmInv_nmeaTimeout h
  case other =>
    rintro e t _ ⟨b, hctx⟩ _ _
    rw [hctx]
    exact ⟨⟨h.openUsed, h.closeUnused, h.resetAgps⟩, h.idle, h.started⟩

theorem fsmInv_run {tr : List (Transducer.Entry MnldContext MainEvent Output)}
    (h : mnldMachine.Run tr x) : FsmInv x := by
  refine Transducer.Run.invariant (M := mnldMachine) fsmInv_zero (fun s e hi hen => ?_) h
  exact fsmInv_handle hi e hen

/-- **The reachable states of the GPS FSM.** In IDLE no client uses GPS and nothing is left to acknowledge;
    in STARTED no open acknowledgement and no deletion is pending and somebody uses GPS; and a client waits
    for an open acknowledgement only while it uses GPS, for a close acknowledgement only while it does not. -/
theorem mnld_reachable_flags {tr : List (Transducer.Entry MnldContext MainEvent Output)}
    (h : mnldMachine.Run tr x) :
    (x.gpsState = .idle → ∀ c, (x.clients c).gpsUsed = false ∧ (x.clients c).needOpenAck = false ∧
      (x.clients c).needCloseAck = false ∧ (x.clients c).needResetAck = false) ∧
    (x.gpsState = .started → (∀ c, (x.clients c).needOpenAck = false) ∧ x.deleteAidingFlag = 0) ∧
    (∀ c, ((x.clients c).needOpenAck = true → (x.clients c).gpsUsed = true) ∧
      ((x.clients c).needCloseAck = true → (x.clients c).gpsUsed = false)) ∧
    (x.gpsState = .started → ∃ c, (x.clients c).gpsUsed = true) := by
  have hi := fsmInv_run h
  refine ⟨fun hst c => ?_, fun hst => ?_, fun c => ⟨hi.openUsed c, hi.closeUnused c⟩, fun hst => (hi.started hst).2.2⟩
  · rw [hi.idle hst c]; exact ⟨rfl, rfl, rfl, rfl⟩
  · exact ⟨(hi.started hst).1, (hi.started hst).2.1⟩

/-- The HAL starts, the engine reports START_DONE: the run is in STARTED with the HAL as its user. -/
theorem mnld_reachable_flags_hal_started :
    let es : List MainEvent := [.halGpsStart ⟨false, false⟩, .agpsResetGpsReq 1, .startDone 0]
    (mnldMachine.exec es).2.gpsState = .started ∧ ∃ c, ((mnldMachine.exec es).2.clients c).gpsUsed = true := by
  refine ⟨rfl, (mnld_reachable_flags (mnldMachine.run_exec ?_)).2.2.2 rfl⟩
  simp [Transducer.Admissible, mnldMachine]

end HuaweiY5.Mnld
