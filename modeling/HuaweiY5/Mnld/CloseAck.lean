import HuaweiY5.Mnld.Invariant

/-!
# `Mnld.CloseAck` — when a stop request is acknowledged

A stop request sets its client's `need_close_ack`; `do_gps_stopped_hdlr` sends the acknowledgement, maybe
many events later. In STARTING the FSM ignores the stop ("do nothing") and leaves the flag for START_DONE.
If no user is left START_DONE goes on to STOPPING and the acknowledgement follows STOP_DONE; but if another
client still uses GPS it enters STARTED **without** running `do_gps_stopped_hdlr`, and the acknowledgement
is missing in a settled state.
-/

namespace HuaweiY5.Mnld

open List

abbrev MnldEntry := Transducer.Entry MnldContext MainEvent Output

variable (x : MnldContext)

def Settled : Prop := x.gpsState = .idle ∨ x.gpsState = .started

def NoClosePending : Prop := ∀ c, (x.clients c).needCloseAck = false

/-- Every stop request of `c` in the history that no later start or reboot of `c` superseded has been
    acknowledged since: some event from the request on sent `c`'s close acknowledgement. -/
def StopsAcked (c : GpsClient) (tr : List MnldEntry) : Prop :=
  ∀ l y r, tr = l ++ y :: r → y.event.kind = .stop c →
    (∀ z ∈ r, z.event.kind ≠ .start c ∧ z.event.kind ≠ .reboot c) →
    ∃ z ∈ y :: r, closeAckMsgs c <:+: z.out

/-- START_DONE is handled in STARTING with a close acknowledgement pending and a user left. -/
def CloseAckLost (e : MainEvent) : Prop :=
  x.gpsState = .starting ∧ (∃ assist, e = .startDone assist) ∧
    (∃ c, (x.clients c).needCloseAck = true) ∧ ∃ c, (x.clients c).gpsUsed = true

/-! ## What one FSM call does to a close acknowledgement -/

variable {t : Turn} {c : GpsClient}

variable {x : MnldContext}

theorem closeAckMsgs_sent (h : (x.clients c).needCloseAck = true) : closeAckMsgs c <:+: closeAcksSent x := by
  have hmem : closeAckMsgs c ∈ GpsClient.order.map
      fun c => if (x.clients c).needCloseAck then closeAckMsgs c else [] :=
    mem_map.mpr ⟨c, c.mem_order, if_pos h⟩
  exact infix_of_mem_flatten hmem

theorem doGpsStoppedHdlr_acks (h : (t.ctx.clients c).needCloseAck = true) :
    closeAckMsgs c <:+: (doGpsStoppedHdlr t).sent := by
  rw [doGpsStoppedHdlr_sent]
  exact (closeAckMsgs_sent h).trans ⟨t.sent, resetAckSent t.ctx, rfl⟩

theorem mnldFsm_close (ev : GpsEvent) (d : Int) (t : Turn) (c : GpsClient) :
    ((mnldFsm ev d t).ctx.clients c).needCloseAck = (t.ctx.clients c).needCloseAck ∨
      (t.ctx.clients c).needCloseAck = true ∧ closeAckMsgs c <:+: (mnldFsm ev d t).sent := by
  -- the only handler that touches the flag
  have hstopped : ∀ t' : Turn, t'.ctx.clients = t.ctx.clients →
      ((doGpsStoppedHdlr t').ctx.clients c).needCloseAck = (t.ctx.clients c).needCloseAck ∨
        (t.ctx.clients c).needCloseAck = true ∧ closeAckMsgs c <:+: (doGpsStoppedHdlr t').sent := by
    intro t' ht'
    cases hc : (t.ctx.clients c).needCloseAck with
    | false => left; simp
    | true => right; exact ⟨rfl, doGpsStoppedHdlr_acks (by rw [ht']; exact hc)⟩
  cases hst : t.ctx.gpsState with
  | idle =>
    cases ev <;> simp only [mnldFsm, hst, fsmGpsStateIdle]
    simp
    case stop => exact hstopped t rfl
    simp [resetAcked]
    all_goals simp
  | starting =>
    cases ev <;> simp only [mnldFsm, hst, fsmGpsStateStarting]
    case startDone => left; split <;> simp [resetAcked]
    all_goals simp
  | started =>
    cases ev <;> simp only [mnldFsm, hst, fsmGpsStateStarted]
    simp [resetAcked]
    case stop =>
      split
      · simp
      · exact hstopped t rfl
    simp
    case startDone => left; split <;> simp
    simp
  | stopping =>
    cases ev <;> simp only [mnldFsm, hst, fsmGpsStateStopping]
    case reset => left; simp [resetAcked]
    case stopDone =>
      have hs := hstopped (t.write fun x => { x with timerStop := false }) rfl
      split
      · simp only [sendStart_ctx, sendStart_sent]
        exact hs.imp_right (And.imp_right fun hack => hack.trans ⟨[], _, rfl⟩)
      · exact hs.imp_right (And.imp_right fun hack => hack.trans ⟨[], _, rfl⟩)
    all_goals simp

/-- What one event does to `c`'s close acknowledgement: it supersedes the request, acknowledges it, leaves
    it pending, or has nothing to do with it. -/
inductive CloseStep (c : GpsClient) (x : MnldContext) (e : MainEvent) (t : Turn) : Prop
  | superseded (h : e.kind = .start c ∨ e.kind = .reboot c)
  | acked (h : closeAckMsgs c <:+: t.sent)
  | pending (h : (t.ctx.clients c).needCloseAck = true)
  | untouched (hk : e.kind ≠ .stop c) (h : (t.ctx.clients c).needCloseAck = (x.clients c).needCloseAck)

variable {e : MainEvent} {ev : GpsEvent} {d : Int}

theorem CloseStep.fsm (hk : e.kind ≠ .stop c) (ht : (t.ctx.clients c).needCloseAck = (x.clients c).needCloseAck) :
    CloseStep c x e (mnldFsm ev d t) := by
  rcases mnldFsm_close ev d t c with h | ⟨-, h⟩
  · exact .untouched hk (h.trans ht)
  · exact .acked h

theorem Prepared.closeStep {c' : GpsClient} {f : ClientFlags} {fl : BitVec 32} (hp : Prepared x c' f fl t) (hc : c' ≠ c)
    (hk : e.kind ≠ .stop c) : CloseStep c x e (mnldFsm ev d t) :=
  .fsm hk (by rw [hp.clients]; simp [Ne.symm hc])

theorem handle_close (x : MnldContext) (e : MainEvent) (c : GpsClient) : CloseStep c x e (handle e ⟨x, []⟩) := by
  refine handle_cases (P := fun e t => CloseStep c x e t)
    ?start ?stop ?reboot ?halDelete ?agpsReset ?agpsResetNone ?startDone ?stopDone ?resetDone
    ?nmeaTimeout ?other e
  case start =>
    intro e c' t hk hp
    by_cases hc : c' = c
    · exact .superseded (.inl (hc ▸ hk))
    · exact hp.closeStep hc (by simp [hk])
  case stop =>
    intro e c' t hk hp
    by_cases hc : c' = c
    · subst hc
      cases hw : c'.wantsAck with
      | true =>
        -- the request set the flag: it is still set, or the call acknowledged it
        rcases mnldFsm_close .stop 0 t c' with h | ⟨-, h⟩
        · exact .pending (by rw [h, hp.clients]; simp [stopFlags, hw])
        · exact .acked h
      | false =>
        have hnone : closeAckMsgs c' = [] := by cases c' <;> simp_all [GpsClient.wantsAck, closeAckMsgs]
        exact .acked (by rw [hnone]; exact nil_infix)
    · exact hp.closeStep hc (by simp [hk, hc])
  case reboot =>
    intro e c' t hk hp
    by_cases hc : c' = c
    · exact .superseded (.inr (hc ▸ hk))
    · exact hp.closeStep hc (by simp [hk])
  case halDelete =>
    intro e fl t hk hp
    refine .fsm (by simp [hk]) ?_
    rw [hp.clients]; by_cases hc : c = .hal <;> simp [hc]
  case agpsReset =>
    intro e fl t hk _ hp
    refine .fsm (by simp [hk]) ?_
    rw [hp.clients]; by_cases hc : c = .agps <;> simp [hc]
  case agpsResetNone => exact fun e hk => .untouched (by simp [hk]) rfl
  case startDone => exact fun e a hk => .fsm (by simp [hk]) rfl
  case stopDone => exact fun e hk => .fsm (by simp [hk]) rfl
  case resetDone => exact fun e hk => .untouched (by simp [hk]) (by simp [mainEventResetDone, resetAcked])
  case nmeaTimeout =>
    intro e hk
    unfold mainEventNmeaTimeout
    split
    · rcases mnldFsm_close .stop 0 (mtkGpsClearGpsUser ⟨x, []⟩) c with h | ⟨-, h⟩
      · exact .untouched (by simp [hk]) h
      · exact .acked (h.trans ⟨[], _, rfl⟩)
    · exact .untouched (by simp [hk]) rfl
  case other =>
    rintro e t hk ⟨b, hctx⟩ -
    exact .untouched (by simp [hk]) (by rw [hctx])

/-! ## The history of a client's stops -/

theorem StopsAcked.snoc {tr : List MnldEntry} {y : MnldEntry}
    (h : (y.event.kind = .start c ∨ y.event.kind = .reboot c) ∨ closeAckMsgs c <:+: y.out ∨
      y.event.kind ≠ .stop c ∧ StopsAcked c tr) :
    StopsAcked c (tr ++ [y]) := by
  intro l z r hsplit hz hr
  -- the stop request is the appended event or an earlier one
  rcases snoc_eq_append_cons.mp hsplit with ⟨rfl, rfl, rfl⟩ | ⟨r', rfl, htr⟩
  · rcases h with h | h | ⟨h, -⟩
    · simp [hz] at h
    · exact ⟨_, mem_cons_self, h⟩
    · exact absurd hz h
  · rcases h with h | h | ⟨-, h⟩
    · exact absurd h (not_or.mpr (hr y (by simp)))
    · exact ⟨y, by simp, h⟩
    · obtain ⟨v, hv, hack⟩ := h l z r' htr hz fun v hv => hr v (by simp [hv])
      exact ⟨v, mem_append_left [y] hv, hack⟩

/-- **Along every run, a client with no close acknowledgement pending has had all its stops acknowledged.** -/
theorem stopsAcked_run {tr : List MnldEntry} (h : mnldMachine.Run tr x) (c : GpsClient)
    (hc : (x.clients c).needCloseAck = false) : StopsAcked c tr := by
  induction h with
  | nil => intro l y r hsplit; simp at hsplit
  | @snoc tr x e hrun hen ih =>
    apply StopsAcked.snoc
    have hc : ((handle e ⟨x, []⟩).ctx.clients c).needCloseAck = false := hc
    cases handle_close x e c with
    | superseded h => exact .inl h
    | acked h => exact .inr (.inl h)
    | pending h => rw [hc] at h; cases h
    | untouched hk h => exact .inr (.inr ⟨hk, ih (by rw [← h]; exact hc)⟩)

/-! ## Settled states -/

/-- An FSM call that ends in a settled state leaves no close acknowledgement pending, if none was pending
    in the settled state it came from and it is not the START_DONE that loses one. -/
theorem mnldFsm_settled (hs : Settled t.ctx → ev ≠ .stop → NoClosePending t.ctx)
    (hlost : ev = .startDone → t.ctx.gpsState = .starting → (∃ c, (t.ctx.clients c).gpsUsed = true) → NoClosePending t.ctx)
    (hdone : ev = .stopDone → t.ctx.gpsState = .stopping) (h : Settled (mnldFsm ev d t).ctx) :
    NoClosePending (mnldFsm ev d t).ctx := by
  revert h
  cases hst : t.ctx.gpsState with
  | idle =>
    cases ev <;> simp only [mnldFsm, hst, fsmGpsStateIdle]
    case start => simp [Settled]
    case stop => simp [NoClosePending]
    case reset | startDone => simpa [NoClosePending, resetAcked] using fun _ => hs (.inl hst) (by simp)
    case stopDone => exact absurd (hdone rfl) (by simp [hst])
  | starting =>
    cases ev <;> simp only [mnldFsm, hst, fsmGpsStateStarting]
    case startDone =>
      split
      · simp [Settled]
      · rename_i hex
        obtain ⟨cu, hcu⟩ := isAllGpsClientExit_eq_false_iff.mp (eq_false_of_ne_true hex)
        have hno := hlost rfl hst ⟨cu, by simpa [resetAcked] using hcu⟩
        simpa [NoClosePending, resetAcked] using fun _ => hno
    case stopDone => exact absurd (hdone rfl) (by simp [hst])
    all_goals simp [Settled, hst]
  | started =>
    have hno : ev ≠ .stop → ∀ c, (t.ctx.clients c).needCloseAck = false := hs (.inr hst)
    cases ev <;> simp only [mnldFsm, hst, fsmGpsStateStarted]
    case stop => split <;> simp [Settled, NoClosePending]
    case startDone => split <;> simpa [NoClosePending] using fun _ => hno (by simp)
    case start | reset => simpa [NoClosePending, resetAcked] using fun _ => hno (by simp)
    case stopDone => exact absurd (hdone rfl) (by simp [hst])
  | stopping =>
    cases ev <;> simp only [mnldFsm, hst, fsmGpsStateStopping]
    case stopDone => split <;> simp [NoClosePending]
    all_goals simp [Settled, hst]

theorem handle_settled (hs : Settled x → NoClosePending x) (e : MainEvent)
    (hen : e = .stopDone → x.gpsState = .stopping) (hlost : ¬ CloseAckLost x e) (h : Settled (handle e ⟨x, []⟩).ctx) :
    NoClosePending (handle e ⟨x, []⟩).ctx := by
  -- an FSM call on flags written for a request that leaves no close acknowledgement of its own
  have hwrite : ∀ {c : GpsClient} {f : ClientFlags} {fl : BitVec 32} {t : Turn}, Prepared x c f fl t →
      (NoClosePending x → f.needCloseAck = false) → Settled t.ctx → NoClosePending t.ctx := by
    intro c f fl t hp hf hset c'
    have hno := hs (by simpa [Settled, hp.gpsState] using hset)
    rw [hp.clients]
    by_cases hc : c' = c
    · subst hc; simpa using hf hno
    · simpa [hc] using hno c'
  revert hen hlost h
  refine handle_cases (P := fun e t => (e = .stopDone → x.gpsState = .stopping) → ¬ CloseAckLost x e →
      Settled t.ctx → NoClosePending t.ctx)
    ?start ?stop ?reboot ?halDelete ?agpsReset ?agpsResetNone ?startDone ?stopDone ?resetDone
    ?nmeaTimeout ?other e
  case start =>
    exact fun e c t _ hp _ _ => mnldFsm_settled (fun hset _ => hwrite hp (fun _ => rfl) hset) (by simp) (by simp)
  case stop | reboot => exact fun e c t _ hp _ _ => mnldFsm_settled (by simp) (by simp) (by simp)
  case halDelete =>
    exact fun e fl t _ hp _ _ => mnldFsm_settled (fun hset _ => hwrite hp (fun hno => hno _) hset) (by simp) (by simp)
  case agpsReset =>
    exact fun e fl t _ _ hp _ _ => mnldFsm_settled (fun hset _ => hwrite hp (fun hno => hno _) hset) (by simp) (by simp)
  case agpsResetNone => exact fun e _ _ _ hset => hs hset
  case startDone =>
    intro e a hk _ hlost
    refine mnldFsm_settled (fun hset _ => hs hset) (fun _ hst hu c => ?_) (by simp)
    obtain rfl := MainEvent.eq_of_kind_startDone hk
    by_contra hc
    exact hlost ⟨hst, ⟨a, rfl⟩, ⟨c, by simpa using hc⟩, hu⟩
  case stopDone =>
    intro e hk hen _
    exact mnldFsm_settled (fun hset _ => hs hset) (by simp)
      (fun _ => hen (MainEvent.eq_of_kind_stopDone hk))
  case resetDone =>
    intro e _ _ _ hset c
    simpa [mainEventResetDone, resetAcked] using
      hs (by simpa [mainEventResetDone, Settled] using hset) c
  case nmeaTimeout =>
    intro e _ _ _
    unfold mainEventNmeaTimeout
    split
    · exact mnldFsm_settled (t := mtkGpsClearGpsUser ⟨x, []⟩) (by simp) (by simp) (by simp)
    · exact hs
  case other =>
    rintro e t _ ⟨b, hctx⟩ _ _ _
    rw [hctx]
    exact fun hset => hs hset

theorem closeAckLost_pending (h : CloseAckLost x e) :
    (handle e ⟨x, []⟩).ctx.gpsState = .started ∧ ¬ NoClosePending (handle e ⟨x, []⟩).ctx := by
  obtain ⟨hst, ⟨a, rfl⟩, ⟨c, hc⟩, hu⟩ := h
  have hex : isAllGpsClientExit
      (doGpsStartedHdlr a (Turn.write (fun x => { x with timerStart := false }) ⟨x, []⟩)).ctx = false :=
    isAllGpsClientExit_eq_false_iff.mpr (by simpa [resetAcked] using hu)
  simp only [handle, mnldFsm, hst, fsmGpsStateStarting, hex]
  exact ⟨rfl, fun hno => absurd (hno c) (by simp [resetAcked, hc])⟩

/-- **When no stop is left unacknowledged.** In a run, every settled state on the way has no close
    acknowledgement pending and every stop so far that was not superseded acknowledged, if and only if no
    START_DONE of the run is handled in STARTING while a close acknowledgement is pending and some client
    still uses GPS. -/
theorem settled_acked_iff_no_closeAckLost {tr : List MnldEntry} {x : MnldContext}
    (h : mnldMachine.Run tr x) :
    (∀ tr' x', mnldMachine.Run tr' x' → tr' <+: tr → Settled x' → NoClosePending x' ∧ ∀ c, StopsAcked c tr') ↔
    ∀ y ∈ tr, ¬ CloseAckLost y.pre y.event := by
  have hiff := h.forall_prefix_iff (P := fun _ x' => Settled x' → NoClosePending x')
    (C := fun x e => ¬ CloseAckLost x e) (fun _ _ => rfl) (by
      intro tr s e hrun hen hP
      refine ⟨fun hnext hl => ?_, fun hl => handle_settled hP e hen hl⟩
      exact (closeAckLost_pending hl).2 (hnext (.inr (closeAckLost_pending hl).1)))
  rw [← hiff]
  refine ⟨fun hall tr' x' hr hp hset => (hall tr' x' hr hp hset).1, fun hall tr' x' hr hp hset => ?_⟩
  exact ⟨hall tr' x' hr hp hset, fun c => stopsAcked_run hr c (hall tr' x' hr hp hset c)⟩

/-- HAL and AGPS start, the HAL stops before START_DONE: AGPS keeps the engine in STARTED and the HAL never
    hears that its session ended. -/
def halStopWhileStarting : List MainEvent := [.halGpsStart ⟨false, false⟩, .agpsOpenGpsReq, .halGpsStop, .startDone 0]

theorem halStopWhileStarting_unacked :
    ∃ tr x, mnldMachine.Run tr x ∧ tr.map (·.event) = halStopWhileStarting ∧
      x.gpsState = .started ∧ (x.clients .hal).needCloseAck = true ∧ ¬ StopsAcked .hal tr := by
  refine ⟨(mnldMachine.exec halStopWhileStarting).1, (mnldMachine.exec halStopWhileStarting).2,
    mnldMachine.run_exec ?_, rfl, rfl, rfl, fun hacked => ?_⟩
  · simp [Transducer.Admissible, mnldMachine, halStopWhileStarting]
  · obtain ⟨z, hz, hack⟩ := hacked ((mnldMachine.exec halStopWhileStarting).1.take 2) _
      ((mnldMachine.exec halStopWhileStarting).1.drop 3) rfl rfl (by decide)
    revert z
    decide

/-- A run that meets the condition: the HAL's stop comes after START_DONE. -/
theorem settled_acked_halStopAfterStarted :
    let es : List MainEvent := [.halGpsStart ⟨false, false⟩, .agpsOpenGpsReq, .startDone 0, .halGpsStop]
    NoClosePending (mnldMachine.exec es).2 ∧ StopsAcked .hal (mnldMachine.exec es).1 := by
  intro es
  have hrun : mnldMachine.Run (mnldMachine.exec es).1 (mnldMachine.exec es).2 :=
    mnldMachine.run_exec (by simp [Transducer.Admissible, mnldMachine, es])
  have hall := (settled_acked_iff_no_closeAckLost hrun).mpr (by
    intro y hy hl
    obtain ⟨-, -, ⟨c, hc⟩, -⟩ := hl
    revert c y
    decide)
  exact ⟨(hall _ _ hrun (prefix_refl _) (.inr rfl)).1, (hall _ _ hrun (prefix_refl _) (.inr rfl)).2 .hal⟩

end HuaweiY5.Mnld
