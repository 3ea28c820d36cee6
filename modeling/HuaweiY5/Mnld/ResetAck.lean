import HuaweiY5.Mnld.AidingData
import HuaweiY5.Mnld.ResetDriver
import HuaweiY5.Mnld.ResetQueues

/-!
# `Mnld.ResetAck` — when agpsd is told that its reset is done

agpsd's reset requests are merged into one boolean and one flag word, gps_control answers each
DELETE_AIDING_DATA with a RESET_DONE that names no request, and one timer guards them all. The ghost
`openResets` follows the requests themselves: which are open, whether their acknowledgement has to wait for
the deletion, and whether gps_control has served them.
-/

namespace HuaweiY5.Mnld

open List

/-! ## The open requests -/

/-- One of agpsd's reset requests that has not been acknowledged. -/
structure OpenReset where
  flags : BitVec 32
  /-- The acknowledgement has to wait: the request was handled in STARTED, or was pending when the engine
      reached STARTED. -/
  due : Bool
  /-- Since the request, gps_control has processed a deletion of its flags or stopped the engine. -/
  served : Bool
deriving DecidableEq

def OpenReset.serve (stopped : Bool) (c : GpsCommand) (q : OpenReset) : OpenReset :=
  match c with
  | .deleteAidingData g => { q with served := q.served || decide (FlagsSub q.flags g) }
  | .stop => { q with served := q.served || stopped }
  | _ => q

/-- The main thread handles an event and reaches `st'`. -/
def openMain (x : MnldContext) (st' : GpsState) (e : MainEvent) (qs : List OpenReset) : List OpenReset :=
  match e.kind with
  | .agpsReset flags => qs ++ [⟨flags, x.gpsState == .started, false⟩]
  | .reboot c => if c = .agps then [] else qs
  | .startDone _ =>
    if x.gpsState = .starting ∧ st' = .started then qs.map fun q => { q with due := true } else qs
  | _ => qs

/-- The requests that are open when a step sends its messages. -/
def openDuring (qs : List OpenReset) (y : SysEntry) : List OpenReset :=
  match y.event, mainEvent y.pre y.event with
  | .control stopped, _ => (y.pre.toGps.head?.map fun c => qs.map (OpenReset.serve stopped c)).getD qs
  | _, some e => openMain y.pre.ctx (sysMachine.next y.pre y.event).ctx.gpsState e qs
  | _, none => qs

/-- `mnl2agps_reset_gps_done` closes all of them. -/
def openAfter (qs : List OpenReset) (y : SysEntry) : List OpenReset :=
  if .mnl2agpsResetGpsDone ∈ y.out then [] else openDuring qs y

def openResets (tr : List SysEntry) : List OpenReset := tr.foldl openAfter []

@[simp] theorem openResets_snoc (tr : List SysEntry) (y : SysEntry) :
    openResets (tr ++ [y]) = openAfter (openResets tr) y := by simp [openResets]

/-! ## Where an open request stands -/

/-- The open requests `qs` in a state of the system: the boolean says whether there are any, those of STARTING
    have not been looked at, and one that is not served has its command on the way. -/
structure OpenInv (qs : List OpenReset) (s : System) : Prop where
  pending : resetPending s.ctx = true ↔ qs ≠ []
  starting : s.ctx.gpsState = .starting → ∀ q ∈ qs, q.due = false ∧ q.served = false
  due : s.ctx.gpsState = .started ∨ s.ctx.gpsState = .stopping → ∀ q ∈ qs, q.due = true
  queued : s.ctx.gpsState = .started ∨ s.ctx.gpsState = .stopping → ∀ q ∈ qs, q.served = false →
    ∃ g, .deleteAidingData g ∈ s.toGps ∧ FlagsSub q.flags g

variable {qs : List OpenReset} {s : System} {e : SysEvent} {tr : List SysEntry}

theorem OpenInv.of_nil (h : resetPending s.ctx = false) : OpenInv [] s := ⟨by simp [h], by simp, by simp, by simp⟩

theorem OpenInv.frame {s s' : System} (h : OpenInv qs s)
    (hp : resetPending s'.ctx = resetPending s.ctx)
    (hst : s'.ctx.gpsState = s.ctx.gpsState ∨ (s.ctx.gpsState = .started ∧ s'.ctx.gpsState = .stopping))
    (hq : ∀ c ∈ s.toGps, c ∈ s'.toGps) : OpenInv qs s' := by
  have hon : s'.ctx.gpsState = .started ∨ s'.ctx.gpsState = .stopping →
      s.ctx.gpsState = .started ∨ s.ctx.gpsState = .stopping := by
    rcases hst with hst | ⟨hst, -⟩
    · rw [hst]; exact id
    · exact fun _ => .inl hst
  refine ⟨hp ▸ h.pending, fun h' => ?_, fun h' => h.due (hon h'), fun h' q hmem hs => ?_⟩
  · rcases hst with hst | ⟨-, hst⟩
    · exact h.starting (hst ▸ h')
    · rw [hst] at h'; cases h'
  · obtain ⟨g, hg, hsub⟩ := h.queued (hon h') q hmem hs
    exact ⟨g, hq _ hg, hsub⟩

theorem OpenInv.request (h : OpenInv qs s) {e : MainEvent}
    (hi : FsmInv (s.main e).1.ctx) {f : BitVec 32} (hk : e.kind = .agpsReset f) (hf : f ≠ 0)
    (hp : resetPending (s.main e).1.ctx = true)
    (hst : s.ctx.gpsState = .starting ∨ s.ctx.gpsState = .started) :
    OpenInv (qs ++ [⟨f, s.ctx.gpsState == .started, false⟩]) (s.main e).1 := by
  have hstep := handle_engineStep s.ctx e
  have hsame : (s.main e).1.ctx.gpsState = s.ctx.gpsState := by
    rcases hstep.moves with hm | ⟨hev, -⟩ | ⟨hev, -⟩ | ⟨hev, -⟩ | ⟨hev, -⟩
    · exact hm
    all_goals simp [MainEvent.fsm, hk] at hev
  have hstarted : (s.main e).1.ctx.gpsState = .started ∨ (s.main e).1.ctx.gpsState = .stopping →
      s.ctx.gpsState = .started := by
    rw [hsame]; rintro (h | h)
    · exact h
    · rw [h] at hst; simp at hst
  refine ⟨by simp [hp], fun hs q hq => ?_, fun hs q hq => ?_, fun hs q hq hun => ?_⟩
  · rw [hsame] at hs
    rcases mem_append.mp hq with hq | hq
    · exact h.starting hs q hq
    · rw [mem_singleton.mp hq, hs]; exact ⟨rfl, rfl⟩
  · rcases mem_append.mp hq with hq | hq
    · exact h.due (.inl (hstarted hs)) q hq
    · rw [mem_singleton.mp hq, hstarted hs]; rfl
  · rcases mem_append.mp hq with hq | hq
    · obtain ⟨g, hg, hsub⟩ := h.queued (.inl (hstarted hs)) q hq hun
      exact ⟨g, mem_append_left _ hg, hsub⟩
    · have hreq : s.ctx.deleteAidingFlag ||| e.requested.getD 0 = s.ctx.deleteAidingFlag ||| f := by
        simp [MainEvent.requested, hk]
      have hsub : FlagsSub f (s.ctx.deleteAidingFlag ||| f) := by
        unfold FlagsSub
        rw [BitVec.or_comm f, BitVec.or_assoc, BitVec.or_self]
      have hne : s.ctx.deleteAidingFlag ||| f ≠ 0 := by
        intro h0
        rw [h0] at hsub
        exact hf (BitVec.or_zero.symm.trans hsub)
      have hev : e.fsm = some .reset := by simp [MainEvent.fsm, hk]
      rw [hreq, hstarted hs, hev] at hstep
      have hsent := hstep.reset_started hne (hi.started (hsame.trans (hstarted hs))).2.1
      rw [mem_singleton.mp hq]
      exact ⟨_, mem_append_right _ (mem_filterMap.mpr ⟨_, hsent, rfl⟩), hsub⟩

/-- An event is a request, the reboot of agpsd, or leaves the requests as they are; START_DONE in STARTING
    only notes that they now have to wait. -/
theorem openMain_cases (e : MainEvent) :
    (∃ f, e.kind = .agpsReset f) ∨ e.kind = .reboot .agps ∨
      (∀ x, pendingFor e x = resetPending x) ∧ (∀ x st', openMain x st' e [] = []) ∧
        ∀ x st' qs, openMain x st' e qs = qs ∨ ((∃ a, e.kind = .startDone a) ∧ x.gpsState = .starting) := by
  cases hk : e.kind with
  | agpsReset f => exact .inl ⟨f, rfl⟩
  | reboot c =>
    by_cases hc : c = .agps
    · exact .inr (.inl (by rw [hc]))
    · exact .inr (.inr ⟨fun x => by simp [pendingFor, hk, hc], fun x st' => by simp [openMain, hk],
        fun x st' qs => .inl (by simp [openMain, hk, hc])⟩)
  | startDone a =>
    refine .inr (.inr ⟨fun x => by simp [pendingFor, hk], fun x st' => by simp [openMain, hk], fun x st' qs => ?_⟩)
    by_cases hst : x.gpsState = .starting
    · exact .inr ⟨⟨a, rfl⟩, hst⟩
    · exact .inl (by simp [openMain, hk, hst])
  | start | stop | halDelete | stopDone | resetDone | nmeaTimeout | other =>
    exact .inr (.inr ⟨fun x => by simp [pendingFor, hk], fun x st' => by simp [openMain, hk],
      fun x st' qs => .inl (by simp [openMain, hk])⟩)

theorem FsmInv.idle_not_pending {x : MnldContext} (h : FsmInv x) (hst : x.gpsState = .idle) :
    resetPending x = false := by
  unfold resetPending; rw [h.idle hst]; rfl

theorem OpenInv.main (h : OpenInv qs s) (hi : FsmInv s.ctx) {e : MainEvent}
    (hi' : FsmInv (s.main e).1.ctx) (he : e ≠ .agpsResetGpsReq 0)
    (hdone : e = .stopDone → s.ctx.gpsState = .stopping) :
    OpenInv (if .mnl2agpsResetGpsDone ∈ (s.main e).2 then []
      else openMain s.ctx (s.main e).1.ctx.gpsState e qs) (s.main e).1 := by
  have hr : HandleResets e s.ctx (handle e ⟨s.ctx, []⟩) := handle_resets he
  have hpend : resetPending (s.main e).1.ctx = (pendingFor e s.ctx && !handleAcks e s.ctx) := hr.pending
  have hstep := handle_engineStep s.ctx e
  split
  · rename_i hack
    obtain ⟨h1, h2⟩ := hr.acked.mp hack
    exact .of_nil (by rw [hpend, h1, h2]; rfl)
  · rename_i hack
    have hno : pendingFor e s.ctx = true → handleAcks e s.ctx = false := fun hp =>
      eq_false_of_ne_true fun ha => hack (hr.acked.mpr ⟨hp, ha⟩)
    have hkeep : resetPending (s.main e).1.ctx = pendingFor e s.ctx := by
      rw [hpend]
      cases hp : pendingFor e s.ctx with
      | false => rfl
      | true => rw [hno hp]; rfl
    rcases openMain_cases e with ⟨f, hk⟩ | hk | ⟨hsame, hnil, hopen⟩
    · have hp : pendingFor e s.ctx = true := by simp [pendingFor, hk]
      have hf : f ≠ 0 := by
        rintro rfl
        cases e <;> simp only [MainEvent.kind, EventKind.agpsReset.injEq, reduceCtorEq] at hk
        exact he (by rw [hk])
      have hst : s.ctx.gpsState = .starting ∨ s.ctx.gpsState = .started := by
        have ha := hno hp
        cases hst : s.ctx.gpsState <;> simp [handleAcks, hk, hst] at ha ⊢
      have hmain : openMain s.ctx (s.main e).1.ctx.gpsState e qs =
          qs ++ [⟨f, s.ctx.gpsState == .started, false⟩] := by simp [openMain, hk]
      exact hmain ▸ h.request hi' hk hf (hkeep.trans hp) hst
    · have hmain : openMain s.ctx (s.main e).1.ctx.gpsState e qs = [] := by simp [openMain, hk]
      exact hmain ▸ OpenInv.of_nil (by rw [hkeep]; simp [pendingFor, hk])
    · rw [hsame] at hkeep hno
      by_cases hq : qs = []
      · subst hq
        have hfalse : resetPending s.ctx = false := eq_false_of_ne_true fun hp => h.pending.mp hp rfl
        rw [hnil]
        exact .of_nil (hkeep.trans hfalse)
      · have hp : resetPending s.ctx = true := h.pending.mpr hq
        have hacks := hno hp
        -- the steps that move the engine elsewhere acknowledge the requests
        have hnot : ¬ ((∃ a, e.kind = .startDone a) ∧ s.ctx.gpsState = .starting) := by
          rintro ⟨⟨a, hk⟩, hst⟩
          simp [handleAcks, hk, hst] at hacks
        rw [(hopen s.ctx _ qs).resolve_right hnot]
        refine h.frame hkeep ?_ fun c hc => mem_append_left _ hc
        rcases hstep.moves with hm | ⟨-, hm⟩ | ⟨-, hst⟩ | ⟨hev, hst⟩ | ⟨hev, hst⟩
        · exact .inl hm
        · exact .inr hm
        · rw [hi.idle_not_pending hst] at hp; cases hp
        · exact absurd ⟨MainEvent.fsm_eq_startDone hev, hst⟩ hnot
        · rw [MainEvent.fsm_eq_stopDone hev] at hacks
          simp [handleAcks, MainEvent.kind, hst] at hacks

@[simp] theorem OpenReset.serve_flags (stopped : Bool) (c : GpsCommand) (q : OpenReset) :
    (q.serve stopped c).flags = q.flags := by cases c <;> rfl

@[simp] theorem OpenReset.serve_due (stopped : Bool) (c : GpsCommand) (q : OpenReset) :
    (q.serve stopped c).due = q.due := by cases c <;> rfl

theorem OpenReset.serve_eq_false {stopped : Bool} {c : GpsCommand} {q : OpenReset}
    (h : (q.serve stopped c).served = false) :
    q.served = false ∧ ∀ g, c = .deleteAidingData g → ¬ FlagsSub q.flags g := by
  cases c with
  | deleteAidingData g =>
    change (q.served || decide (FlagsSub q.flags g)) = false at h
    rw [Bool.or_eq_false_iff, decide_eq_false_iff_not] at h
    exact ⟨h.1, fun g' hg => by cases hg; exact h.2⟩
  | stop =>
    change (q.served || stopped) = false at h
    rw [Bool.or_eq_false_iff] at h
    exact ⟨h.1, fun g hg => by cases hg⟩
  | start | nmeaDataTimeout => exact ⟨h, fun g hg => by cases hg⟩

theorem OpenInv.control (h : OpenInv qs s) (hs : StopInv s)
    (hQ : QueueInv s) {c : GpsCommand} {rest : List GpsCommand} (hq : s.toGps = c :: rest) (stopped : Bool) :
    OpenInv (qs.map (OpenReset.serve stopped c))
      { s with toGps := rest, toMain := s.toMain ++ gpsControlEventHdlr stopped c } := by
  refine ⟨by simpa using h.pending, fun hst => ?_, fun hst => ?_, fun hst q hmem hun => ?_⟩
  · -- in STARTING the queue holds neither a deletion nor a STOP
    have hnodel := (deletesUnanswered_eq_zero.mp (hQ.resting (.inr hst))).1 c (by simp [hq])
    have hnostop := (StopInv.no_stop (hs.waiting (by rw [show s.ctx.gpsState = _ from hst]; simp))).1
    have hid : ∀ q : OpenReset, q.serve stopped c = q := by
      intro q
      cases c with
      | deleteAidingData => cases hnodel
      | stop => exact absurd (by simp [hq]) hnostop
      | start | nmeaDataTimeout => rfl
    intro q hmem
    obtain ⟨q', hmem', rfl⟩ := mem_map.mp hmem
    rw [hid]
    exact h.starting hst q' hmem'
  · intro q hmem
    obtain ⟨q', hmem', rfl⟩ := mem_map.mp hmem
    simpa using h.due hst q' hmem'
  · obtain ⟨q', hmem', rfl⟩ := mem_map.mp hmem
    obtain ⟨hun', hother⟩ := OpenReset.serve_eq_false hun
    obtain ⟨g, hg, hsub⟩ := h.queued hst q' hmem' hun'
    rw [hq] at hg
    rcases mem_cons.mp hg with hc | hg
    · exact absurd hsub (hother g hc.symm)
    · exact ⟨g, hg, by simpa using hsub⟩

/-! ## Runs -/

theorem openDuring_main {m : MainEvent} (hm : mainEvent s e = some m) :
    openDuring qs (sysMachine.entry s e) = openMain s.ctx (sysMachine.next s e).ctx.gpsState m qs := by
  cases e with
  | request | deliver => simp [openDuring, hm]
  | control | startDone | nmeaTimeout | nmeaDataTimeout => simp [mainEvent] at hm

def NonzeroResets (tr : List SysEntry) : Prop := ∀ y ∈ tr, y.event ≠ .request (.agpsResetGpsReq 0)

theorem mainEvent_nonzero {m : MainEvent} (h : e ≠ .request (.agpsResetGpsReq 0)) (hm : mainEvent s e = some m) :
    m ≠ .agpsResetGpsReq 0 := by
  rintro rfl
  cases e with
  | request e => exact h (by rw [Option.some.inj hm])
  | deliver =>
    obtain ⟨g, -, hg⟩ := Option.map_eq_some_iff.mp hm
    cases g <;> cases hg
  | control | startDone | nmeaTimeout | nmeaDataTimeout => cases hm

/-- **Step lemma.** -/
theorem OpenInv.step (h : OpenInv qs s) (hs : StopInv s) (hQ : QueueInv s)
    (hi : FsmInv s.ctx) (hen : sysMachine.enabled s e)
    (hi' : FsmInv (sysMachine.next s e).ctx) (hne : e ≠ .request (.agpsResetGpsReq 0)) :
    OpenInv (openAfter qs (sysMachine.entry s e)) (sysMachine.next s e) := by
  unfold openAfter
  rw [Transducer.entry_out]
  cases hm : mainEvent s e with
  | some m =>
    obtain ⟨s₀, hctx, hgps, -, hnext, hout⟩ := sys_main_cases hen hm
    have h₀ : OpenInv qs s₀ := h.frame (by rw [hctx]) (.inl (by rw [hctx])) fun c hc => hgps ▸ hc
    rw [openDuring_main hm, hnext, hout, ← hctx]
    rw [hnext] at hi'
    exact h₀.main (hctx ▸ hi) hi' (mainEvent_nonzero hne hm) fun heq => by
      rw [hctx]; exact (hs.step hen).2 (heq ▸ hm)
  | none =>
    rw [(sys_step_silent hm).2]
    have hstep := sys_step_cases hen
    generalize hnext : sysMachine.next s e = s' at hstep
    cases hstep with
    | request => cases hm
    | deliver hq => simp [mainEvent, hq] at hm
    | @control stopped c rest hq =>
      have hopen : openDuring qs (sysMachine.entry s (.control stopped)) = qs.map (OpenReset.serve stopped c) := by
        simp only [openDuring, Transducer.entry_pre, hq]
        rfl
      rw [hopen]
      exact h.control hs hQ hq stopped
    | @post e m hpost =>
      have hopen : openDuring qs (sysMachine.entry s e) = qs := by
        cases e <;> first | rfl | cases hpost
      rw [hopen]
      exact h.frame rfl (.inl rfl) fun c hc => hc
    | monitor => exact h.frame rfl (.inl rfl) fun c hc => mem_append_left _ hc

/-- What the results below know of a state of the system after a history. -/
structure ResetInv (tr : List SysEntry) (s : System) : Prop where
  stop : StopInv s
  queue : QueueInv s
  fsm : FsmInv s.ctx
  opens : OpenInv (openResets tr) s

/-- **Run lemma.** -/
theorem resetInv_run (h : sysMachine.Run tr s) (hnz : NonzeroResets tr) : ResetInv tr s := by
  induction h with
  | nil =>
    exact ⟨(sys_refines_main .nil).1, queueInv_run .nil, fsmInv_zero, .of_nil rfl⟩
  | @snoc tr s e hrun hen ih =>
    have hi := ih fun y hy => hnz y (mem_append_left _ hy)
    have hrun' := hrun.snoc hen
    have hfsm := fsmInv_run (sys_refines_main hrun').2.1
    have hne : e ≠ .request (.agpsResetGpsReq 0) := hnz (sysMachine.entry s e) (by simp)
    refine ⟨(sys_refines_main hrun').1, queueInv_run hrun', hfsm, ?_⟩
    rw [openResets_snoc]
    exact hi.opens.step hi.stop hi.queue hi.fsm hen hfsm hne

/-! ## Which steps acknowledge or disarm too early -/

/-- If the step acknowledges, every open request that has to wait has been served. -/
def AckSound (qs : List OpenReset) (y : SysEntry) : Prop :=
  .mnl2agpsResetGpsDone ∈ y.out → ∀ q ∈ openDuring qs y, q.due = true → q.served = true

/-- Every acknowledgement of a history came after the deletion it stands for. -/
def AcksSound (tr : List SysEntry) : Prop := ∀ l y r, tr = l ++ y :: r → AckSound (openResets l) y

/-- `timer_reset` is armed while a DELETE_AIDING_DATA has no RESET_DONE processed. -/
def TimerGuards (s : System) : Prop := 0 < deletesUnanswered s → s.ctx.timerReset = true

/-- An event on whose path `do_gps_reset_hdlr` runs although nothing was deleted by it: in STARTED a client's
    start, or a stop or reboot that leaves another user; in STOPPING a further reset. -/
def earlyAck (m : MainEvent) (x : MnldContext) : Bool :=
  match m.kind with
  | .start _ => x.gpsState == .started
  | .stop c => x.gpsState == .started && otherUser x c
  | .reboot c => c != .agps && (x.gpsState == .started && otherUser x c)
  | .halDelete _ | .agpsReset _ => x.gpsState == .stopping
  | _ => false

/-- **The hasty steps.** -/
inductive Hasty (qs : List OpenReset) (s : System) (e : SysEvent) : Prop
  /-- A RESET_DONE is taken for the answer to every deletion, while another one is unanswered. -/
  | resetDone : mainEvent s e = some .resetDone → 1 < deletesUnanswered s → Hasty qs s e
  /-- START_DONE acknowledges the pending resets first and sends the deletion afterwards. -/
  | startDone {a} : mainEvent s e = some (.startDone a) → s.ctx.gpsState = .starting →
      resetPending s.ctx = true → (∃ c, (s.ctx.clients c).gpsUsed = true) → Hasty qs s e
  /-- Another client's event acknowledges a reset that gps_control has not served. -/
  | early {m} : mainEvent s e = some m → earlyAck m s.ctx = true → (∃ q ∈ qs, q.served = false) → Hasty qs s e

/-! ### `timer_reset` -/

variable {m : MainEvent}

theorem mem_commands_delete {os : List Output} {g : BitVec 32}
    (h : .deleteAidingData g ∈ commands os) : .gpsControlGpsReset g ∈ os := by
  obtain ⟨m, hm, hcmd⟩ := mem_filterMap.mp h
  obtain ⟨o, ho, hmsg⟩ := mem_filterMap.mp hm
  have hm' : m = .deleteAidingData g := by
    cases m <;> simp only [EngineMsg.command, Option.some.injEq, GpsCommand.deleteAidingData.injEq,
      reduceCtorEq] at hcmd
    rw [hcmd]
  subst hm'
  cases o <;> first | cases hmsg; exact ho | cases hmsg

theorem TimerGuards.main (h : TimerGuards s) (hnz : m ≠ .agpsResetGpsReq 0)
    (hm : m.kind ≠ .resetDone) : TimerGuards (s.main m).1 := by
  have hr : HandleResets m s.ctx (handle m ⟨s.ctx, []⟩) := handle_resets hnz
  intro hpos
  by_cases h0 : 0 < deletesUnanswered s
  · exact hr.armed hm (h h0)
  · have hcount : 0 < (commands (handle m ⟨s.ctx, []⟩).sent).countP GpsCommand.isDelete := by
      simp only [deletesUnanswered, System.main, countP_append] at hpos h0
      omega
    obtain ⟨c, hc, hdel⟩ := countP_pos_iff.mp hcount
    cases c with
    | deleteAidingData g => exact hr.arms g (mem_commands_delete hc)
    | start | stop | nmeaDataTimeout => cases hdel

theorem main_resetDone (s : System) :
    deletesUnanswered (s.main .resetDone).1 = deletesUnanswered s ∧ (s.main .resetDone).1.ctx.timerReset = false := by
  have hr : HandleResets .resetDone s.ctx (handle .resetDone ⟨s.ctx, []⟩) := handle_resets (by simp)
  have hnil : commands (handle .resetDone ⟨s.ctx, []⟩).sent = [] := by
    simp [commands, handle, mainEventResetDone]
  exact ⟨by simp [deletesUnanswered, System.main, hnil], hr.disarms rfl⟩

theorem TimerGuards.silent (h : TimerGuards s) (hen : sysMachine.enabled s e)
    (hm : mainEvent s e = none) : TimerGuards (sysMachine.next s e) := by
  have hsame : deletesUnanswered (sysMachine.next s e) = deletesUnanswered s := by
    have hstep := sys_step_cases hen
    generalize sysMachine.next s e = s' at hstep
    cases hstep with
    | request => cases hm
    | deliver hq => simp [mainEvent, hq] at hm
    | control hq => exact control_deletesUnanswered hq _
    | @post e m hpost =>
      simp [deletesUnanswered, count_cons_of_ne (SysEvent.posts_ne hpost).2]
    | monitor => simp [deletesUnanswered, GpsCommand.isDelete]
  intro hpos
  rw [(sys_step_silent hm).1]
  exact h (hsame ▸ hpos)

/-! ### The acknowledgement -/

variable {x : MnldContext}

theorem startDone_started_iff (hst : x.gpsState = .starting) (a : Int) :
    (handle (.startDone a) ⟨x, []⟩).ctx.gpsState = .started ↔ ∃ c, (x.clients c).gpsUsed = true := by
  have hexit : isAllGpsClientExit
      (doGpsStartedHdlr a (Turn.write (fun x => { x with timerStart := false }) ⟨x, []⟩)).ctx =
      isAllGpsClientExit x := by
    rw [doGpsStartedHdlr_ctx]; rfl
  simp only [handle, mnldFsm, hst, fsmGpsStateStarting, hexit]
  cases hall : isAllGpsClientExit x with
  | true =>
    have hno := isAllGpsClientExit_iff.mp hall
    simp [hno]
  | false => simpa using isAllGpsClientExit_eq_false_iff.mp hall

theorem sys_acked_iff (hen : sysMachine.enabled s e)
    (hne : e ≠ .request (.agpsResetGpsReq 0)) (hm : mainEvent s e = some m) :
    .mnl2agpsResetGpsDone ∈ sysMachine.out s e ↔ pendingFor m s.ctx = true ∧ handleAcks m s.ctx = true := by
  obtain ⟨s₀, hctx, -, -, -, hout⟩ := sys_main_cases hen hm
  rw [hout, ← hctx]
  exact (handle_resets (mainEvent_nonzero hne hm)).acked

theorem OpenInv.all_served (h : OpenInv qs s) (hno : NoDelete s.toGps)
    (hst : s.ctx.gpsState = .started ∨ s.ctx.gpsState = .stopping) : ∀ q ∈ qs, q.served = true := by
  intro q hq
  by_contra hun
  obtain ⟨g, hg, -⟩ := h.queued hst q hq (by simpa using hun)
  exact Bool.noConfusion (hno _ hg)

theorem sys_main_resetDone (hen : sysMachine.enabled s e)
    (hm : mainEvent s e = some .resetDone) :
    ∃ s₀ : System, deletesUnanswered s = deletesUnanswered s₀ + 1 ∧ s₀.toGps = s.toGps ∧
      sysMachine.next s e = (s₀.main .resetDone).1 := by
  obtain ⟨g, hg, s₀, hq, -, hgps, hnext⟩ := sys_main_message hen hm rfl
  have hg' : g = .resetDone := by cases g <;> cases hg; rfl
  refine ⟨s₀, ?_, hgps, hnext⟩
  rw [deletesUnanswered, deletesUnanswered, hq, hg', hgps, count_cons_self, Nat.add_assoc]

theorem acks_cases (hpend : pendingFor m x = true) (hacks : handleAcks m x = true) :
    x.gpsState = .idle ∨ earlyAck m x = true ∨ x.gpsState = .starting ∨ m.kind = .stopDone ∧ x.gpsState = .stopping ∨
      m.kind = .resetDone := by
  unfold handleAcks at hacks
  unfold pendingFor at hpend
  unfold earlyAck
  cases hk : m.kind <;> simp [hk] at hacks hpend ⊢ <;> tauto

theorem mem_openMain {st' : GpsState} {q : OpenReset} (hq : q ∈ openMain x st' m qs)
    (hdue : q.due = true) : q ∈ qs ∨ (∃ f, m.kind = .agpsReset f) ∧ x.gpsState = .started ∨
      (∃ a, m.kind = .startDone a) ∧ x.gpsState = .starting ∧ st' = .started := by
  unfold openMain at hq
  cases hk : m.kind with
  | agpsReset f =>
    simp only [hk, mem_append, mem_singleton] at hq
    rcases hq with hq | rfl
    · exact .inl hq
    · exact .inr (.inl ⟨⟨f, rfl⟩, by simpa using hdue⟩)
  | reboot c =>
    simp only [hk] at hq
    split_ifs at hq
    · simp at hq
    · exact .inl hq
  | startDone a =>
    simp only [hk] at hq
    split_ifs at hq with hst
    · exact .inr (.inr ⟨⟨a, rfl⟩, hst⟩)
    · exact .inl hq
  | start | stop | halDelete | stopDone | resetDone | nmeaTimeout | other => exact .inl (by simpa [hk] using hq)

theorem ackSound_of_not_hasty (hi : ResetInv tr s) (hen : sysMachine.enabled s e)
    (hne : e ≠ .request (.agpsResetGpsReq 0)) (hh : ¬ Hasty (openResets tr) s e) :
    AckSound (openResets tr) (sysMachine.entry s e) := by
  intro hack q hq hdue
  cases hm : mainEvent s e with
  | none => rw [Transducer.entry_out, (sys_step_silent hm).2] at hack; simp at hack
  | some m =>
    obtain ⟨hpend, hacks⟩ := (sys_acked_iff hen hne hm).mp hack
    rw [openDuring_main hm] at hq
    rcases mem_openMain hq hdue with hq | ⟨⟨f, hk⟩, hst⟩ | ⟨⟨a, hk⟩, hst, hst'⟩
    · by_contra hun
      rcases acks_cases hpend hacks with hst | hE | hst | ⟨hk, hst⟩ | hk
      · have hp := hi.opens.pending.mpr (ne_nil_of_mem hq)
        rw [hi.fsm.idle_not_pending hst] at hp
        cases hp
      · exact hh (.early hm hE ⟨q, hq, by simpa using hun⟩)
      · rw [(hi.opens.starting hst q hq).1] at hdue
        cases hdue
      · obtain ⟨g, hg, s₀, hq₀, -⟩ := sys_main_message hen hm (by simp [MainEvent.fromClient, hk])
        have hg' := Gps2Main.event_eq_stopDone (hg.symm.trans (MainEvent.eq_of_kind_stopDone hk))
        obtain ⟨-, hno⟩ := hi.queue.doneLast [] _ (hg' ▸ hq₀)
        exact hun (hi.opens.all_served hno (.inr hst) q hq)
      · have hmeq := MainEvent.eq_of_kind_resetDone hk
        obtain ⟨s₀, hcount, hgps, -⟩ := sys_main_resetDone hen (hmeq ▸ hm)
        have hle : deletesUnanswered s ≤ 1 := not_lt.mp fun h => hh (.resetDone (hmeq ▸ hm) h)
        have hno : NoDelete s.toGps := hgps ▸ (deletesUnanswered_eq_zero.mp (by omega)).1
        refine hun (hi.opens.all_served hno ?_ q hq)
        cases hst : s.ctx.gpsState with
        | idle => rw [hi.queue.resting (.inl hst)] at hcount; omega
        | starting => rw [hi.queue.resting (.inr hst)] at hcount; omega
        | started => exact .inl rfl
        | stopping => exact .inr rfl
    · simp [handleAcks, hk, hst] at hacks
    · have hmeq := MainEvent.eq_of_kind_startDone hk
      rw [(sys_step_main hm).1, hmeq] at hst'
      refine absurd (.startDone (hmeq ▸ hm) hst ?_ ((startDone_started_iff hst a).mp hst')) hh
      simpa [pendingFor, hk] using hpend

theorem earlyAck_acks (h : earlyAck m x = true) (hp : resetPending x = true)
    (st' : GpsState) {q : OpenReset} (hq : q ∈ qs) :
    pendingFor m x = true ∧ handleAcks m x = true ∧ (x.gpsState = .started ∨ x.gpsState = .stopping) ∧
      q ∈ openMain x st' m qs := by
  unfold earlyAck at h
  unfold pendingFor handleAcks openMain
  cases hk : m.kind with
  | start | stop | reboot | halDelete | agpsReset =>
    simp only [hk, Bool.and_eq_true, beq_iff_eq, bne_iff_ne] at h
    simp [h, hp, hq]
  | startDone | stopDone | resetDone | nmeaTimeout | other => simp [hk] at h

theorem Hasty.unsound (hi : ResetInv tr s)
    (hen : sysMachine.enabled s e) (hne : e ≠ .request (.agpsResetGpsReq 0))
    (hh : Hasty (openResets tr) s e) :
    ¬ (AckSound (openResets tr) (sysMachine.entry s e) ∧ TimerGuards (sysMachine.next s e)) := by
  rintro ⟨hack, htimer⟩
  cases hh with
  | resetDone hm hlt =>
    obtain ⟨s₀, hun, -, hnext⟩ := sys_main_resetDone hen hm
    obtain ⟨hsame, hoff⟩ := main_resetDone s₀
    have hon := htimer (by rw [hnext]; omega)
    rw [hnext, hoff] at hon
    cases hon
  | @startDone a hm hst hp hu =>
    obtain ⟨q, hq⟩ := exists_mem_of_ne_nil _ (hi.opens.pending.mp hp)
    have hsent := (sys_acked_iff hen hne hm).mpr ⟨hp, by simp [handleAcks, MainEvent.kind, hst]⟩
    have hst' : (sysMachine.next s e).ctx.gpsState = .started := by
      rw [(sys_step_main hm).1]; exact (startDone_started_iff hst a).mpr hu
    have hopen : openDuring (openResets tr) (sysMachine.entry s e) =
        (openResets tr).map fun q => { q with due := true } := by
      rw [openDuring_main hm]; simp [openMain, MainEvent.kind, hst, hst']
    have hserved := hack hsent { q with due := true } (hopen ▸ mem_map_of_mem hq) rfl
    rw [(hi.opens.starting hst q hq).2] at hserved
    cases hserved
  | @early m hm hE hq =>
    obtain ⟨q, hq, hun⟩ := hq
    have hp : resetPending s.ctx = true := hi.opens.pending.mpr (ne_nil_of_mem hq)
    obtain ⟨hpend, hacks, hst, hopen⟩ := earlyAck_acks hE hp (sysMachine.next s e).ctx.gpsState hq
    have hserved := hack ((sys_acked_iff hen hne hm).mpr ⟨hpend, hacks⟩) q
      (by rw [openDuring_main hm]; exact hopen) (hi.opens.due hst q hq)
    rw [hun] at hserved
    cases hserved

/-- **Step lemma**: a step keeps both properties exactly when it is not hasty. -/
theorem step_sound_iff (hi : ResetInv tr s) (ht : TimerGuards s)
    (hen : sysMachine.enabled s e) (hne : e ≠ .request (.agpsResetGpsReq 0)) :
    AckSound (openResets tr) (sysMachine.entry s e) ∧ TimerGuards (sysMachine.next s e) ↔
      ¬ Hasty (openResets tr) s e := by
  refine ⟨fun h hh => hh.unsound hi hen hne h, fun hh => ⟨ackSound_of_not_hasty hi hen hne hh, ?_⟩⟩
  cases hm : mainEvent s e with
  | none => exact ht.silent hen hm
  | some m =>
    by_cases hk : m.kind = .resetDone
    · have hm' : mainEvent s e = some .resetDone := MainEvent.eq_of_kind_resetDone hk ▸ hm
      obtain ⟨s₀, hun, -, hnext⟩ := sys_main_resetDone hen hm'
      have hle : deletesUnanswered s ≤ 1 := not_lt.mp fun h => hh (.resetDone hm' h)
      intro hpos
      rw [hnext, (main_resetDone s₀).1] at hpos
      omega
    · obtain ⟨s₀, hctx, hgps, hmsg, hnext, -⟩ := sys_main_cases hen hm
      have hle : deletesUnanswered s₀ ≤ deletesUnanswered s := by
        unfold deletesUnanswered
        rcases hmsg with ⟨hq, -⟩ | ⟨g, -, hq⟩
        · rw [hgps, hq]
        · rw [hgps, hq]
          exact Nat.add_le_add_left count_le_count_cons _
      have ht₀ : TimerGuards s₀ := fun hpos => hctx ▸ ht (hpos.trans_le hle)
      exact hnext ▸ ht₀.main (mainEvent_nonzero hne hm) hk

theorem acksSound_snoc {y : SysEntry} : AcksSound (tr ++ [y]) ↔ AcksSound tr ∧ AckSound (openResets tr) y := by
  constructor
  · intro h
    exact ⟨fun l z r heq => h l z (r ++ [y]) (by rw [heq]; simp), h tr y [] rfl⟩
  · rintro ⟨h, hy⟩ l z r heq
    rcases snoc_eq_append_cons.mp heq with ⟨-, rfl, rfl⟩ | ⟨r', -, hl⟩
    · exact hy
    · exact h l z r' hl

/-- **When the reset acknowledgements are sound.** Take a run in which agpsd's resets are not empty. After
    every event of it, each acknowledgement so far came only after gps_control had processed a deletion with
    the flags of every request that had to wait, or had stopped the engine, and `timer_reset` is armed while
    a deletion is unanswered: if and only if no step of the run is hasty. -/
theorem resetAcks_sound_iff_not_hasty {tr : List SysEntry} {s : System} (h : sysMachine.Run tr s)
    (hnz : NonzeroResets tr) :
    (∀ tr' s', sysMachine.Run tr' s' → tr' <+: tr → AcksSound tr' ∧ TimerGuards s') ↔
      ∀ l y r, tr = l ++ y :: r → ¬ Hasty (openResets l) y.pre y.event := by
  have hiff := h.forall_prefix_iff_history
    (P := fun tr s => NonzeroResets tr → AcksSound tr ∧ TimerGuards s)
    (C := fun tr s e => NonzeroResets tr → e ≠ .request (.agpsResetGpsReq 0) → ¬ Hasty (openResets tr) s e)
    (fun _ => ⟨fun l y r heq => absurd heq (by simp), fun hpos => absurd hpos (by decide)⟩) (by
      intro tr s e hrun hen hP
      have hsnoc : NonzeroResets (tr ++ [sysMachine.entry s e]) ↔
          NonzeroResets tr ∧ e ≠ .request (.agpsResetGpsReq 0) := by
        simp only [NonzeroResets, forall_mem_append, forall_mem_singleton, Transducer.entry_event]
      rw [hsnoc, and_imp]
      refine forall₂_congr fun htr hne => ?_
      obtain ⟨hacks, ht⟩ := hP htr
      rw [acksSound_snoc, ← step_sound_iff (resetInv_run hrun htr) ht hen hne]
      exact ⟨fun h => ⟨h.1.2, h.2⟩, fun h => ⟨⟨hacks, h.1⟩, h.2⟩⟩)
  constructor
  · intro hall l y r heq
    have hl : NonzeroResets l := fun z hz => hnz z (heq ▸ mem_append_left _ hz)
    have hy : y.event ≠ .request (.agpsResetGpsReq 0) := hnz y (heq ▸ by simp)
    exact hiff.mp (fun tr' s' hr hp _ => hall tr' s' hr hp) l y r heq hl hy
  · intro hall tr' s' hr hp
    exact hiff.mpr (fun l y r heq _ _ => hall l y r heq) tr' s' hr hp
      fun z hz => hnz z (hp.subset hz)

/-- agpsd resets the ephemeris while the HAL's session is starting. -/
def resetWhileStarting : List SysEvent :=
  [.request (.halGpsStart ⟨false, false⟩), .request (.agpsResetGpsReq 0x1), .control true, .startDone 0, .deliver]

/-- START_DONE tells agpsd that the reset is done before the command is even sent. -/
theorem resetWhileStarting_unsound :
    ∃ tr s, sysMachine.Run tr s ∧ NonzeroResets tr ∧ tr.map (·.event) = resetWhileStarting ∧
      s.ctx.gpsState = .started ∧ .deleteAidingData 0x1 ∈ s.toGps ∧ ¬ AcksSound tr := by
  refine ⟨(sysMachine.exec resetWhileStarting).1, (sysMachine.exec resetWhileStarting).2,
    sysMachine.run_exec ?_, ?_, rfl, rfl, by decide, fun hacks => ?_⟩
  · exact ⟨rfl, rfl, cons_ne_nil _ _, trivial, cons_ne_nil _ _, trivial⟩
  · unfold NonzeroResets; decide
  · have hserved := hacks ((sysMachine.exec resetWhileStarting).1.take 4) _ [] rfl (by decide)
      ⟨0x1, true, false⟩ (by decide) rfl
    cases hserved

/-- The same reset after START_DONE is acknowledged by its RESET_DONE. -/
theorem resetAcks_sound_after_started :
    let es : List SysEvent := [.request (.halGpsStart ⟨false, false⟩), .control true, .startDone 0, .deliver,
      .request (.agpsResetGpsReq 0x1), .control true, .deliver]
    AcksSound (sysMachine.exec es).1 ∧ .mnl2agpsResetGpsDone ∈ Transducer.outs (sysMachine.exec es).1 := by
  intro es
  have hrun : sysMachine.Run (sysMachine.exec es).1 (sysMachine.exec es).2 :=
    sysMachine.run_exec ⟨rfl, cons_ne_nil _ _, trivial, cons_ne_nil _ _, rfl,
      cons_ne_nil _ _, cons_ne_nil _ _, trivial⟩
  refine ⟨((resetAcks_sound_iff_not_hasty hrun ?_).mpr ?_ _ _ hrun (prefix_refl _)).1, by decide⟩
  · unfold NonzeroResets; decide
  · intro l y r heq hh
    have hsteps : ∀ y ∈ (sysMachine.exec es).1, deletesUnanswered y.pre ≤ 1 ∧
        (y.pre.ctx.gpsState = .starting → resetPending y.pre.ctx = false) ∧
        (mainEvent y.pre y.event).map (earlyAck · y.pre.ctx) ≠ some true := by decide
    obtain ⟨hle, hpend, hearly⟩ := hsteps y (heq ▸ by simp)
    cases hh with
    | resetDone _ hlt => omega
    | startDone _ hst hp => rw [hpend hst] at hp; cases hp
    | early hm hE => exact hearly (by rw [hm]; exact congrArg some hE)

end HuaweiY5.Mnld
