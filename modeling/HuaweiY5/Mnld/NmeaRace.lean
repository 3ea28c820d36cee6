import HuaweiY5.Mnld.Protocol
import HuaweiY5.Mnld.Threads

/-!
# `Mnld.NmeaRace` — the AT-test auto-stop against a client request

The FSM has no lock. This module decides for which requests the auto-stop of the NMEA thread can still be
regarded as atomic: every interleaving ends with the FSM state and the gps_control commands of one of the two
serial orders **iff** the engine is not STARTED, or another client holds it, or the request starts a client
other than the AT test (`autoStop_atomic_iff`).
-/

namespace HuaweiY5.Mnld

open List Interleave

namespace Threads

open ClientRequest (atTestGpsStop fsmEvent prog prog_exec writes)

/-- What the two serial orders are compared by: the FSM state and the commands sent to gps_control. -/
def outcome (t : Turn) : GpsState × List GpsCommand := (t.ctx.gpsState, commands t.sent)

/-- The auto-stop of `nmea_parser_at_cmd_pre`: `at_test2mnl_gps_stop` on the NMEA thread. -/
def autoStop : Prog Turn := atTestGpsStop.prog

/-! ## What single accesses change -/

structure Still (a b : Turn) : Prop where
  outcome : outcome b = outcome a
  flag : b.ctx.deleteAidingFlag = a.ctx.deleteAidingFlag

/-- The engine and its users are left alone. -/
structure Quiet (a b : Turn) : Prop extends Still a b where
  users : ∀ c, used c b = used c a

/-- The engine is left alone; the request's own client may start or stop using it. -/
structure Requested (r : ClientRequest) (a b : Turn) : Prop extends Still a b where
  users : ∀ c, used c b = used c a ∨ c = r.client ∧ used c b = r.isStart

variable {a b c' : Turn} {r : ClientRequest}

theorem Still.refl (a : Turn) : Still a a := ⟨rfl, rfl⟩

theorem Still.trans (h : Still a b) (h' : Still b c') : Still a c' :=
  ⟨h'.outcome.trans h.outcome, h'.flag.trans h.flag⟩

theorem Still.gpsState (h : Still a b) : b.ctx.gpsState = a.ctx.gpsState := congrArg Prod.fst h.outcome

theorem Quiet.refl (a : Turn) : Quiet a a := ⟨.refl a, fun _ => rfl⟩

theorem Quiet.trans (h : Quiet a b) (h' : Quiet b c') : Quiet a c' :=
  ⟨h.toStill.trans h'.toStill, fun c => (h'.users c).trans (h.users c)⟩

theorem Quiet.requested (h : Quiet a b) : Requested r a b := ⟨h.toStill, fun c => .inl (h.users c)⟩

theorem Requested.refl (a : Turn) : Requested r a a := (Quiet.refl a).requested

theorem Requested.trans (h : Requested r a b) (h' : Requested r b c') : Requested r a c' := by
  refine ⟨h.toStill.trans h'.toStill, fun c => ?_⟩
  rcases h'.users c with hc | hc
  · rw [hc]; exact h.users c
  · exact .inr hc

@[simp] theorem commands_append (os os' : List Output) : commands (os ++ os') = commands os ++ commands os' := by
  simp [commands]

/-- The program never writes anything but acknowledgement flags and timers. -/
abbrev Harmless (p : Prog Turn) : Prop := Keeps (fun _ => True) Quiet p

theorem harmless_post {o : Output} (ho : commands [o] = []) : Harmless (post o) := by
  refine .act fun t _ => ⟨trivial, ⟨?_, rfl⟩, fun _ => rfl⟩
  simp [outcome, ho]

theorem harmless_set {f : MnldContext → MnldContext} (hs : ∀ x, (f x).gpsState = x.gpsState)
    (hfl : ∀ x, (f x).deleteAidingFlag = x.deleteAidingFlag) (hcl : ∀ x, (f x).clients = x.clients) :
    Harmless (set f) := by
  refine .act fun t _ => ⟨trivial, ⟨?_, hfl t.ctx⟩, fun c => ?_⟩
  · simp [outcome, hs]
  · simp [used, hcl]

variable (c : GpsClient)

theorem still_writeClient (f : ClientFlags → ClientFlags) (t : Turn) : Still t (t.writeClient c f) := ⟨rfl, rfl⟩

theorem used_writeClient (c d : GpsClient) (f : ClientFlags → ClientFlags) (t : Turn) :
    used d (t.writeClient c f) = if d = c then (f (t.ctx.clients c)).gpsUsed else used d t := by
  simp only [used, Turn.writeClient_ctx, Function.update_apply]
  split <;> rfl

theorem harmless_setClient {f : ClientFlags → ClientFlags}
    (hf : ∀ fl, (f fl).gpsUsed = fl.gpsUsed) : Harmless (setClient c f) := by
  refine .act fun t _ => ⟨trivial, still_writeClient c f t, fun d => ?_⟩
  rw [used_writeClient]
  split
  · rename_i hd; rw [hf, hd]; rfl
  · rfl

theorem harmless_doGpsResetHdlr : Harmless doGpsResetHdlr :=
  .test (.seq (forall_mem_cons.mpr ⟨harmless_setClient _ fun _ => rfl,
    forall_mem_singleton.mpr (harmless_post rfl)⟩)) trivial

theorem harmless_ack {b : Turn → Bool} {f : ClientFlags → ClientFlags}
    (hf : ∀ fl, (f fl).gpsUsed = fl.gpsUsed) {os : List Output} (hos : ∀ o ∈ os, o.engine = none) :
    Harmless (.test b (.seq (setClient c f :: os.map post)) .ret) := by
  refine .test (.seq (forall_mem_cons.mpr ⟨harmless_setClient c hf, fun p hp => ?_⟩)) trivial
  obtain ⟨o, ho, rfl⟩ := mem_map.mp hp
  exact harmless_post (by simp [commands, engineMsgs, hos o ho])

theorem harmless_ackOpen (si : Int) (c : GpsClient) : Harmless (ackOpen si c) := by
  apply harmless_ack c
  · intro fl; rfl
  · intro o ho; exact engine_openAckMsgs ho

theorem harmless_ackClose : Harmless (ackClose c) := by
  apply harmless_ack c
  · intro fl; rfl
  · intro o ho; exact engine_closeAckMsgs ho

theorem harmless_doGpsStoppedHdlr : Harmless doGpsStoppedHdlr := by
  refine .seq ?_
  simp only [forall_mem_cons, not_mem_nil, false_implies, implies_true, and_true]
  exact ⟨harmless_ackClose _, harmless_ackClose _, harmless_ackClose _, harmless_ackClose _,
    harmless_ackClose _, harmless_ackClose _, harmless_doGpsResetHdlr⟩

theorem keeps_doGpsStartedHdlr (si : Int) :
    Keeps (fun t => t.ctx.deleteAidingFlag = 0) Quiet (doGpsStartedHdlr si) := by
  have hquiet : ∀ {p}, Harmless p → Keeps (fun t => t.ctx.deleteAidingFlag = 0) Quiet p := fun hp =>
    hp.mono (fun _ _ => trivial) fun _ _ h0 _ hq => ⟨hq.flag.trans h0, hq⟩
  have haiding : Keeps (fun t => t.ctx.deleteAidingFlag = 0) Quiet sendAidingFlag := by
    intro t h0
    simp only [h0]
    trivial
  refine .seq ?_
  simp only [forall_mem_cons, not_mem_nil, false_implies, implies_true, and_true]
  exact ⟨hquiet (harmless_ackOpen _ _), hquiet (harmless_ackOpen _ _), hquiet (harmless_ackOpen _ _),
    hquiet (harmless_ackOpen _ _), hquiet (harmless_ackOpen _ _), hquiet (harmless_ackOpen _ _),
    hquiet harmless_doGpsResetHdlr, haiding⟩

theorem harmless_armTimerStart : Harmless armTimerStart := by
  have hcollect : ∀ (cs : List (GpsClient × BitVec 32)) (k : BitVec 32 → Prog Turn),
      (∀ u, Harmless (k u)) → ∀ u, Harmless (collectUsers cs u k) := by
    intro cs k hk
    induction cs with
    | nil => exact hk
    | cons cb cs ih => exact fun u t _ => ih _
  refine hcollect _ _ (fun u => ?_) _
  have harm : Harmless (set fun x => { x with timerStart := true }) :=
    harmless_set (fun _ => rfl) (fun _ => rfl) fun _ => rfl
  split
  · exact .test trivial harm
  · exact harm

/-! ## Keepers: threads that leave the engine alone -/

section Keepers

variable {I : Turn → Prop} {G R : Turn → Turn → Prop} {Q M : Turn → Prop} {p q : Prog Turn}

theorem Keeps.ifAllExit {u : GpsClient} (hI : ∀ t, I t → used u t = true) (hq : Keeps I G q) :
    ∀ {cs : List GpsClient}, u ∈ cs → Keeps I G (ifAllExit cs p q) := by
  intro cs
  induction cs with
  | nil => exact fun hu => absurd hu not_mem_nil
  | cons c cs ih =>
    intro hu t ht
    dsimp only
    split
    · exact hq
    · rename_i hc
      have hne : u ≠ c := fun he => hc (he ▸ hI t ht)
      exact ih ((mem_cons.mp hu).resolve_left hne)

theorem requested_writes (c : GpsClient) (used' : Bool) (hc : c = r.client) (hu : used' = r.isStart)
    {f : ClientFlags → ClientFlags} (hf : ∀ fl, (f fl).gpsUsed = used' ∨ (f fl).gpsUsed = fl.gpsUsed) :
    Keeps (fun _ => True) (Requested r) (setClient c f) := by
  refine .act fun t _ => ⟨trivial, still_writeClient c f t, fun d => ?_⟩
  rw [used_writeClient]
  split
  · rename_i hd
    subst hd
    rcases hf (t.ctx.clients d) with h | h
    · exact .inr ⟨hc, h.trans hu⟩
    · exact .inl h
  · exact .inl rfl

theorem Harmless.requested (h : Harmless p) : Keeps (fun _ => True) (Requested r) p :=
  h.mono (fun _ => id) fun _ _ _ _ hq => ⟨trivial, hq.requested⟩

theorem requested_startWrites (hr : r.isStart = true) (ack : Bool) :
    Keeps (fun _ => True) (Requested r) (startWrites r.client ack) := by
  refine .seq ?_
  simp only [forall_mem_cons, not_mem_nil, false_implies, implies_true, and_true]
  exact ⟨requested_writes _ true rfl hr.symm fun _ => .inl rfl,
    requested_writes _ true rfl hr.symm fun _ => .inr rfl,
    requested_writes _ true rfl hr.symm fun _ => .inr rfl⟩

theorem requested_stopWrites (hr : r.isStart = false) (ack : Bool) :
    Keeps (fun _ => True) (Requested r) (stopWrites r.client ack) := by
  refine .seq ?_
  simp only [forall_mem_cons, not_mem_nil, false_implies, implies_true, and_true]
  exact ⟨requested_writes _ false rfl hr.symm fun _ => .inl rfl,
    requested_writes _ false rfl hr.symm fun _ => .inr rfl,
    requested_writes _ false rfl hr.symm fun _ => .inr rfl⟩

theorem harmless_setOffload (mnlMode : Int) : Harmless (.act (setOffload mnlMode)) :=
  harmless_set (fun _ => rfl) (fun _ => rfl) fun _ => rfl

theorem harmless_halStartGpsTriggerEpoDownload (epo : EpoEnv) : Harmless (halStartGpsTriggerEpoDownload epo) := by
  refine .test trivial ?_
  split
  · exact .seq (forall_mem_cons.mpr ⟨harmless_set (fun _ => rfl) (fun _ => rfl) fun _ => rfl,
      forall_mem_singleton.mpr (harmless_post rfl)⟩)
  · trivial

theorem requested_writes_all (r : ClientRequest) : Keeps (fun _ => True) (Requested r) r.writes := by
  have htwo : ∀ {p q : Prog Turn}, Keeps (fun _ => True) (Requested r) p →
      Keeps (fun _ => True) (Requested r) q → Keeps (fun _ => True) (Requested r) (.seq [p, q]) :=
    fun hp hq => .seq (forall_mem_cons.mpr ⟨hp, forall_mem_singleton.mpr hq⟩)
  cases r with
  | halGpsStart epo =>
    exact htwo (requested_startWrites rfl true) (harmless_halStartGpsTriggerEpoDownload epo).requested
  | flpGpsStart mnlMode =>
    exact htwo (harmless_setOffload mnlMode).requested (requested_startWrites rfl true)
  | flpGpsStop mnlMode =>
    exact htwo (harmless_setOffload mnlMode).requested (requested_stopWrites rfl true)
  | halGpsStop | agpsCloseGpsReq => exact requested_stopWrites rfl true
  | agpsOpenGpsReq => exact requested_startWrites rfl true
  | flpTestGpsStart | factoryGpsStart | atTestGpsStart => exact requested_startWrites rfl false
  | flpTestGpsStop | factoryGpsStop | atTestGpsStop => exact requested_stopWrites rfl false

/-- **Where the FSM is quiet.** Under an invariant `I` that quiet writes keep, `mnld_fsm` on a start or
    stop is quiet unless it is a start in IDLE, or a stop in STARTED with nobody known to use GPS. -/
theorem fsm_keeps (u : GpsClient) (hI : ∀ a b, Quiet a b → I a → I b)
    (hidle : ∀ t, I t → t.ctx.gpsState = .idle → r.isStart = false)
    (hstarted : ∀ t, I t → t.ctx.gpsState = .started →
      (∀ t, I t → t.ctx.deleteAidingFlag = 0) ∧ (r.isStart = true ∨ ∀ t, I t → used u t = true)) :
    Keeps I Quiet (mnldFsm r.fsmEvent 0) := by
  have hquiet : ∀ {p J}, Keeps J Quiet p → (∀ t, I t → J t) → Keeps I Quiet p := fun hp hJ =>
    hp.mono hJ fun a b ha _ hq => ⟨hI a b hq ha, hq⟩
  -- the state is read once; what the other thread does to it afterwards does not change the branch
  intro t ht
  have hev : r.fsmEvent = .start ∧ r.isStart = true ∨ r.fsmEvent = .stop ∧ r.isStart = false := by
    cases hr : r.isStart <;> simp [fsmEvent, hr]
  dsimp only
  cases hst : t.ctx.gpsState with
  | idle =>
    rcases hev with ⟨-, hr⟩ | ⟨he, -⟩
    · exact absurd hr (by simp [hidle t ht hst])
    · rw [he]; exact hquiet harmless_doGpsStoppedHdlr fun _ _ => trivial
  | starting | stopping => rcases hev with ⟨he, -⟩ | ⟨he, -⟩ <;> rw [he] <;> trivial
  | started =>
    obtain ⟨h0, hu⟩ := hstarted t ht hst
    rcases hev with ⟨he, -⟩ | ⟨he, hr⟩ <;> rw [he]
    · exact hquiet (keeps_doGpsStartedHdlr 0) h0
    · have hused := hu.resolve_left (by simp [hr])
      exact Keeps.ifAllExit hused (hquiet harmless_doGpsStoppedHdlr fun _ _ => trivial)
        (GpsClient.mem_order u)

theorem prog_keeps (u : GpsClient) (hI : ∀ a b, Requested r a b → I a → I b)
    (hidle : ∀ t, I t → t.ctx.gpsState = .idle → r.isStart = false)
    (hstarted : ∀ t, I t → t.ctx.gpsState = .started →
      (∀ t, I t → t.ctx.deleteAidingFlag = 0) ∧ (r.isStart = true ∨ ∀ t, I t → used u t = true)) :
    Keeps I Still r.prog := by
  have hwrites : Keeps I Still r.writes :=
    (requested_writes_all r).mono (fun _ _ => trivial) fun a b ha _ hq => ⟨hI a b hq ha, hq.toStill⟩
  have hfsm : Keeps I Quiet (mnldFsm r.fsmEvent 0) := fsm_keeps u (fun a b hq => hI a b hq.requested) hidle hstarted
  exact hwrites.andThen (hfsm.mono (fun _ => id) fun _ _ _ hb hq => ⟨hb, hq.toStill⟩)

end Keepers

/-! ## Movers -/

section Movers

variable {I : Turn → Prop}

/-- The engine stands at `s`, with `cmds` sent and the deletion flags `fl` pending. -/
structure At (s : GpsState) (cmds : List GpsCommand) (fl : BitVec 32) (t : Turn) : Prop where
  outcome : outcome t = (s, cmds)
  flag : t.ctx.deleteAidingFlag = fl

variable {s : GpsState} {cmds : List GpsCommand} {fl : BitVec 32} {t : Turn}

theorem At.gpsState (h : At s cmds fl t) : t.ctx.gpsState = s := congrArg Prod.fst h.outcome

theorem At.commands (h : At s cmds fl t) : commands t.sent = cmds := congrArg Prod.snd h.outcome

theorem At.still (h : At s cmds fl a) (hs : Still a b) : At s cmds fl b :=
  ⟨hs.outcome.trans h.outcome, hs.flag.trans h.flag⟩

theorem At.stable : ∀ a b, Still a b → At s cmds fl a → At s cmds fl b := fun _ _ hs ha => ha.still hs

theorem At.safe {p : Prog Turn} {G : Turn → Turn → Prop} (hp : Keeps (fun _ => True) G p)
    (hG : ∀ a b, G a b → Still a b) (hI : ∀ a b, Still a b → I a → I b) (h : At s cmds fl t) :
    Safe Still (fun a b => I a → I b) (At s cmds fl) p t :=
  Keeps.safe At.stable
    (hp.mono (fun _ _ => trivial) fun a b ha _ hq => ⟨ha.still (hG a b hq), hI a b (hG a b hq)⟩) h

/-- **A start in IDLE** wakes the engine with the flags it finds, whatever a keeper does meanwhile. -/
theorem start_safe (hr : r.isStart = true) (hI : ∀ a b, Still a b → I a → I b)
    (hidle : ∀ t, t.ctx.gpsState = .starting → I t) (h : At .idle [] fl t) :
    Safe Still (fun a b => I a → I b) (At .starting [.start fl] 0) r.prog t := by
  have hcmd : ∀ t, At .starting [] fl t → Safe Still (fun a b => I a → I b) (At .starting [.start fl] fl)
      (.read fun t => post (.gpsControlGpsStart t.ctx.deleteAidingFlag)) t := fun t ht => by
    refine Safe.read At.stable (fun t ht => ?_) ht
    refine Safe.act At.stable At.stable (fun t' ht' => ⟨fun _ => hidle _ ht'.gpsState, ?_, ht'.flag⟩) ht
    rw [ht.flag]
    exact Prod.ext ht'.gpsState (by simp [outcome, ht'.commands]; rfl)
  have hstart : ∀ t, At .starting [] fl t →
      Safe Still (fun a b => I a → I b) (At .starting [.start fl] 0) sendStart t := fun t ht => by
    refine Safe.andThen .refl (At.safe harmless_armTimerStart (fun _ _ h => h.toStill) hI ht) fun t ht => ?_
    refine Safe.andThen .refl (hcmd t ht) fun t ht => ?_
    refine Safe.andThen .refl (M := At .starting [.start fl] 0) ?_ fun t ht => Safe.ret At.stable ht
    exact Safe.act At.stable At.stable (fun t ht => ⟨fun _ => hidle _ ht.gpsState, ht.outcome, rfl⟩) ht
  refine Safe.andThen .refl (At.safe (requested_writes_all r) (fun _ _ h => h.toStill) hI h) fun t ht => ?_
  refine Safe.read At.stable (fun t ht => ?_) ht
  simp only [ht.gpsState, fsmEvent, hr]
  refine Safe.andThen .refl (At.safe (harmless_post rfl) (fun _ _ h => h.toStill) hI ht) fun t ht => ?_
  refine Safe.andThen .refl (M := At .starting [] fl) ?_ fun t ht => ?_
  · exact Safe.act At.stable At.stable
      (fun t ht => ⟨fun _ => hidle _ rfl, Prod.ext rfl ht.commands, ht.flag⟩) ht
  · exact Safe.andThen .refl (hstart t ht) fun t ht => Safe.ret At.stable ht

theorem Safe.ifAllExit {R G : Turn → Turn → Prop} {Q M : Turn → Prop} {p q : Prog Turn}
    (hM : ∀ a b, R a b → M a → M b) (hp : ∀ t, M t → Safe R G Q p t) (hq : ∀ t, M t → Safe R G Q q t)
    (cs : List GpsClient) {t : Turn} (ht : M t) : Safe R G Q (ifAllExit cs p q) t := by
  induction cs generalizing t with
  | nil => exact hp t ht
  | cons c cs ih => exact Safe.test hM hq (fun t ht => ih ht) ht

/-- **The auto-stop in STARTED** stops the engine or leaves it running, whatever a keeper does meanwhile. -/
theorem stop_safe (hr : r.isStart = false) (hI : ∀ a b, Still a b → I a → I b)
    (hstop : ∀ a b, I a → b.ctx.gpsState = .stopping →
      b.ctx.deleteAidingFlag = a.ctx.deleteAidingFlag → I b) (h : At .started [] fl t) :
    Safe Still (fun a b => I a → I b) (fun t => At .stopping [.stop] fl t ∨ At .started [] fl t)
      r.prog t := by
  have hboth : ∀ a b, Still a b → (At .stopping [.stop] fl a ∨ At .started [] fl a) →
      At .stopping [.stop] fl b ∨ At .started [] fl b := fun _ _ hs ha => ha.imp (·.still hs) (·.still hs)
  have hsend : ∀ t, At .started [] fl t → Safe Still (fun a b => I a → I b)
      (fun t => At .stopping [.stop] fl t ∨ At .started [] fl t) sendStop t := fun t ht => by
    refine Safe.andThen .refl (M := At .stopping [] fl) ?_ fun t ht => ?_
    · exact Safe.act At.stable At.stable
        (fun t ht => ⟨fun hi => hstop t _ hi rfl rfl, Prod.ext rfl ht.commands, ht.flag⟩) ht
    have htimer : Harmless (set fun x => { x with timerStop := true }) :=
      harmless_set (fun _ => rfl) (fun _ => rfl) fun _ => rfl
    refine Safe.andThen .refl (At.safe htimer (fun _ _ h => h.toStill) hI ht) fun t ht => ?_
    refine Safe.andThen .refl (M := At .stopping [.stop] fl) ?_ fun t ht => Safe.ret hboth (.inl ht)
    refine Safe.act At.stable At.stable (fun t ht => ⟨fun hi => hstop t _ hi ht.gpsState rfl, ?_, ht.flag⟩) ht
    exact Prod.ext ht.gpsState (by simp [outcome, ht.commands]; rfl)
  refine Safe.andThen .refl (At.safe (requested_writes_all r) (fun _ _ h => h.toStill) hI h) fun t ht => ?_
  refine Safe.read At.stable (fun t ht => ?_) ht
  simp only [ht.gpsState, fsmEvent, hr]
  refine Safe.ifAllExit At.stable hsend (fun t ht => ?_) _ ht
  have hack := At.safe harmless_doGpsStoppedHdlr (fun _ _ h => h.toStill) hI ht
  exact hack.mono fun t ht => .inr ht

end Movers

/-! ## Atomic outcomes -/

variable {t t' : Turn}

theorem outcome_serial {p q : Prog Turn} {o : GpsState × List GpsCommand}
    (h : ∀ t', Par p q t t' → outcome t' = o) (hp : Par p q t t') :
    outcome t' = outcome (q.exec (p.exec t)) :=
  (h t' hp).trans (h _ (par_serial p q t)).symm

theorem frozen_keeps {s : GpsState} {cmds : List GpsCommand} (hs : s ≠ .started)
    (hidle : s = .idle → r.isStart = false) : Keeps (fun t => outcome t = (s, cmds)) Still r.prog := by
  refine prog_keeps .hal (fun a b hq ha => hq.outcome.trans ha) (fun t ht hst => ?_) fun t ht hst => ?_
  · exact hidle ((congrArg Prod.fst ht).symm.trans hst)
  · exact absurd ((congrArg Prod.fst ht).symm.trans hst) hs

theorem shared_keeps {u : GpsClient} (hur : u ≠ r.client ∨ r.isStart = true) :
    Keeps (fun t => At .started [] 0 t ∧ used u t = true) Still r.prog := by
  refine prog_keeps u (fun a b hq ha => ⟨ha.1.still hq.toStill, ?_⟩) (fun t ht hst => ?_) fun t _ _ => ?_
  · rcases hq.users u with h | ⟨hc, h⟩
    · rw [h]; exact ha.2
    · rw [h]; exact hur.resolve_left fun hne => hne hc
  · exact absurd (ht.1.gpsState.symm.trans hst) (by decide)
  · exact ⟨fun t ht => ht.1.flag, .inr fun t ht => ht.2⟩

theorem outcome_frozen {s : GpsState} {cmds : List GpsCommand} (hs : s ≠ .started)
    (hidle : s = .idle → r.isStart = false) (ht : outcome t = (s, cmds)) (hp : Par r.prog autoStop t t') :
    outcome t' = (s, cmds) :=
  Par.invariant (I := fun t => outcome t = (s, cmds)) (frozen_keeps hs hidle)
    (frozen_keeps hs fun _ => rfl) ht hp

theorem outcome_shared {u : GpsClient} (hu : u ≠ .atCmdTest) (hur : u ≠ r.client ∨ r.isStart = true)
    (ht : At .started [] 0 t) (hused : used u t = true) (hp : Par r.prog autoStop t t') :
    outcome t' = (.started, []) :=
  (Par.invariant (shared_keeps hur) (shared_keeps (r := .atTestGpsStop) (.inl hu)) ⟨ht, hused⟩
    hp).1.outcome

theorem outcome_wake {fl : BitVec 32} (hr : r.isStart = true) (ht : At .idle [] fl t)
    (hp : Par r.prog autoStop t t') : outcome t' = (.starting, [.start fl]) := by
  let Wakeable (t : Turn) : Prop := t.ctx.gpsState = .idle ∨ t.ctx.gpsState = .starting
  have hstill : ∀ a b, Still a b → Wakeable a → Wakeable b := fun a b hs ha => by
    simpa only [Wakeable, hs.gpsState] using ha
  have hkeeps : Keeps Wakeable Still autoStop := by
    refine prog_keeps .hal (fun a b hq => hstill a b hq.toStill) (fun _ _ _ => rfl) fun t ht hst => ?_
    rcases ht with h | h <;> exact absurd (h.symm.trans hst) (by decide)
  exact (Par.mover .refl (fun _ _ _ => .trans) (start_safe hr hstill (fun _ => .inr) ht) hkeeps
    (.inl ht.gpsState) hp).outcome

theorem outcome_startStarted (hr : r.isStart = true) (ht : At .started [] 0 t)
    (hp : Par r.prog autoStop t t') : outcome t' = (.stopping, [.stop]) ∨ outcome t' = (.started, []) := by
  let Busy (t : Turn) : Prop := (t.ctx.gpsState = .started ∨ t.ctx.gpsState = .stopping) ∧ t.ctx.deleteAidingFlag = 0
  have hstill : ∀ a b, Still a b → Busy a → Busy b := fun a b hs ha => by
    simpa only [Busy, hs.gpsState, hs.flag] using ha
  have hkeeps : Keeps Busy Still r.prog := by
    refine prog_keeps .hal (fun a b hq => hstill a b hq.toStill) (fun t ht hst => ?_)
      fun _ _ _ => ⟨fun t ht => ht.2, .inl hr⟩
    rcases ht.1 with h | h <;> exact absurd (h.symm.trans hst) (by decide)
  have hmover := stop_safe (r := .atTestGpsStop) rfl hstill
    (fun a b ha hst hfl => ⟨.inr hst, hfl.trans ha.2⟩) ht
  exact (Par.mover .refl (fun _ _ _ => .trans) hmover hkeeps ⟨.inl ht.gpsState, ht.flag⟩ hp.symm).imp
    (·.outcome) (·.outcome)

/-! ## The serial orders in STARTED -/

theorem used_writes (r : ClientRequest) (d : GpsClient) (t : Turn) :
    used d (r.writes.exec t) = if d = r.client then r.isStart else used d t := by
  have htrigger : ∀ epo t, used d (Mnld.halStartGpsTriggerEpoDownload epo t) = used d t := fun epo t => by
    unfold Mnld.halStartGpsTriggerEpoDownload
    split <;> rfl
  cases r <;>
    simp only [writes, Prog.exec_seq_cons, Prog.exec_seq_nil, Prog.exec_act,
      startWrites_exec, stopWrites_exec, halStartGpsTriggerEpoDownload_exec, htrigger, used_writeClient] <;>
    rfl

theorem still_writes (r : ClientRequest) (t : Turn) : Still t (r.writes.exec t) :=
  ((requested_writes_all r).exec .refl (fun _ _ _ => .trans) trivial).2.toStill

theorem start_alone (hr : r.isStart = true) (ht : At .started [] 0 t) :
    At .started [] 0 (r.prog.exec t) ∧ ∀ d, used d (r.prog.exec t) = if d = r.client then true else used d t := by
  have hfsm : Keeps (At .started [] 0) Quiet (mnldFsm r.fsmEvent 0) :=
    fsm_keeps .hal (fun _ _ hq ha => ha.still hq.toStill)
      (fun t ht hst => absurd (ht.gpsState.symm.trans hst) (by decide))
      fun _ _ _ => ⟨fun t ht => ht.flag, .inl hr⟩
  obtain ⟨hat, hq⟩ := hfsm.exec .refl (fun _ _ _ => .trans) (ht.still (still_writes r t))
  rw [prog, Prog.exec_andThen]
  refine ⟨hat, fun d => ?_⟩
  rw [hq.users, used_writes, hr]

theorem stop_alone {fl : BitVec 32} (hr : r.isStart = false) (ht : At .started [] fl t)
    (hlast : ∀ d, d ≠ r.client → used d t = false) : At .stopping [.stop] fl (r.prog.exec t) := by
  have ht₁ := ht.still (still_writes r t)
  have hexit : isAllGpsClientExit (r.writes.exec t).ctx = true := isAllGpsClientExit_iff.mpr fun d => by
    have hd := used_writes r d t
    rw [hr] at hd
    refine hd.trans ?_
    split
    · rfl
    · rename_i hne; exact hlast d hne
  rw [prog, Prog.exec_andThen, mnldFsm_exec, fsmEvent, hr]
  simp only [Bool.false_eq_true, if_false, Mnld.mnldFsm, ht₁.gpsState, Mnld.fsmGpsStateStarted, hexit, if_true]
  exact ⟨Prod.ext rfl (by simp [outcome, ht₁.commands]; rfl), ht₁.flag⟩

theorem stop_prog_cases (hr : r.isStart = false) (t : Turn) :
    outcome (r.prog.exec t) = outcome t ∨
      t.ctx.gpsState = .started ∧ outcome (r.prog.exec t) = (.stopping, commands t.sent ++ [GpsCommand.stop]) := by
  have hs := still_writes r t
  obtain ⟨msgs, hstep, hsent⟩ := mnldFsm_engineStep .stop 0 (r.writes.exec t)
  have hcmds : commands (Mnld.mnldFsm .stop 0 (r.writes.exec t)).sent =
      commands t.sent ++ msgs.filterMap EngineMsg.command := by
    rw [commands, hsent, filterMap_append]
    exact congrArg (· ++ _) (congrArg Prod.snd hs.outcome)
  rw [prog, Prog.exec_andThen, mnldFsm_exec, fsmEvent, hr]
  rw [hs.gpsState] at hstep
  rcases hstep.stop_cases with ⟨hst, rfl⟩ | ⟨hst, hst', rfl⟩
  · exact .inl (Prod.ext hst (hcmds.trans (append_nil _)))
  · exact .inr ⟨hst, Prod.ext hst' hcmds⟩

theorem serial_stops_length (r₁ r₂ : ClientRequest) (h₁ : r₁.isStart = false) (h₂ : r₂.isStart = false)
    (ht : commands t.sent = []) : (outcome (r₂.prog.exec (r₁.prog.exec t))).2.length ≤ 1 := by
  rcases stop_prog_cases h₁ t with ho₁ | ⟨-, ho₁⟩
  · have hnil : commands (r₁.prog.exec t).sent = [] := (congrArg Prod.snd ho₁).trans ht
    rcases stop_prog_cases h₂ (r₁.prog.exec t) with ho₂ | ⟨-, ho₂⟩
    · rw [ho₂, ho₁]; simp [outcome, ht]
    · rw [ho₂, hnil]; exact Nat.le_refl 1
  · -- the first STOP left STARTED, so the second request finds STOPPING
    have hst : (r₁.prog.exec t).ctx.gpsState = .stopping := congrArg Prod.fst ho₁
    rcases stop_prog_cases h₂ (r₁.prog.exec t) with ho₂ | ⟨hst', -⟩
    · rw [ho₂, ho₁]; simp [ht]
    · exact absurd (hst.symm.trans hst') (by decide)

/-! ## The interleavings that are not atomic -/

theorem steps_ifAllExit {p q : Prog Turn} {cs : List GpsClient} (h : ∀ c ∈ cs, used c t = false) :
    Steps (ifAllExit cs p q) t p t := by
  induction cs with
  | nil => exact .refl
  | cons c cs ih =>
    have hstep : Step (ifAllExit (c :: cs) p q) t (ifAllExit cs p q) t := by
      have h' : Step (ifAllExit (c :: cs) p q) t _ t := .read
      simpa [h c mem_cons_self] using h'
    exact .head hstep (ih fun d hd => h d (mem_cons_of_mem _ hd))

theorem steps_mnldFsm_stop (hst : t.ctx.gpsState = .started) (h : ∀ c, used c t = false) :
    Steps (mnldFsm .stop 0) t sendStop t := by
  have hstep : Step (mnldFsm .stop 0) t (fsmGpsStateStarted .stop) t := by
    have h' : Step (mnldFsm .stop 0) t _ t := .read
    simpa [hst] using h'
  exact .head hstep (steps_ifAllExit fun c _ => h c)

/-- **Two STOPs.** If nobody but the AT test and the stopping client uses the engine, both threads can write
    their flags before either reads them, and then both find that all clients are gone. -/
theorem par_twoStops (hr : r.isStart = false) (ht : At .started [] 0 t)
    (hlast : ∀ d, d ≠ .atCmdTest → d ≠ r.client → used d t = false) :
    ∃ t', Par r.prog autoStop t t' ∧ outcome t' = (.stopping, [.stop, .stop]) := by
  let t₁ := r.writes.exec t
  let t₂ := atTestGpsStop.writes.exec t₁
  have hat : At .started [] 0 t₂ := (ht.still (still_writes _ _)).still (still_writes _ _)
  have hexit : ∀ d, used d t₂ = false := fun d => by
    rw [used_writes]
    split
    · rfl
    · rename_i hd
      rw [used_writes, hr]
      split
      · rfl
      · rename_i hd'; exact hlast d hd hd'
  have hfsm : Steps (mnldFsm .stop 0) t₂ sendStop t₂ := steps_mnldFsm_stop hat.gpsState hexit
  refine ⟨sendStop.exec (sendStop.exec t₂), ?_, ?_⟩
  · have hr' : r.fsmEvent = .stop := by simp [fsmEvent, hr]
    refine .lefts ((steps_exec r.writes t).andThen _) (.rights ((steps_exec _ t₁).andThen _) ?_)
    rw [hr']
    exact .lefts hfsm (.rights hfsm (par_serial sendStop sendStop t₂))
  · simp only [sendStop_exec]
    refine Prod.ext rfl ?_
    simp only [outcome, sendStop_sent, commands_append, hat.commands]
    rfl

/-- **No STOP.** A start of the AT test slipping between the auto-stop's write and its reads keeps the
    engine running. -/
theorem par_noStop (hr : r.isStart = true) (hc : r.client = .atCmdTest) (ht : At .started [] 0 t) :
    ∃ t', Par r.prog autoStop t t' ∧ outcome t' = (.started, []) := by
  let t₁ := atTestGpsStop.writes.exec t
  have hat : At .started [] 0 t₁ := ht.still (still_writes _ _)
  obtain ⟨hat₂, hused⟩ := start_alone hr hat
  have hfsm : Keeps (fun t => At .started [] 0 t ∧ used .atCmdTest t = true) Quiet (mnldFsm .stop 0) := by
    refine fsm_keeps (r := .atTestGpsStop) .atCmdTest (fun a b hq ha => ⟨ha.1.still hq.toStill, ?_⟩)
      (fun _ _ _ => rfl) fun _ _ _ => ⟨fun t ht => ht.1.flag, .inr fun t ht => ht.2⟩
    rw [hq.users]; exact ha.2
  have hend := (hfsm.exec .refl (fun _ _ _ => .trans) ⟨hat₂, by rw [hused, hc]; rfl⟩).1.1
  refine ⟨_, ?_, hend.outcome⟩
  refine .rights ((steps_exec atTestGpsStop.writes t).andThen _) ?_
  exact par_serial r.prog (mnldFsm .stop 0) t₁

/-! ## The main result -/

/-- Every interleaving of the request with the auto-stop has the outcome of one of the two serial orders. -/
def AutoStopAtomic (r : ClientRequest) (t : Turn) : Prop :=
  ∀ t', Par r.prog autoStop t t' →
    outcome t' = outcome (handle .atTestGpsStop (handle r.event t)) ∨
      outcome t' = outcome (handle r.event (handle .atTestGpsStop t))

theorem autoStopAtomic_of_serial {r : ClientRequest} {t : Turn} {o : GpsState × List GpsCommand}
    (h : ∀ t', Par r.prog autoStop t t' → outcome t' = o) : AutoStopAtomic r t := by
  intro t' hp
  have hserial := outcome_serial h hp
  rw [autoStop, prog_exec, prog_exec] at hserial
  exact .inl hserial

theorem outcome_stopFirst (hnone : ∀ d, d ≠ .atCmdTest → used d t = false) (ht : At .started [] 0 t) :
    outcome (r.prog.exec (autoStop.exec t)) = (.stopping, [.stop]) := by
  have hstop : At .stopping [.stop] 0 (autoStop.exec t) := stop_alone (r := .atTestGpsStop) rfl ht hnone
  have hkeeps : Keeps (fun t => outcome t = (.stopping, [.stop])) Still r.prog :=
    frozen_keeps (by decide) fun h => absurd h (by decide)
  exact (hkeeps.exec .refl (fun _ _ _ => .trans) hstop.outcome).1

theorem atomic_start (hr : r.isStart = true) (hc : r.client ≠ .atCmdTest) (ht : At .started [] 0 t) :
    AutoStopAtomic r t := by
  by_cases hu : ∃ u, u ≠ .atCmdTest ∧ used u t = true
  · obtain ⟨u, hne, hu⟩ := hu
    exact autoStopAtomic_of_serial fun t' => outcome_shared hne (.inr hr) ht hu
  have hnone : ∀ d, d ≠ .atCmdTest → used d t = false := fun d hd => by
    by_contra h
    exact hu ⟨d, hd, eq_true_of_ne_false h⟩
  intro t' hp
  rcases outcome_startStarted hr ht hp with ho | ho
  · right
    have hend := outcome_stopFirst (r := r) hnone ht
    rw [autoStop, prog_exec, prog_exec] at hend
    exact ho.trans hend.symm
  · -- the start first: its client keeps the engine running
    left
    obtain ⟨hat, hused⟩ := start_alone hr ht
    have hend := ((shared_keeps (r := .atTestGpsStop) (.inl hc)).exec .refl (fun _ _ _ => .trans)
      ⟨hat, by simp [hused]⟩).1.1.outcome
    rw [prog_exec, prog_exec] at hend
    exact ho.trans hend.symm

theorem not_atomic_stop (hr : r.isStart = false) (ht : At .started [] 0 t)
    (hlast : ∀ d, d ≠ .atCmdTest → d ≠ r.client → used d t = false) : ¬ AutoStopAtomic r t := by
  intro hatomic
  obtain ⟨t', hp, ho⟩ := par_twoStops hr ht hlast
  have h₁ := serial_stops_length r .atTestGpsStop hr rfl ht.commands
  have h₂ := serial_stops_length .atTestGpsStop r rfl hr ht.commands
  simp only [prog_exec] at h₁ h₂
  have htwo : ¬ (outcome t').2.length ≤ 1 := by rw [ho]; decide
  rcases hatomic t' hp with h | h
  · exact htwo (h ▸ h₁)
  · exact htwo (h ▸ h₂)

theorem not_atomic_start (hr : r.isStart = true) (hc : r.client = .atCmdTest) (ht : At .started [] 0 t)
    (hlast : ∀ d, d ≠ .atCmdTest → used d t = false) : ¬ AutoStopAtomic r t := by
  intro hatomic
  obtain ⟨t', hp, ho⟩ := par_noStop hr hc ht
  obtain ⟨hat, hused⟩ := start_alone hr ht
  have h₁ : outcome (autoStop.exec (r.prog.exec t)) = (.stopping, [.stop]) := by
    refine (stop_alone (r := .atTestGpsStop) rfl hat fun d hd => ?_).outcome
    exact (hused d).trans ((if_neg (hc ▸ hd)).trans (hlast d hd))
  have h₂ := outcome_stopFirst (r := r) hlast ht
  simp only [autoStop, prog_exec] at h₁ h₂
  rcases hatomic t' hp with h | h <;> rw [ho] at h
  · exact absurd (h.trans h₁) (by decide)
  · exact absurd (h.trans h₂) (by decide)

/-- **When the auto-stop is atomic.** In every reachable context, and for every client's start or stop: each
    interleaving with the AT-test auto-stop ends like one of the two serial orders iff the engine is not
    STARTED, or a client other than the AT test and the requesting one uses it, or the request starts a
    client other than the AT test. -/
theorem autoStop_atomic_iff {tr : List MnldEntry} {x : MnldContext} (h : mnldMachine.Run tr x)
    (r : ClientRequest) :
    (∀ t, Par r.prog autoStop ⟨x, []⟩ t →
      outcome t = outcome (handle .atTestGpsStop (handle r.event ⟨x, []⟩)) ∨
        outcome t = outcome (handle r.event (handle .atTestGpsStop ⟨x, []⟩))) ↔
    (x.gpsState = .started →
      (∃ d, d ≠ .atCmdTest ∧ d ≠ r.client ∧ (x.clients d).gpsUsed = true) ∨
        r.isStart = true ∧ r.client ≠ .atCmdTest) := by
  have hflag := (fsmInv_run h).started
  cases hst : x.gpsState with
  | starting | stopping =>
    refine iff_of_true (autoStopAtomic_of_serial fun t' => outcome_frozen ?_ ?_ (Prod.ext hst rfl)) ?_
    · decide
    · exact fun h => absurd h (by decide)
    · exact fun h => absurd h (by decide)
  | idle =>
    refine iff_of_true ?_ fun h => absurd h (by decide)
    cases hr : r.isStart with
    | false =>
      exact autoStopAtomic_of_serial fun t' =>
        outcome_frozen (by decide) (fun _ => hr) (Prod.ext hst rfl)
    | true => exact autoStopAtomic_of_serial fun t' => outcome_wake hr ⟨Prod.ext hst rfl, rfl⟩
  | started =>
    have hat : At .started [] 0 ⟨x, []⟩ := ⟨Prod.ext hst rfl, (hflag hst).2.1⟩
    constructor
    · intro hatomic _
      by_contra hno
      push Not at hno
      have hlast : ∀ d, d ≠ .atCmdTest → d ≠ r.client → used d ⟨x, []⟩ = false :=
        fun d hd hd' => eq_false_of_ne_true (hno.1 d hd hd')
      cases hr : r.isStart with
      | false => exact not_atomic_stop hr hat hlast hatomic
      | true =>
        have hc := hno.2 hr
        exact not_atomic_start hr hc hat (fun d hd => hlast d hd (hc ▸ hd)) hatomic
    · intro hcond
      rcases hcond rfl with ⟨u, hu, hur, hused⟩ | ⟨hr, hc⟩
      · exact autoStopAtomic_of_serial fun t' => outcome_shared hu (.inl hur) hat hused
      · exact atomic_start hr hc hat

def halAndAtTest : List MainEvent := [.halGpsStart ⟨false, false⟩, .atTestGpsStart, .startDone 0]

/-- **The double STOP.** The HAL stops while the AT test's auto-stop runs: two STOP commands are sent, where
    both serial orders send one. -/
theorem halStop_autoStop_twoStops :
    ∃ tr x t, mnldMachine.Run tr x ∧ tr.map (·.event) = halAndAtTest ∧
      Par ClientRequest.halGpsStop.prog autoStop ⟨x, []⟩ t ∧ outcome t = (.stopping, [.stop, .stop]) ∧
      outcome (handle .atTestGpsStop (handle .halGpsStop ⟨x, []⟩)) = (.stopping, [.stop]) ∧
      outcome (handle .halGpsStop (handle .atTestGpsStop ⟨x, []⟩)) = (.stopping, [.stop]) := by
  have hrun : mnldMachine.Run (mnldMachine.exec halAndAtTest).1 (mnldMachine.exec halAndAtTest).2 :=
    mnldMachine.run_exec (by simp [Transducer.Admissible, mnldMachine, halAndAtTest])
  have hlast : ∀ d, d ≠ .atCmdTest → d ≠ ClientRequest.halGpsStop.client →
      used d ⟨(mnldMachine.exec halAndAtTest).2, []⟩ = false := by decide
  obtain ⟨t, hp, ho⟩ := par_twoStops (r := .halGpsStop) rfl
    (t := ⟨(mnldMachine.exec halAndAtTest).2, []⟩) ⟨rfl, rfl⟩ hlast
  exact ⟨_, _, t, hrun, rfl, hp, ho, rfl, rfl⟩

/-- With the AGPS client using the engine as well, the HAL's stop and the auto-stop are atomic. -/
theorem autoStop_atomic_agpsUses :
    let x := (mnldMachine.exec (halAndAtTest ++ [.agpsOpenGpsReq])).2
    x.gpsState = .started ∧
      ∀ t, Par ClientRequest.halGpsStop.prog autoStop ⟨x, []⟩ t →
        outcome t = outcome (handle .atTestGpsStop (handle .halGpsStop ⟨x, []⟩)) ∨
          outcome t = outcome (handle .halGpsStop (handle .atTestGpsStop ⟨x, []⟩)) := by
  intro x
  have hrun : mnldMachine.Run (mnldMachine.exec (halAndAtTest ++ [.agpsOpenGpsReq])).1 x :=
    mnldMachine.run_exec (by simp [Transducer.Admissible, mnldMachine, halAndAtTest])
  exact ⟨rfl, (autoStop_atomic_iff hrun .halGpsStop).mpr fun _ => .inl ⟨.agps, by decide, by decide, rfl⟩⟩

end Threads
end HuaweiY5.Mnld
