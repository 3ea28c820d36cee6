import HuaweiY5.Mnld.Controller
import HuaweiY5.Mnld.Session

/-!
# `Mnld.Protocol` — the main thread, gps_control and the two sockets between them

The main thread's commands travel to gps_control through one local socket, the answers come back through
another; both are FIFO queues. `sysMachine` interleaves the two threads with the clients, with libmnl's
START_DONE callback and with the timers, in every order.
-/

namespace HuaweiY5.Mnld

open List
open Transducer (Entry entry_out entry_pre out outs outs_append)

/-- The context of the main thread and the two sockets. -/
structure System where
  ctx : MnldContext
  toGps : List GpsCommand
  toMain : List Gps2Main

inductive SysEvent
  /-- A client's request reaches the main thread. -/
  | request (e : MainEvent)
  /-- The main thread takes the next message off its socket. -/
  | deliver
  /-- gps_control takes the next command; `stopped` is the outcome of `mnld_gps_stop_impl`. -/
  | control (stopped : Bool)
  /-- libmnl's callback posts START_DONE, whether or not the engine was being started. -/
  | startDone (isAssistReq : Int)
  /-- The NMEA monitor posts NMEA_TIMEOUT. -/
  | nmeaTimeout
  /-- The NMEA callback posts GPS2GPS_NMEA_DATA_TIMEOUT. -/
  | nmeaDataTimeout
deriving DecidableEq

/-- The events that come from clients, not through the main socket. -/
def MainEvent.fromClient (e : MainEvent) : Bool :=
  match e.kind with
  | .startDone _ | .stopDone | .resetDone | .nmeaTimeout => false
  | _ => true

def commands (os : List Output) : List GpsCommand := (engineMsgs os).filterMap EngineMsg.command

def System.main (s : System) (e : MainEvent) : System × List Output :=
  let t := handle e ⟨s.ctx, []⟩
  ({ s with ctx := t.ctx, toGps := s.toGps ++ commands t.sent }, t.sent)

/-- One step of the system; the messages are those of the main thread. -/
def System.step (s : System) : SysEvent → System × List Output
  | .request e => s.main e
  | .deliver =>
    match s.toMain with
    | [] => (s, [])
    | m :: rest => { s with toMain := rest }.main m.event
  | .control stopped =>
    match s.toGps with
    | [] => (s, [])
    | c :: rest => ({ s with toGps := rest, toMain := s.toMain ++ gpsControlEventHdlr stopped c }, [])
  | .startDone isAssistReq => ({ s with toMain := s.toMain ++ [.startDone isAssistReq] }, [])
  | .nmeaTimeout => ({ s with toMain := s.toMain ++ [.nmeaTimeout] }, [])
  | .nmeaDataTimeout => ({ s with toGps := s.toGps ++ [.nmeaDataTimeout] }, [])

/-- **The daemon's two threads** and everything that can happen to them. -/
def sysMachine : Transducer System SysEvent Output where
  init := ⟨.zero, [], []⟩
  enabled s e := match e with
    | .request e => e.fromClient = true
    | .deliver => s.toMain ≠ []
    | .control _ => s.toGps ≠ []
    | .startDone _ | .nmeaTimeout | .nmeaDataTimeout => True
  step := System.step

abbrev SysEntry := Entry System SysEvent Output

/-! ## The kinds of step -/

/-- The event the main thread handles in a step, if it is its turn. -/
def mainEvent (s : System) : SysEvent → Option MainEvent
  | .request e => some e
  | .deliver => s.toMain.head?.map Gps2Main.event
  | _ => none

/-- The message a callback or timer posts to the main thread. -/
def SysEvent.posts : SysEvent → Option Gps2Main
  | .startDone isAssistReq => some (.startDone isAssistReq)
  | .nmeaTimeout => some .nmeaTimeout
  | _ => none

theorem SysEvent.posts_ne {e : SysEvent} {m : Gps2Main} (h : e.posts = some m) : m ≠ .stopDone ∧ m ≠ .resetDone := by
  cases e <;> simp only [SysEvent.posts, Option.some.injEq, reduceCtorEq] at h <;> subst h <;> simp

/-- **Everything a step can do.** -/
inductive SysStep (s : System) : SysEvent → System → Prop
  | request {e} : e.fromClient = true → SysStep s (.request e) (s.main e).1
  | deliver {m rest} : s.toMain = m :: rest →
      SysStep s .deliver ({ s with toMain := rest }.main m.event).1
  | control {stopped c rest} : s.toGps = c :: rest →
      SysStep s (.control stopped)
        { s with toGps := rest, toMain := s.toMain ++ gpsControlEventHdlr stopped c }
  | post {e m} : e.posts = some m → SysStep s e { s with toMain := s.toMain ++ [m] }
  | monitor : SysStep s .nmeaDataTimeout { s with toGps := s.toGps ++ [.nmeaDataTimeout] }

variable {s : System} {e : SysEvent} {ev : Option GpsEvent}

theorem sys_step_cases (hen : sysMachine.enabled s e) : SysStep s e (sysMachine.next s e) := by
  cases e with
  | request e => exact .request hen
  | deliver =>
    cases hq : s.toMain with
    | nil => exact absurd hq hen
    | cons m rest =>
      simp only [Transducer.next, sysMachine, System.step, hq]
      exact .deliver hq
  | control stopped =>
    cases hq : s.toGps with
    | nil => exact absurd hq hen
    | cons c rest =>
      simp only [Transducer.next, sysMachine, System.step, hq]
      exact .control hq
  | startDone | nmeaTimeout => exact .post rfl
  | nmeaDataTimeout => exact .monitor

/-- A step in which the main thread handles `m`: it does so in a state `s₀` that lacks at most the message
    it took. -/
theorem sys_main_cases (hen : sysMachine.enabled s e) {m : MainEvent}
    (hm : mainEvent s e = some m) :
    ∃ s₀ : System, s₀.ctx = s.ctx ∧ s₀.toGps = s.toGps ∧
      (s₀.toMain = s.toMain ∧ m.fromClient = true ∨ ∃ g : Gps2Main, m = g.event ∧ s.toMain = g :: s₀.toMain) ∧
      sysMachine.next s e = (s₀.main m).1 ∧ sysMachine.out s e = (s₀.main m).2 := by
  cases e with
  | request e =>
    obtain rfl := Option.some.inj hm
    exact ⟨s, rfl, rfl, .inl ⟨rfl, hen⟩, rfl, rfl⟩
  | deliver =>
    cases hq : s.toMain with
    | nil => exact absurd hq hen
    | cons g rest =>
      obtain rfl : g.event = m := by simpa [mainEvent, hq] using hm
      refine ⟨{ s with toMain := rest }, rfl, rfl, .inr ⟨g, rfl, rfl⟩, ?_, ?_⟩
      · simp [Transducer.next, sysMachine, System.step, hq]
      · simp [out, sysMachine, System.step, hq]
  | control | startDone | nmeaTimeout | nmeaDataTimeout => cases hm

theorem sys_main_message (hen : sysMachine.enabled s e) {m : MainEvent}
    (hm : mainEvent s e = some m) (hcl : m.fromClient = false) :
    ∃ g : Gps2Main, m = g.event ∧ ∃ s₀ : System, s.toMain = g :: s₀.toMain ∧ s₀.ctx = s.ctx ∧
      s₀.toGps = s.toGps ∧ sysMachine.next s e = (s₀.main m).1 := by
  obtain ⟨s₀, hctx, hgps, ⟨-, hcl'⟩ | ⟨g, hg, hq⟩, hnext, -⟩ := sys_main_cases hen hm
  · rw [hcl] at hcl'; cases hcl'
  · exact ⟨g, hg, s₀, hq, hctx, hgps, hnext⟩

/-! ## STOP and STOP_DONE -/

/-- The STOP commands and STOP_DONE messages under way. -/
def stopsInFlight (s : System) : Nat := s.toGps.count .stop + s.toMain.count .stopDone

/-- At most one is, and only while the FSM waits for it. -/
structure StopInv (s : System) : Prop where
  le_one : stopsInFlight s ≤ 1
  waiting : s.ctx.gpsState ≠ .stopping → stopsInFlight s = 0

theorem EngineStep.stops {s s' : GpsState} {fl fl' : BitVec 32}
    {msgs : List EngineMsg} (h : EngineStep ev s fl s' fl' msgs) :
    ((msgs.filterMap EngineMsg.command).count .stop =
      if s ≠ .stopping ∧ s' = .stopping then 1 else 0) ∧
    (s = .stopping → s' ≠ .stopping → ev = some .stopDone) := by
  have hdel : ((deleteCmd fl).filterMap EngineMsg.command).count .stop = 0 := by
    unfold deleteCmd; split <;> rfl
  cases h with
  | quiet => exact ⟨by simp, fun h h' => absurd h h'⟩
  | wake | halt => exact ⟨rfl, by simp⟩
  | run | delete => exact ⟨by simpa using hdel, by simp⟩
  | abandon => exact ⟨by rw [filterMap_append, count_append, hdel]; rfl, by simp⟩
  | restart | sleep => exact ⟨rfl, fun _ _ => rfl⟩
  | crash hs => exact ⟨by rcases hs with rfl | rfl <;> rfl, fun _ _ => rfl⟩

theorem StopInv.main (h : StopInv s) {e : MainEvent} (he : e ≠ .stopDone) : StopInv (s.main e).1 := by
  obtain ⟨hcount, hleave⟩ := (handle_engineStep s.ctx e).stops
  have hflight : stopsInFlight (s.main e).1 = stopsInFlight s +
      if s.ctx.gpsState ≠ .stopping ∧ (s.main e).1.ctx.gpsState = .stopping then 1 else 0 := by
    simp only [stopsInFlight, System.main, commands, count_append, hcount]
    exact Nat.add_right_comm _ _ _
  have hstay : (s.main e).1.ctx.gpsState ≠ .stopping → s.ctx.gpsState ≠ .stopping :=
    fun hne hst => he (MainEvent.fsm_eq_stopDone (hleave hst hne))
  constructor
  · rw [hflight]
    split
    · rename_i hst
      rw [h.waiting hst.1]
    · exact h.le_one
  · intro hne
    rw [hflight, h.waiting (hstay hne), if_neg (fun hst => hne hst.2)]

theorem StopInv.main_stopDone (hst : s.ctx.gpsState = .stopping) (h0 : stopsInFlight s = 0) :
    StopInv (s.main .stopDone).1 := by
  obtain ⟨hcount, -⟩ := (handle_engineStep s.ctx .stopDone).stops
  have hflight : stopsInFlight (s.main .stopDone).1 = 0 := by
    simp only [stopsInFlight] at h0
    simp only [stopsInFlight, System.main, commands, count_append, hcount, hst, ne_eq,
      not_true_eq_false, false_and, if_false]
    omega
  exact ⟨by omega, fun _ => hflight⟩

theorem gpsControlEventHdlr_stopDone (stopped : Bool) (c : GpsCommand) :
    (gpsControlEventHdlr stopped c).count .stopDone ≤ if c = .stop then 1 else 0 := by
  cases c with
  | start | deleteAidingData | nmeaDataTimeout => exact Nat.zero_le _
  | stop => cases stopped <;> decide

theorem StopInv.control (h : StopInv s) {c : GpsCommand} {rest : List GpsCommand}
    (hq : s.toGps = c :: rest) (stopped : Bool) :
    StopInv { s with toGps := rest, toMain := s.toMain ++ gpsControlEventHdlr stopped c } := by
  have hle : stopsInFlight { s with toGps := rest, toMain := s.toMain ++ gpsControlEventHdlr stopped c } ≤
      stopsInFlight s := by
    have hans := gpsControlEventHdlr_stopDone stopped c
    have hcons : (c :: rest).count .stop = rest.count .stop + if c = .stop then 1 else 0 := by
      rw [count_cons]; simp
    simp only [stopsInFlight, hq, count_append]
    omega
  exact ⟨hle.trans h.le_one, fun hne => Nat.le_zero.mp (hle.trans_eq (h.waiting hne))⟩

theorem StopInv.frame {s s' : System} (h : StopInv s) (hctx : s'.ctx = s.ctx)
    (hfl : stopsInFlight s' = stopsInFlight s) : StopInv s' :=
  ⟨hfl ▸ h.le_one, fun hne => hfl ▸ h.waiting (hctx ▸ hne)⟩

theorem StopInv.head_stopDone (h : StopInv s) {rest : List Gps2Main}
    (hq : s.toMain = .stopDone :: rest) :
    s.ctx.gpsState = .stopping ∧ stopsInFlight { s with toMain := rest } = 0 := by
  have hcount : stopsInFlight s = stopsInFlight { s with toMain := rest } + 1 := by
    simp only [stopsInFlight, hq, count_cons_self]; omega
  have hle := h.le_one
  refine ⟨?_, by omega⟩
  by_contra hne
  have := h.waiting hne
  omega

/-- The main thread takes a message: what is left still satisfies the invariant, and a STOP_DONE was due. -/
theorem StopInv.take (h : StopInv s) {m : Gps2Main} {rest : List Gps2Main}
    (hq : s.toMain = m :: rest) :
    StopInv { s with toMain := rest } ∧ (m = .stopDone → s.ctx.gpsState = .stopping ∧
      stopsInFlight { s with toMain := rest } = 0) := by
  by_cases hm : m = .stopDone
  · subst hm
    obtain ⟨hst, h0⟩ := h.head_stopDone hq
    exact ⟨⟨by omega, fun _ => h0⟩, fun _ => ⟨hst, h0⟩⟩
  · exact ⟨h.frame rfl (by simp [stopsInFlight, hq, count_cons_of_ne hm]), fun h => absurd h hm⟩

theorem Gps2Main.event_eq_stopDone {m : Gps2Main} (h : m.event = .stopDone) : m = .stopDone := by
  cases m <;> first | rfl | cases h

/-- **Step lemma.** -/
theorem StopInv.step (h : StopInv s) {e : SysEvent} (hen : sysMachine.enabled s e) :
    StopInv (sysMachine.next s e) ∧ (mainEvent s e = some .stopDone → s.ctx.gpsState = .stopping) := by
  have hstep := sys_step_cases hen
  generalize sysMachine.next s e = s' at hstep
  cases hstep with
  | @request e hcl =>
    have he : e ≠ .stopDone := by rintro rfl; exact Bool.noConfusion hcl
    exact ⟨h.main he, fun heq => absurd (Option.some.inj heq) he⟩
  | @deliver m rest hq =>
    obtain ⟨hrest, hdone⟩ := h.take hq
    have hev : mainEvent s .deliver = some m.event := by simp [mainEvent, hq]
    rw [hev]
    by_cases hm : m = .stopDone
    · subst hm
      exact ⟨StopInv.main_stopDone (hdone rfl).1 (hdone rfl).2, fun _ => (hdone rfl).1⟩
    · have he : m.event ≠ .stopDone := fun he => hm (Gps2Main.event_eq_stopDone he)
      exact ⟨hrest.main he, fun heq => absurd (Option.some.inj heq) he⟩
  | control hq => exact ⟨h.control hq _, fun heq => by simp [mainEvent] at heq⟩
  | @post e m hpost =>
    refine ⟨h.frame rfl ?_, fun heq => ?_⟩
    · have hne := (SysEvent.posts_ne hpost).1
      simp [stopsInFlight, count_cons_of_ne hne]
    · cases e <;> simp [SysEvent.posts, mainEvent] at hpost heq
  | monitor => exact ⟨h.frame rfl (by simp [stopsInFlight]), fun heq => by simp [mainEvent] at heq⟩

/-! ## The system runs the main thread -/

def mainEntries (tr : List SysEntry) : List MnldEntry :=
  tr.filterMap fun y => (mainEvent y.pre y.event).map (mnldMachine.entry y.pre.ctx)

@[simp] theorem mainEntries_snoc (tr : List SysEntry) (y : SysEntry) :
    mainEntries (tr ++ [y]) =
      mainEntries tr ++ ((mainEvent y.pre y.event).map (mnldMachine.entry y.pre.ctx)).toList := by
  cases h : mainEvent y.pre y.event <;> simp [mainEntries, h]

theorem sys_step_main {m : MainEvent} (h : mainEvent s e = some m) :
    (sysMachine.next s e).ctx = mnldMachine.next s.ctx m ∧ sysMachine.out s e = mnldMachine.out s.ctx m := by
  cases e with
  | request e => cases h; exact ⟨rfl, rfl⟩
  | deliver =>
    cases hq : s.toMain with
    | nil => simp [mainEvent, hq] at h
    | cons g rest =>
      obtain rfl : g.event = m := by simpa [mainEvent, hq] using h
      simp only [Transducer.next, out, sysMachine, System.step, hq]
      exact ⟨rfl, rfl⟩
  | control | startDone | nmeaTimeout | nmeaDataTimeout => simp [mainEvent] at h

theorem sys_step_silent (h : mainEvent s e = none) : (sysMachine.next s e).ctx = s.ctx ∧ sysMachine.out s e = [] := by
  cases e with
  | request e => simp [mainEvent] at h
  | deliver =>
    cases hq : s.toMain with
    | nil => simp [Transducer.next, out, sysMachine, System.step, hq]
    | cons g rest => simp [mainEvent, hq] at h
  | control stopped =>
    cases hq : s.toGps <;> simp [Transducer.next, out, sysMachine, System.step, hq]
  | startDone | nmeaTimeout | nmeaDataTimeout => exact ⟨rfl, rfl⟩

/-- **The system refines the main thread**: in every interleaving, what the main thread does is a run of
    `mnldMachine` with the same context and the same messages. -/
theorem sys_refines_main {tr : List SysEntry} {s : System} (h : sysMachine.Run tr s) :
    StopInv s ∧ mnldMachine.Run (mainEntries tr) s.ctx ∧ outs (mainEntries tr) = outs tr := by
  induction h with
  | nil => exact ⟨⟨by decide, fun _ => rfl⟩, .nil, rfl⟩
  | @snoc tr s e _ hen ih =>
    obtain ⟨hinv, hrun, houts⟩ := ih
    obtain ⟨hinv', hdone⟩ := hinv.step hen
    refine ⟨hinv', ?_⟩
    rw [mainEntries_snoc, outs_append, outs_append, Transducer.outs_singleton,
      entry_pre, Transducer.entry_event, entry_out, houts]
    cases hm : mainEvent s e with
    | none =>
      obtain ⟨hctx, hout⟩ := sys_step_silent hm
      rw [hctx, hout]
      exact ⟨by simpa using hrun, by simp⟩
    | some m =>
      obtain ⟨hctx, hout⟩ := sys_step_main hm
      rw [hctx, hout]
      exact ⟨hrun.snoc fun hstop => hdone (by rw [hm, hstop]), by simp⟩

/-! ## Safety of the protocol -/

theorem EngineStep.crash_mem {s s' : GpsState} {fl fl' : BitVec 32}
    {msgs : List EngineMsg} (h : EngineStep ev s fl s' fl' msgs) (hc : EngineMsg.crash ∈ msgs) :
    ev = some .stopDone ∧ s ≠ .stopping := by
  have hdel : EngineMsg.crash ∉ deleteCmd fl := by unfold deleteCmd; split <;> simp
  cases h with
  | quiet | wake | halt | restart | sleep => simp at hc
  | run | delete => exact absurd hc hdel
  | abandon => simp [hdel] at hc
  | crash hs => exact ⟨rfl, by rcases hs with rfl | rfl <;> simp⟩

theorem mnld_no_crash {tr : List MnldEntry} {x : MnldContext} (h : mnldMachine.Run tr x) :
    Output.crashToDebug ∉ outs tr := by
  intro hmem
  obtain ⟨y, hy, hout⟩ := mem_flatMap.mp hmem
  obtain ⟨-, hen, heq⟩ := h.mem hy
  rw [heq] at hout
  have hcrash : EngineMsg.crash ∈ engineMsgs (handle y.event ⟨y.pre, []⟩).sent := mem_filterMap.mpr ⟨_, hout, rfl⟩
  obtain ⟨hev, hst⟩ := (handle_engineStep y.pre y.event).crash_mem hcrash
  exact hst (hen (MainEvent.fsm_eq_stopDone hev))

/-- **Safety of the protocol**, in every interleaving: at most one STOP or STOP_DONE is under way, none
    outside STOPPING; the crash branches are not reached; the wakelock, START and STOP messages follow
    `sessions`; and every DELETE_AIDING_DATA comes after a START with no STOP in between. -/
theorem protocol_safe {tr : List SysEntry} {s : System} (h : sysMachine.Run tr s) :
    stopsInFlight s ≤ 1 ∧ (s.ctx.gpsState ≠ .stopping → stopsInFlight s = 0) ∧
    Output.crashToDebug ∉ outs tr ∧
    (∃ w ∈ sessions.matches', marks (engineMsgs (outs tr)) <+: w) ∧
    ∀ l flags r, engineMsgs (outs tr) = l ++ .deleteAidingData flags :: r →
      ∃ l' flags' m, l = l' ++ .start flags' :: m ∧ EngineMsg.stop ∉ m := by
  obtain ⟨hstop, hrun, houts⟩ := sys_refines_main h
  have hdriver := driverInv_run hrun
  rw [houts] at hdriver
  exact ⟨hstop.le_one, hstop.waiting, houts ▸ mnld_no_crash hrun, hdriver.phase.completes, hdriver.deletes⟩

/-- The HAL starts and stops while a spurious START_DONE is under way: one STOP is in flight. -/
theorem protocol_safe_spurious_startDone :
    let es : List SysEvent := [.request (.halGpsStart ⟨false, false⟩), .control true, .startDone 0,
      .startDone 1, .deliver, .request .halGpsStop, .deliver]
    stopsInFlight (sysMachine.exec es).2 = 1 ∧ (sysMachine.exec es).2.ctx.gpsState = .stopping ∧
      ∃ w ∈ sessions.matches', [SessionMark.request, .start, .stop] <+: w := by
  intro es
  have hrun : sysMachine.Run (sysMachine.exec es).1 (sysMachine.exec es).2 := by
    refine sysMachine.run_exec ⟨rfl, ?_, trivial, trivial, ?_, rfl, ?_, trivial⟩
    · exact cons_ne_nil _ _
    · exact cons_ne_nil _ _
    · exact cons_ne_nil _ _
  exact ⟨rfl, rfl, (protocol_safe hrun).2.2.2.1⟩

/-! ## The stops of the clients -/

theorem EngineStep.into_idle {s : GpsState} {fl fl' : BitVec 32} {msgs : List EngineMsg}
    (h : EngineStep ev s fl .idle fl' msgs) : s = .idle ∨ s = .stopping := by
  cases h with
  | quiet => exact .inl rfl
  | sleep => exact .inr rfl
  | crash hs => rcases hs with hs | hs <;> cases hs

/-- The acknowledgements that START_DONE loses are made up for on the way to IDLE. -/
theorem idle_noClosePending {tr : List MnldEntry} {x : MnldContext} (h : mnldMachine.Run tr x) :
    x.gpsState = .idle → NoClosePending x := by
  refine h.invariant (I := fun x => x.gpsState = .idle → NoClosePending x) (fun _ _ => rfl) ?_
  intro x e hidle hen hnext
  have hstep := handle_engineStep x e
  rw [show (handle e ⟨x, []⟩).ctx.gpsState = .idle from hnext] at hstep
  have hbefore := hstep.into_idle
  refine handle_settled (fun hset => hidle ?_) e hen (fun hl => ?_) (.inl hnext)
  · rcases hset with hset | hset
    · exact hset
    · simp [hset] at hbefore
  · simp [hl.1] at hbefore

/-- **No stop is unacknowledged in IDLE**, in every interleaving, those included in which START_DONE loses a close
    acknowledgement: it is sent before the FSM is back in IDLE. -/
theorem idle_stops_acked {tr : List SysEntry} {s : System} (h : sysMachine.Run tr s) (hidle : s.ctx.gpsState = .idle)
    (c : GpsClient) : (s.ctx.clients c).needCloseAck = false ∧ StopsAcked c (mainEntries tr) := by
  have hrun := (sys_refines_main h).2.1
  have hno := idle_noClosePending hrun hidle c
  exact ⟨hno, stopsAcked_run hrun c hno⟩

/-- The HAL stops while the engine starts for agpsd too, and hears of it once agpsd has stopped as well. -/
theorem idle_stops_acked_two :
    let es : List SysEvent := [.request (.halGpsStart ⟨false, false⟩), .request .agpsOpenGpsReq, .request .halGpsStop,
      .startDone 0, .deliver, .request .agpsCloseGpsReq, .control true, .control true, .deliver]
    (sysMachine.exec es).2.ctx.gpsState = .idle ∧ StopsAcked .hal (mainEntries (sysMachine.exec es).1) := by
  intro es
  have hrun : sysMachine.Run (sysMachine.exec es).1 (sysMachine.exec es).2 := by
    refine sysMachine.run_exec ⟨rfl, rfl, rfl, trivial, ?_, rfl, ?_, ?_, ?_, trivial⟩ <;> exact cons_ne_nil _ _
  exact ⟨rfl, (idle_stops_acked hrun rfl .hal).2⟩

end HuaweiY5.Mnld
