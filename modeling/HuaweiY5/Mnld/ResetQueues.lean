import HuaweiY5.Mnld.Protocol

/-!
# `Mnld.ResetQueues` — DELETE_AIDING_DATA and RESET_DONE under way

gps_control answers every DELETE_AIDING_DATA with one RESET_DONE. Both queues are FIFO, so the deletions
sent before a STOP are processed before it and answered before its STOP_DONE (`QueueInv`): once the engine
has been stopped, and until it runs again, no deletion is under way.
-/

namespace HuaweiY5.Mnld

open List
open EngineMsg (command)

def GpsCommand.isDelete : GpsCommand → Bool
  | .deleteAidingData _ => true
  | _ => false

/-- The DELETE_AIDING_DATA commands whose RESET_DONE the main thread has not handled yet. -/
def deletesUnanswered (s : System) : Nat := s.toGps.countP GpsCommand.isDelete + s.toMain.count .resetDone

def NoDelete (q : List GpsCommand) : Prop := ∀ c ∈ q, c.isDelete = false

/-- The order of the queues: deletions are sent before the STOP, and answered before it. -/
structure QueueInv (s : System) : Prop where
  resting : s.ctx.gpsState = .idle ∨ s.ctx.gpsState = .starting → deletesUnanswered s = 0
  stopLast : ∀ l r, s.toGps = l ++ .stop :: r → NoDelete r
  doneLast : ∀ l r, s.toMain = l ++ .stopDone :: r → .resetDone ∉ r ∧ NoDelete s.toGps

theorem noDelete_iff {q : List GpsCommand} : NoDelete q ↔ q.countP GpsCommand.isDelete = 0 := by
  rw [countP_eq_zero]; exact forall₂_congr fun _ _ => by simp

variable {s : System}

theorem deletesUnanswered_eq_zero : deletesUnanswered s = 0 ↔ NoDelete s.toGps ∧ .resetDone ∉ s.toMain := by
  rw [deletesUnanswered, Nat.add_eq_zero_iff, ← noDelete_iff, count_eq_zero]

theorem StopInv.no_stop (h0 : stopsInFlight s = 0) : .stop ∉ s.toGps ∧ .stopDone ∉ s.toMain := by
  rwa [stopsInFlight, Nat.add_eq_zero_iff, count_eq_zero, count_eq_zero] at h0

theorem QueueInv.of_no_stop (hstop : .stop ∉ s.toGps) (hdone : .stopDone ∉ s.toMain)
    (h : s.ctx.gpsState = .idle ∨ s.ctx.gpsState = .starting → deletesUnanswered s = 0) : QueueInv s where
  resting := h
  stopLast := fun l r heq => absurd (heq ▸ by simp) hstop
  doneLast := fun l r heq => absurd (heq ▸ by simp) hdone

theorem QueueInv.of_stop_sent {q : List GpsCommand} (hst : s.ctx.gpsState = .stopping)
    (hgps : s.toGps = q ++ [GpsCommand.stop]) (hq : .stop ∉ q) (hdone : .stopDone ∉ s.toMain) : QueueInv s where
  resting := by simp [hst]
  stopLast := fun l r heq => by
    rcases snoc_eq_append_cons.mp (hgps ▸ heq) with ⟨rfl, -⟩ | ⟨r', -, hl⟩
    · exact fun c hc => absurd hc (by simp)
    · exact absurd (hl ▸ by simp) hq
  doneLast := fun l r heq => absurd (heq ▸ by simp) hdone

theorem QueueInv.main (h : QueueInv s) (hs : StopInv s) {e : MainEvent}
    (hdone : e = .stopDone → s.ctx.gpsState = .stopping ∧ stopsInFlight s = 0 ∧ deletesUnanswered s = 0) :
    QueueInv (s.main e).1 := by
  have hstep := handle_engineStep s.ctx e
  have hst' : (s.main e).1.ctx.gpsState = (handle e ⟨s.ctx, []⟩).ctx.gpsState := rfl
  have hgps : (s.main e).1.toGps = s.toGps ++
      (engineMsgs (handle e ⟨s.ctx, []⟩).sent).filterMap command := rfl
  have hmain : (s.main e).1.toMain = s.toMain := rfl
  generalize (s.main e).1 = s' at hst' hgps hmain ⊢
  generalize engineMsgs (handle e ⟨s.ctx, []⟩).sent = msgs at hstep hgps
  generalize (handle e ⟨s.ctx, []⟩).ctx.gpsState = st' at hstep hst'
  generalize hst : s.ctx.gpsState = st at hstep
  generalize hev : e.fsm = ev at hstep
  generalize s.ctx.deleteAidingFlag ||| e.requested.getD 0 = fl at hstep
  generalize (handle e ⟨s.ctx, []⟩).ctx.deleteAidingFlag = fl' at hstep
  -- outside STOPPING no STOP is under way
  have hclear : st ≠ .stopping → .stop ∉ s.toGps ∧ .stopDone ∉ s.toMain :=
    fun hne => StopInv.no_stop (hs.waiting (hst ▸ hne))
  have hdel : ∀ fl, .stop ∉ (deleteCmd fl).filterMap command := by
    intro fl; unfold deleteCmd; split <;> simp [command]
  cases hstep with
  | quiet =>
    rw [filterMap_nil, append_nil] at hgps
    have hun : deletesUnanswered s' = deletesUnanswered s := by
      simp [deletesUnanswered, hgps, hmain]
    exact ⟨fun hr => hun ▸ h.resting (by rwa [hst, ← hst']), fun l r heq => h.stopLast l r (hgps ▸ heq),
      fun l r heq => hgps ▸ h.doneLast l r (hmain ▸ heq)⟩
  | wake =>
    obtain ⟨h1, h2⟩ := hclear (by simp)
    have hun : deletesUnanswered s' = deletesUnanswered s := by
      simp [deletesUnanswered, hgps, hmain, command, GpsCommand.isDelete]
    exact .of_no_stop (by simp [hgps, h1, command]) (hmain ▸ h2)
      fun _ => hun ▸ h.resting (.inl hst)
  | run | delete =>
    exact .of_no_stop (by simp [hgps, (hclear (by simp)).1, hdel]) (hmain ▸ (hclear (by simp)).2)
      (by simp [hst'])
  | abandon =>
    obtain ⟨h1, h2⟩ := hclear (by simp)
    rw [filterMap_append, ← append_assoc] at hgps
    exact .of_stop_sent hst' hgps (by simp [h1, hdel]) (hmain ▸ h2)
  | halt =>
    obtain ⟨h1, h2⟩ := hclear (by simp)
    exact .of_stop_sent hst' hgps h1 (hmain ▸ h2)
  | restart =>
    obtain ⟨-, h0, hun0⟩ := hdone (MainEvent.fsm_eq_stopDone hev)
    obtain ⟨h1, h2⟩ := StopInv.no_stop h0
    have hun : deletesUnanswered s' = deletesUnanswered s := by
      simp [deletesUnanswered, hgps, hmain, command, GpsCommand.isDelete]
    exact .of_no_stop (by simp [hgps, h1, command]) (hmain ▸ h2) fun _ => hun.trans hun0
  | sleep =>
    obtain ⟨-, h0, hun0⟩ := hdone (MainEvent.fsm_eq_stopDone hev)
    obtain ⟨h1, h2⟩ := StopInv.no_stop h0
    have hun : deletesUnanswered s' = deletesUnanswered s := by
      simp [deletesUnanswered, hgps, hmain, command]
    exact .of_no_stop (by simp [hgps, h1, command]) (hmain ▸ h2) fun _ => hun.trans hun0
  | crash hcr =>
    obtain ⟨hstop, -⟩ := hdone (MainEvent.fsm_eq_stopDone hev)
    rw [hst] at hstop
    rcases hcr with rfl | rfl <;> cases hstop

theorem QueueInv.take (h : QueueInv s) {m : Gps2Main} {rest : List Gps2Main} (hq : s.toMain = m :: rest) :
    QueueInv { s with toMain := rest } ∧ (m = .stopDone → deletesUnanswered { s with toMain := rest } = 0) := by
  refine ⟨⟨fun hr => ?_, h.stopLast, fun l r heq => ?_⟩, fun hm => ?_⟩
  · obtain ⟨h1, h2⟩ := deletesUnanswered_eq_zero.mp (h.resting hr)
    exact deletesUnanswered_eq_zero.mpr ⟨h1, fun hmem => h2 (hq ▸ mem_cons_of_mem _ hmem)⟩
  · exact h.doneLast (m :: l) r (by rw [hq, show rest = _ from heq]; rfl)
  · obtain ⟨h1, h2⟩ := h.doneLast [] rest (by rw [hq, hm]; rfl)
    exact deletesUnanswered_eq_zero.mpr ⟨h2, h1⟩

theorem control_deletesUnanswered {c : GpsCommand} {rest : List GpsCommand} (hq : s.toGps = c :: rest)
    (stopped : Bool) : deletesUnanswered { s with toGps := rest, toMain := s.toMain ++ gpsControlEventHdlr stopped c } =
      deletesUnanswered s := by
  have hans : (gpsControlEventHdlr stopped c).count .resetDone = if c.isDelete then 1 else 0 := by
    cases c with
    | start | deleteAidingData | nmeaDataTimeout => rfl
    | stop => cases stopped <;> rfl
  simp only [deletesUnanswered, hq, countP_cons, count_append]
  omega

theorem gpsControlEventHdlr_cases (stopped : Bool) (c : GpsCommand) :
    (c = .stop ∧ gpsControlEventHdlr stopped c = [.stopDone]) ∨
    (c.isDelete = true ∧ gpsControlEventHdlr stopped c = [.resetDone]) ∨
    gpsControlEventHdlr stopped c = [] := by
  cases c with
  | start | nmeaDataTimeout => exact .inr (.inr rfl)
  | deleteAidingData => exact .inr (.inl ⟨rfl, rfl⟩)
  | stop =>
    cases stopped with
    | true => exact .inl ⟨rfl, rfl⟩
    | false => exact .inr (.inr rfl)

theorem QueueInv.control (h : QueueInv s) (hs : StopInv s) {c : GpsCommand} {rest : List GpsCommand}
    (hq : s.toGps = c :: rest) (stopped : Bool) :
    QueueInv { s with toGps := rest, toMain := s.toMain ++ gpsControlEventHdlr stopped c } := by
  have hrest : NoDelete s.toGps → NoDelete rest := fun hn c' hc' => hn c' (hq ▸ mem_cons_of_mem _ hc')
  refine ⟨fun hr => (control_deletesUnanswered hq stopped).trans (h.resting hr), fun l r heq => ?_, fun l r heq => ?_⟩
  · exact h.stopLast (c :: l) r (by rw [hq, show rest = _ from heq]; rfl)
  · rcases gpsControlEventHdlr_cases stopped c with ⟨hc, hans⟩ | ⟨hc, hans⟩ | hans
    · rw [hans] at heq
      rcases snoc_eq_append_cons.mp heq with ⟨rfl, -⟩ | ⟨r', -, hl⟩
      · exact ⟨by simp, h.stopLast [] rest (by rw [hq, hc]; rfl)⟩
      · -- a STOP_DONE besides the STOP
        have hle := hs.le_one
        rw [stopsInFlight, hq, hc, hl, count_cons_self, count_append, count_cons_self] at hle
        omega
    · rw [hans] at heq
      rcases snoc_eq_append_cons.mp heq with ⟨-, -, hlast⟩ | ⟨r', -, hl⟩
      · cases hlast
      · -- a deletion after the STOP_DONE
        have hno := (h.doneLast l r' hl).2 c (by rw [hq]; simp)
        rw [hc] at hno
        cases hno
    · rw [hans, append_nil] at heq
      exact ⟨(h.doneLast l r heq).1, hrest (h.doneLast l r heq).2⟩

/-- **Step lemma.** -/
theorem QueueInv.step (h : QueueInv s) (hs : StopInv s) {e : SysEvent} (hen : sysMachine.enabled s e) :
    QueueInv (sysMachine.next s e) := by
  have hstep := sys_step_cases hen
  generalize sysMachine.next s e = s' at hstep
  cases hstep with
  | @request e hcl => exact h.main hs (by rintro rfl; exact Bool.noConfusion hcl)
  | @deliver m rest hq =>
    obtain ⟨hrest, hun⟩ := h.take hq
    obtain ⟨hsrest, hdone⟩ := hs.take hq
    refine hrest.main hsrest fun he => ?_
    have hm := Gps2Main.event_eq_stopDone he
    exact ⟨(hdone hm).1, (hdone hm).2, hun hm⟩
  | control hq => exact h.control hs hq _
  | @post e m hpost =>
    obtain ⟨hne, hne'⟩ := SysEvent.posts_ne hpost
    refine ⟨fun hr => ?_, h.stopLast, fun l r heq => ?_⟩
    · obtain ⟨h1, h2⟩ := deletesUnanswered_eq_zero.mp (h.resting hr)
      exact deletesUnanswered_eq_zero.mpr ⟨h1, by simp [h2, hne'.symm]⟩
    · rcases snoc_eq_append_cons.mp heq with ⟨-, -, hlast⟩ | ⟨r', rfl, hl⟩
      · exact absurd hlast hne
      · exact ⟨by simp [(h.doneLast l r' hl).1, hne'.symm], (h.doneLast l r' hl).2⟩
  | monitor =>
    have hsnoc : ∀ q, NoDelete q → NoDelete (q ++ [GpsCommand.nmeaDataTimeout]) := fun q hn c hc => by
      rcases mem_append.mp hc with hc | hc
      · exact hn c hc
      · rw [mem_singleton.mp hc]; rfl
    refine ⟨fun hr => ?_, fun l r heq => ?_, fun l r heq => ?_⟩
    · obtain ⟨h1, h2⟩ := deletesUnanswered_eq_zero.mp (h.resting hr)
      exact deletesUnanswered_eq_zero.mpr ⟨hsnoc _ h1, h2⟩
    · rcases snoc_eq_append_cons.mp heq with ⟨-, -, hlast⟩ | ⟨r', rfl, hl⟩
      · cases hlast
      · exact hsnoc _ (h.stopLast l r' hl)
    · exact ⟨(h.doneLast l r heq).1, hsnoc _ (h.doneLast l r heq).2⟩

/-- **Run lemma.** -/
theorem queueInv_run {tr : List SysEntry} (h : sysMachine.Run tr s) : QueueInv s := by
  induction h with
  | nil => exact .of_no_stop (by simp [sysMachine]) (by simp [sysMachine]) fun _ => rfl
  | snoc hrun hen ih => exact ih.step (sys_refines_main hrun).1 hen

end HuaweiY5.Mnld
