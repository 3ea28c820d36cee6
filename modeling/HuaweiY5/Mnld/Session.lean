import HuaweiY5.Mnld.CloseAck
import HuaweiY5.Mnld.Engine
import Mathlib.Computability.RegularExpressions

/-!
# `Mnld.Session` — the order of the messages to the engine

Seen from the engine, the main thread works in **sessions**: it requests the wakelock, starts and stops the
engine one or more times, and releases the wakelock. `sessions` is that protocol as a regular expression.
`DriverInv` says which part of it has been sent in each state of the driver; it is kept by each of the
driver's transitions, so it holds after every run of the main thread.
-/

namespace HuaweiY5.Mnld

open List RegularExpression

inductive SessionMark
  | request
  | start
  | stop
  | release
deriving DecidableEq

/-- The mark an engine message is; deletions happen inside a session and are looked at separately. -/
def EngineMsg.mark : EngineMsg → Option SessionMark
  | .requestWakelock => some .request
  | .start _ => some .start
  | .stop => some .stop
  | .releaseWakelock => some .release
  | .deleteAidingData _ | .crash => none

def marks (msgs : List EngineMsg) : List SessionMark := msgs.filterMap EngineMsg.mark

@[simp] theorem marks_append (msgs msgs' : List EngineMsg) :
    marks (msgs ++ msgs') = marks msgs ++ marks msgs' := filterMap_append

@[simp] theorem marks_deleteCmd (fl : BitVec 32) : marks (deleteCmd fl) = [] := by
  unfold deleteCmd; split <;> rfl

def cycle : RegularExpression SessionMark := char .start * char .stop

def session : RegularExpression SessionMark := char .request * (cycle * cycle.star) * char .release

/-- **The protocol**: `(request (START STOP)+ release)*`. -/
def sessions : RegularExpression SessionMark := session.star

/-! ## What has been sent in each state -/

/-- Whole sessions, then a session with some finished cycles. -/
def opened : Language SessionMark := sessions.matches' * (char .request).matches' * cycle.star.matches'

def Phase : GpsState → List SessionMark → Prop
  | .idle, l => l ∈ sessions.matches'
  | .starting, l | .started, l => l ∈ opened * (char .start).matches'
  | .stopping, l => l ∈ opened * cycle.matches'

theorem char_mem (c : SessionMark) : [c] ∈ (char c).matches' := by
  exact Set.mem_singleton _

variable {l : List SessionMark} {msgs : List EngineMsg}

theorem cycle_closed (h : l ∈ opened * cycle.matches') : l ∈ opened := by
  have hle : opened * cycle.matches' ≤ opened := by
    unfold opened
    rw [mul_assoc]
    exact mul_le_mul_right kstar_mul_le_kstar _
  exact hle h

theorem session_closed (h : l ∈ opened * cycle.matches') : l ++ [SessionMark.release] ∈ sessions.matches' := by
  have hcomm : cycle.star.matches' * cycle.matches' = cycle.matches' * cycle.star.matches' := by
    exact Language.mul_self_kstar_comm _
  have heq : opened * cycle.matches' * (char SessionMark.release).matches' =
      sessions.matches' * session.matches' := by
    unfold opened session
    rw [matches'_mul, matches'_mul, matches'_mul, ← hcomm]
    simp [mul_assoc]
  have hle : sessions.matches' * session.matches' ≤ sessions.matches' := by
    exact kstar_mul_le_kstar
  exact hle (heq ▸ Language.append_mem_mul h (char_mem .release))

theorem Phase.wake (h : Phase .idle l) : Phase .starting (l ++ [SessionMark.request, SessionMark.start]) := by
  have hopen : l ++ [SessionMark.request] ++ [] ∈ opened :=
    Language.append_mem_mul (Language.append_mem_mul h (char_mem .request)) (Language.nil_mem_kstar _)
  have hmem := Language.append_mem_mul hopen (char_mem .start)
  rwa [append_nil, append_assoc] at hmem

theorem Phase.halt (h : Phase .started l) : Phase .stopping (l ++ [SessionMark.stop]) := by
  have hmem := Language.append_mem_mul h (char_mem .stop)
  rwa [mul_assoc] at hmem

theorem Phase.restart (h : Phase .stopping l) : Phase .starting (l ++ [SessionMark.start]) :=
  Language.append_mem_mul (cycle_closed h) (char_mem .start)

theorem Phase.sleep (h : Phase .stopping l) : Phase .idle (l ++ [SessionMark.release]) := session_closed h

theorem Phase.completes {s : GpsState} (h : Phase s l) : ∃ w ∈ sessions.matches', l <+: w := by
  cases s with
  | idle => exact ⟨l, h, prefix_refl l⟩
  | starting | started =>
    exact ⟨_, (Phase.halt h).sleep, (prefix_append l _).trans (prefix_append _ _)⟩
  | stopping => exact ⟨_, h.sleep, prefix_append l _⟩

/-! ## Deletions are sent while the engine runs -/

/-- The last of the START and STOP commands is a START. -/
def Running (msgs : List EngineMsg) : Prop := ∃ l flags r, msgs = l ++ .start flags :: r ∧ EngineMsg.stop ∉ r

/-- Every deletion was sent between a START and the following STOP. -/
def DeletesInside (msgs : List EngineMsg) : Prop := ∀ l flags r, msgs = l ++ .deleteAidingData flags :: r → Running l

theorem Running.of_start (msgs : List EngineMsg) (flags : BitVec 32) : Running (msgs ++ [EngineMsg.start flags]) :=
  ⟨msgs, flags, [], rfl, by simp⟩

theorem Running.append {msgs' : List EngineMsg} (h : Running msgs) (hs : EngineMsg.stop ∉ msgs') :
    Running (msgs ++ msgs') := by
  obtain ⟨l, flags, r, rfl, hr⟩ := h
  exact ⟨l, flags, r ++ msgs', by simp, by simp [hr, hs]⟩

theorem DeletesInside.snoc {m : EngineMsg} (h : DeletesInside msgs)
    (hm : ∀ flags, m = .deleteAidingData flags → Running msgs) : DeletesInside (msgs ++ [m]) := by
  intro l flags r heq
  rcases snoc_eq_append_cons.mp heq with ⟨-, rfl, hlast⟩ | ⟨r', -, hl⟩
  · exact hm flags hlast
  · exact h l flags r' hl

theorem DeletesInside.deleteCmd (h : DeletesInside msgs) (hr : Running msgs) (fl : BitVec 32) :
    DeletesInside (msgs ++ deleteCmd fl) := by
  unfold Mnld.deleteCmd
  split
  · exact h.snoc fun _ _ => hr
  · rwa [append_nil]

theorem stop_not_mem_deleteCmd (fl : BitVec 32) : EngineMsg.stop ∉ deleteCmd fl := by
  unfold deleteCmd; split <;> simp

/-- What the driver has sent when it is in state `s`. -/
structure DriverInv (s : GpsState) (msgs : List EngineMsg) : Prop where
  phase : Phase s (marks msgs)
  running : s = .starting ∨ s = .started → Running msgs
  deletes : DeletesInside msgs

theorem driverInv_init : DriverInv .idle [] where
  phase := Language.nil_mem_kstar _
  running := by simp
  deletes := by intro l flags r h; simp at h

/-- **Step lemma**: every transition of the driver keeps it. -/
theorem EngineStep.driverInv {ev : Option GpsEvent} {s s' : GpsState} {fl fl' : BitVec 32} {new : List EngineMsg}
    (h : EngineStep ev s fl s' fl' new) (hi : DriverInv s msgs) : DriverInv s' (msgs ++ new) := by
  cases h with
  | quiet => rwa [append_nil]
  | wake =>
    refine ⟨by rw [marks_append]; exact hi.phase.wake, fun _ => ?_, ?_⟩
    · rw [append_cons]; exact .of_start _ _
    · rw [append_cons]
      exact (hi.deletes.snoc (by simp)).snoc (by simp)
  | run =>
    have hr := hi.running (.inl rfl)
    exact ⟨by rw [marks_append, marks_deleteCmd, append_nil]; exact hi.phase,
      fun _ => hr.append (stop_not_mem_deleteCmd _), hi.deletes.deleteCmd hr _⟩
  | abandon =>
    have hr := hi.running (.inl rfl)
    refine ⟨?_, by simp, ?_⟩
    · rw [marks_append, marks_append, marks_deleteCmd]
      exact Phase.halt hi.phase
    · rw [← append_assoc]
      exact (hi.deletes.deleteCmd hr _).snoc (by simp)
  | delete =>
    have hr := hi.running (.inr rfl)
    exact ⟨by rw [marks_append, marks_deleteCmd, append_nil]; exact hi.phase,
      fun _ => hr.append (stop_not_mem_deleteCmd _), hi.deletes.deleteCmd hr _⟩
  | halt => exact ⟨by rw [marks_append]; exact hi.phase.halt, by simp, hi.deletes.snoc (by simp)⟩
  | restart =>
    exact ⟨by rw [marks_append]; exact hi.phase.restart, fun _ => .of_start _ _, hi.deletes.snoc (by simp)⟩
  | sleep => exact ⟨by rw [marks_append]; exact hi.phase.sleep, by simp, hi.deletes.snoc (by simp)⟩
  | crash =>
    exact ⟨by rw [marks_append]; exact (append_nil (marks msgs)).symm ▸ hi.phase,
      fun hs => (hi.running hs).append (by simp), hi.deletes.snoc (by simp)⟩

/-- **Run lemma**: after every run of the main thread. -/
theorem driverInv_run {tr : List MnldEntry} {x : MnldContext} (h : mnldMachine.Run tr x) :
    DriverInv x.gpsState (engineMsgs (Transducer.outs tr)) := by
  induction h with
  | nil => exact driverInv_init
  | snoc _ _ ih =>
    rw [Transducer.outs_append, Transducer.outs_singleton, engineMsgs_append]
    exact (handle_engineStep _ _).driverInv ih

end HuaweiY5.Mnld
