import HuaweiY5.GpsHal.System

/-!
# `GpsHal.Resync` — does a restarted mnld learn what the framework wants?

Once everything under way is finished and delivered, mnld's HAL client should use GPS exactly if the last
framework call was `gpsinf_start`. The value mnld is heading for is `effective`: its `gps_used` after all the
messages in its socket. `HalInv` says that after a start this value is right or a reboot message will correct
it, in every run; `Sound` says the same after a stop, and there the worker can be in the way: if it has read
START when the framework stops, its own START may arrive last. `resync_iff_not_hasty` shows that this is the
only thing that goes wrong.
-/

namespace HuaweiY5.GpsHal

open List Option Mnld

open HalMsg (write)

/-! ## The property -/

def HalEvent.call? : HalEvent → Option Bool
  | .call start => some start
  | .fwSend | .workerTake | .workerRead | .workerSend | .deliver _ | .mnld _ | .restart _ => none

def lastCallStart (tr : List HalEntry) : Bool := (tr.filterMap fun y => y.event.call?).getLast? == some true

def HalEvent.finishes : HalEvent → Bool
  | .fwSend | .workerTake | .workerRead | .workerSend | .deliver _ => true
  | .call _ | .mnld _ | .restart _ => false

/-- `s'` comes out of `s` when what is under way goes on, in some interleaving. -/
def Completion : HalSystem → HalSystem → Prop :=
  Relation.ReflTransGen fun s s' => ∃ e : HalEvent, e.finishes = true ∧ s.enabled e ∧ s' = s.step e

structure Quiescent (s : HalSystem) : Prop where
  fw : s.fw = none
  worker : s.worker = .idle
  toHal : s.toHal = 0
  toMnld : s.toMnld = []

def WorkerPc.pending : WorkerPc → List HalMsg
  | .send msg rest => msg :: rest
  | .idle | .readIntent => []

variable (s : HalSystem)

/-- The framework stops while the worker, which has read the intent START, has not yet sent its START. -/
def Hasty (e : HalEvent) : Prop := e = .call false ∧ .gpsStart ∈ s.worker.pending
  deriving Decidable

/-! ## What a list of messages makes of `gps_used` -/

theorem foldl_write_cases (msgs : List HalMsg) :
    (∀ v, msgs.foldl write v = v) ∨ ∃ b, ∀ v, msgs.foldl write v = b := by
  induction msgs with
  | nil => exact .inl fun _ => rfl
  | cons msg msgs ih =>
    rcases ih with hid | ⟨b, hb⟩
    · cases msg with
      | gpsInit => exact .inl hid
      | gpsStart => exact .inr ⟨true, fun _ => hid true⟩
      | gpsStop => exact .inr ⟨false, fun _ => hid false⟩
    · exact .inr ⟨b, fun v => hb _⟩

theorem foldl_write_quiet {msgs : List HalMsg} (hstart : .gpsStart ∉ msgs) (hstop : .gpsStop ∉ msgs) (v : Bool) :
    msgs.foldl write v = v := by
  induction msgs generalizing v with
  | nil => rfl
  | cons msg msgs ih =>
    rw [mem_cons, not_or] at hstart hstop
    cases msg with
    | gpsInit => exact ih hstart.2 hstop.2 v
    | gpsStart => exact absurd rfl hstart.1
    | gpsStop => exact absurd rfl hstop.1

theorem foldl_write_start {msgs : List HalMsg} (hstart : .gpsStart ∈ msgs) (hstop : .gpsStop ∉ msgs) (v : Bool) :
    msgs.foldl write v = true := by
  induction msgs generalizing v with
  | nil => cases hstart
  | cons msg msgs ih =>
    rw [mem_cons, not_or] at hstop
    by_cases hrest : .gpsStart ∈ msgs
    · exact ih hrest hstop.2 _
    · obtain rfl := (mem_cons.mp hstart).resolve_right hrest
      exact foldl_write_quiet hrest hstop.2 true

/-! ## The abstract system

What matters about the system is the intent, where the two HAL threads are, the reboot messages waiting, and
the value mnld is heading for. `Move` says what each step does to these five. -/

structure View where
  intent : GpshalState
  fw : Option HalMsg
  worker : WorkerPc
  toHal : Nat
  value : Bool

/-- mnld's `gps_used` once it has handled the messages in its socket. -/
def HalSystem.effective : Bool := s.toMnld.foldl write s.halUsed

def HalSystem.view : View := ⟨s.hal.gpsStateIntent, s.fw, s.worker, s.toHal, s.effective⟩

open HalSystem (effective view step enabled)

/-- **The moves of the abstract system.** Delivering a message is none of them: the value already counts it. -/
inductive Move : HalEvent → View → View → Prop
  | call {b : Bool} {v : View} :
      Move (.call b) v { v with intent := callIntent b, fw := some (callMsg b) }
  | fwSend {v : View} {msg : HalMsg} :
      v.fw = some msg → Move .fwSend v { v with fw := none, value := msg.write v.value }
  | take {v : View} :
      v.worker = .idle → Move .workerTake v { v with toHal := v.toHal - 1, worker := .readIntent }
  | read {v : View} :
      v.worker = .readIntent → Move .workerRead v { v with worker := .sending (updateMnldReboot v.intent) }
  | send {v : View} {msg : HalMsg} {rest : List HalMsg} :
      v.worker = .send msg rest → Move .workerSend v { v with worker := .sending rest, value := msg.write v.value }
  | keep {e : HalEvent} {v : View} {n : Nat} : e.call? = none → Move e v { v with toHal := v.toHal + n }
  | clear {e : HalEvent} {v : View} {n : Nat} :
      e.call? = none → 0 < n → Move e v { v with toHal := v.toHal + n, value := false }

def HalSystem.hasResources : Prop := GpshalState.resource.rank ≤ s.hal.gpsState.rank

theorem reached_rank (msg : HalMsg) : GpshalState.resource.rank ≤ msg.reached.rank := by
  cases msg <;> decide

variable {s : HalSystem}

theorem gpshal2mnl_eq (h : s.hasResources) (msg : HalMsg) :
    s.gpshal2mnl msg = { s with toMnld := s.toMnld ++ [msg], hal.gpsState := msg.reached } := if_pos h

theorem move_cleared {e : HalEvent} (he : e.call? = none) {x : MnldContext} {n : Nat} (lost : Nat)
    (hx : (x.clients .hal).gpsUsed = false) (hn : 0 < n) :
    Move e s.view { s with mnld := x, toMnld := s.toMnld.drop lost, toHal := s.toHal + n }.view := by
  have hcut : s.effective = (s.toMnld.drop lost).foldl write
      ((s.toMnld.take lost).foldl write s.halUsed) := by
    rw [← foldl_append, take_append_drop]; rfl
  have hvalue : { s with mnld := x, toMnld := s.toMnld.drop lost, toHal := s.toHal + n }.effective =
      (s.toMnld.drop lost).foldl write false := congrArg (List.foldl write · _) hx
  rcases foldl_write_cases (s.toMnld.drop lost) with hid | ⟨b, hb⟩
  · rw [hid] at hvalue
    simp only [view, hvalue]
    exact .clear (v := s.view) he hn
  · -- a message that was not lost decides the value, as before
    have hsame : (s.toMnld.drop lost).foldl write false = s.effective := by rw [hcut, hb, hb]
    simp only [view, hvalue, hsame]
    exact .keep (v := s.view) he

theorem view_handle {e : MainEvent} (he : fromHal e = false) : Move (.mnld e) s.view (s.handle e).view := by
  rcases handle_other_halUsed s.mnld he with hused | ⟨hused, hn⟩
  · have hvalue : (s.handle e).effective = s.effective := congrArg (List.foldl write · _) hused
    simp only [view, hvalue]
    exact .keep (v := s.view) rfl
  · exact move_cleared rfl 0 hused hn

variable {msg : HalMsg}

theorem deliver_eq {rest : List HalMsg} (h : s.toMnld = msg :: rest) (epo : EpoEnv) :
    ∃ x, s.step (.deliver epo) = { s with toMnld := rest, mnld := x } ∧
      (x.clients .hal).gpsUsed = msg.write s.halUsed := by
  refine ⟨(handle (msg.event epo) ⟨s.mnld, []⟩).ctx, ?_, handle_msg_halUsed _ _ _⟩
  simp [step, h, HalSystem.handle, handle_msg_count_reboot]

theorem view_deliver {rest : List HalMsg} (h : s.toMnld = msg :: rest) (epo : EpoEnv) :
    (s.step (.deliver epo)).view = s.view := by
  obtain ⟨x, hx, hused⟩ := deliver_eq h epo
  have hvalue : s.effective = rest.foldl write (x.clients .hal).gpsUsed := by
    rw [effective, h, hused]; rfl
  rw [hx, view, view, hvalue]
  rfl

theorem view_gpshal2mnl (hres : s.hasResources) (msg : HalMsg) :
    (s.gpshal2mnl msg).view = { s.view with value := msg.write s.view.value } ∧ (s.gpshal2mnl msg).hasResources := by
  rw [gpshal2mnl_eq hres]
  refine ⟨?_, reached_rank msg⟩
  simp only [view, effective, foldl_append]
  rfl

theorem view_fwSend (hres : s.hasResources) (hfw : s.fw = some msg) :
    (s.step .fwSend).view = { s.view with fw := none, value := msg.write s.view.value } ∧
      (s.step .fwSend).hasResources := by
  obtain ⟨hview, hres'⟩ := view_gpshal2mnl hres msg
  have hstep : s.step .fwSend = { s.gpshal2mnl msg with fw := none } := by simp [step, hfw]
  rw [hstep]
  exact ⟨congrArg (fun v : View => { v with fw := none }) hview, hres'⟩

theorem view_workerSend (hres : s.hasResources) {rest : List HalMsg} (hw : s.worker = .send msg rest) :
    (s.step .workerSend).view = { s.view with worker := .sending rest, value := msg.write s.view.value } ∧
      (s.step .workerSend).hasResources := by
  obtain ⟨hview, hres'⟩ := view_gpshal2mnl hres msg
  have hstep : s.step .workerSend = { s.gpshal2mnl msg with worker := .sending rest } := by
    simp [step, hw]
  rw [hstep]
  exact ⟨congrArg (fun v : View => { v with worker := .sending rest }) hview, hres'⟩

/-- **Refinement**: every step of the system is a move, and the HAL keeps its resources. -/
theorem step_move {e : HalEvent} (hres : s.hasResources) (hen : s.enabled e) :
    Move e s.view (s.step e).view ∧ (s.step e).hasResources := by
  cases e with
  | call b => exact ⟨.call, hres⟩
  | fwSend =>
    obtain ⟨msg, hfw⟩ := ne_none_iff_exists'.mp hen
    obtain ⟨hview, hres'⟩ := view_fwSend hres hfw
    exact ⟨hview ▸ .fwSend hfw, hres'⟩
  | workerTake => exact ⟨.take hen.1, hres⟩
  | workerRead => exact ⟨.read hen, hres⟩
  | workerSend =>
    cases hw : s.worker with
    | idle => exact absurd hw hen.1
    | readIntent => exact absurd hw hen.2
    | send msg rest =>
      obtain ⟨hview, hres'⟩ := view_workerSend hres hw
      exact ⟨hview ▸ .send hw, hres'⟩
  | deliver epo =>
    obtain ⟨msg, rest, hq⟩ := exists_cons_of_ne_nil hen
    obtain ⟨x, hx, -⟩ := deliver_eq hq epo
    exact ⟨view_deliver hq epo ▸ .keep (n := 0) rfl, hx ▸ hres⟩
  | mnld e => exact ⟨view_handle hen.1, hres⟩
  | restart lost => exact ⟨move_cleared (x := .zero) rfl lost rfl Nat.one_pos, hres⟩

/-! ## What holds in every run, and what only without haste -/

@[simp] theorem pending_sending (msgs : List HalMsg) : (WorkerPc.sending msgs).pending = msgs := by
  cases msgs <;> rfl

theorem gpsStart_mem_updateMnldReboot (st : GpshalState) : .gpsStart ∈ updateMnldReboot st ↔ st = .start := by
  cases st <;> simp [updateMnldReboot]

theorem gpsStop_not_mem_updateMnldReboot (st : GpshalState) : .gpsStop ∉ updateMnldReboot st := by
  cases st <;> simp [updateMnldReboot]

theorem updateMnldReboot_quiet {st : GpshalState} (h : st ≠ .start) (used : Bool) :
    (updateMnldReboot st).foldl write used = used :=
  foldl_write_quiet (fun hmem => h ((gpsStart_mem_updateMnldReboot st).mp hmem))
    (gpsStop_not_mem_updateMnldReboot st) used

/-- What holds whenever the last framework call was a start, or not (`last`). -/
structure HalInv (last : Bool) (v : View) : Prop where
  intent : v.intent = .start ↔ last = true
  fw : ∀ msg, v.fw = some msg → msg = callMsg last
  noStop : .gpsStop ∉ v.worker.pending
  running : last = true → v.fw = none →
    v.value = true ∨ 0 < v.toHal ∨ v.worker = .readIntent ∨ .gpsStart ∈ v.worker.pending

/-- After a stop the worker has no START left to send, and mnld is heading for *not used*. -/
def Sound (last : Bool) (v : View) : Prop :=
  last = false → .gpsStart ∉ v.worker.pending ∧ (v.fw = none → v.value = false)

variable {last : Bool} {v v' : View} {e : HalEvent}

theorem halInv_move (h : HalInv last v) (hm : Move e v v') : HalInv (e.call?.getD last) v' := by
  cases hm with
  | @call b _ =>
    refine ⟨?_, fun msg hmsg => (some.inj hmsg).symm, h.noStop, fun _ hfw => ?_⟩
    · cases b <;> simp [callIntent, HalEvent.call?]
    · cases hfw
  | @fwSend _ msg hfw =>
    refine ⟨h.intent, fun _ hmsg => absurd hmsg (some_ne_none _).symm, h.noStop, fun hl _ => .inl ?_⟩
    obtain rfl := h.fw msg hfw
    change last = true at hl
    rw [hl]; rfl
  | take _ => exact ⟨h.intent, h.fw, by simp [WorkerPc.pending], fun _ _ => .inr (.inr (.inl rfl))⟩
  | read _ =>
    refine ⟨h.intent, h.fw, ?_, fun hl _ => .inr (.inr (.inr ?_))⟩
    · simpa using gpsStop_not_mem_updateMnldReboot _
    · simpa using (gpsStart_mem_updateMnldReboot _).mpr (h.intent.mpr hl)
  | @send _ msg rest hw =>
    have hpend : v.worker.pending = msg :: rest := by rw [hw]; rfl
    have hstop := h.noStop
    rw [hpend, mem_cons, not_or] at hstop
    refine ⟨h.intent, h.fw, by simpa using hstop.2, fun hl hfw => ?_⟩
    have hrun := h.running hl hfw
    rw [hpend] at hrun
    cases msg with
    | gpsInit =>
      rcases hrun with hval | hreb | hread | hmem
      · exact .inl hval
      · exact .inr (.inl hreb)
      · exact absurd (hw.symm.trans hread) WorkerPc.noConfusion
      · exact .inr (.inr (.inr (by simpa using hmem)))
    | gpsStart => exact .inl rfl
    | gpsStop => exact absurd rfl hstop.1
  | keep he =>
    rw [he]
    exact ⟨h.intent, h.fw, h.noStop, fun hl hfw => (h.running hl hfw).imp_right
      (.imp_left (Nat.add_pos_left · _))⟩
  | clear he hn =>
    rw [he]
    exact ⟨h.intent, h.fw, h.noStop, fun _ _ => .inr (.inl (Nat.add_pos_right _ hn))⟩

/-- **Only haste makes a system unsound.** -/
theorem sound_move_iff (h : HalInv last s.view) (hs : Sound last s.view) (hm : Move e s.view v') :
    Sound (e.call?.getD last) v' ↔ ¬ Hasty s e := by
  -- a step that is no framework call is never hasty
  have hcalm : e.call? = none → ¬ Hasty s e := by
    rintro he ⟨rfl, -⟩
    cases he
  generalize hv : s.view = v at h hs hm
  cases hm with
  | @call b _ =>
    cases b with
    | true => exact iff_of_true (fun hl => absurd hl (by simp [HalEvent.call?])) fun hh => by cases hh.1
    | false =>
      subst hv
      constructor
      · rintro hsound ⟨-, hmem⟩
        exact (hsound rfl).1 hmem
      · intro hcalm _
        exact ⟨fun hmem => hcalm ⟨rfl, hmem⟩, fun hfw => absurd hfw (some_ne_none _)⟩
  | @fwSend _ msg hfw =>
    refine iff_of_true (fun hl => ⟨(hs hl).1, fun _ => ?_⟩) (hcalm rfl)
    obtain rfl := h.fw msg hfw
    change last = false at hl
    rw [hl]; rfl
  | take hw => exact iff_of_true (fun hl => ⟨by simp [WorkerPc.pending], (hs hl).2⟩) (hcalm rfl)
  | read hw =>
    refine iff_of_true (fun hl => ⟨?_, (hs hl).2⟩) (hcalm rfl)
    have hne : v.intent ≠ .start := fun hi => by
      rw [h.intent.mp hi] at hl
      exact absurd hl (by decide)
    simpa [gpsStart_mem_updateMnldReboot] using hne
  | @send _ msg rest hw =>
    have hpend : v.worker.pending = msg :: rest := by rw [hw]; rfl
    refine iff_of_true (fun hl => ?_) (hcalm rfl)
    have hstart := (hs hl).1
    have hstop := h.noStop
    rw [hpend, mem_cons, not_or] at hstart hstop
    refine ⟨by simpa using hstart.2, fun hfw => ?_⟩
    cases msg with
    | gpsInit => exact (hs hl).2 hfw
    | gpsStart => exact absurd rfl hstart.1
    | gpsStop => rfl
  | keep he => rw [he]; exact iff_of_true hs (hcalm he)
  | clear he hn => rw [he]; exact iff_of_true (fun hl => ⟨(hs hl).1, fun _ => rfl⟩) (hcalm he)

/-! ## Completions -/

variable {s' : HalSystem}

theorem HalEvent.call?_of_finishes (h : e.finishes = true) : e.call? = none := by
  cases e <;> first | rfl | cases h

theorem completion_inv (hres : s.hasResources) (h : HalInv last s.view) (hc : Completion s s') :
    s'.hasResources ∧ HalInv last s'.view ∧ (Sound last s.view → Sound last s'.view) := by
  induction hc with
  | refl => exact ⟨hres, h, id⟩
  | tail _ hstep ih =>
    obtain ⟨hres', h', hsound⟩ := ih
    obtain ⟨e, hfin, hen, rfl⟩ := hstep
    have hcall := HalEvent.call?_of_finishes hfin
    obtain ⟨hm, hres''⟩ := step_move hres' hen
    have h'' := halInv_move h' hm
    rw [hcall] at h''
    refine ⟨hres'', h'', fun hs => ?_⟩
    have hs'' := (sound_move_iff h' (hsound hs) hm).mpr (by
      rintro ⟨rfl, -⟩
      exact absurd hcall (some_ne_none _))
    rwa [hcall] at hs''

theorem Quiescent.effective (h : Quiescent s) : s.effective = s.halUsed := by
  rw [HalSystem.effective, h.toMnld]; rfl

theorem completion_right (hres : s.hasResources) (h : HalInv last s.view) (hs : Sound last s.view)
    (hc : Completion s s') (hq : Quiescent s') : s'.halUsed = last := by
  obtain ⟨-, h', hs'⟩ := completion_inv hres h hc
  rw [← hq.effective]
  cases last with
  | false => exact (hs' hs rfl).2 hq.fw
  | true =>
    rcases h'.running rfl hq.fw with hval | hreb | hread | hmem
    · exact hval
    · exact absurd hreb (by simp [view, hq.toHal])
    · exact absurd (hq.worker.symm.trans hread) WorkerPc.noConfusion
    · exact absurd hmem (by simp [view, hq.worker, WorkerPc.pending])

/-! ## A completion that goes wrong -/

theorem completion_single (hfin : e.finishes = true) (hen : s.enabled e) : Completion s (s.step e) :=
  Relation.ReflTransGen.single ⟨e, hfin, hen, rfl⟩

theorem exists_sendAll (hres : s.hasResources) (msgs : List HalMsg) (hw : s.worker = .sending msgs) :
    ∃ s', Completion s s' ∧ s'.hasResources ∧
      s'.view = { s.view with worker := .idle, value := msgs.foldl write s.view.value } := by
  induction msgs generalizing s with
  | nil => exact ⟨s, .refl, hres, congrArg (fun w => { s.view with worker := w }) hw⟩
  | cons msg rest ih =>
    obtain ⟨hview, hres'⟩ := view_workerSend hres hw
    obtain ⟨s', hc, hres'', hs'⟩ := ih hres' (congrArg View.worker hview)
    have hen : s.enabled .workerSend := by rw [enabled, hw]; simp [WorkerPc.sending]
    refine ⟨s', (completion_single rfl hen).trans hc, hres'', ?_⟩
    rw [hs', hview]
    rfl

theorem exists_handleReboots (hres : s.hasResources) (hint : s.hal.gpsStateIntent ≠ .start) (hw : s.worker = .idle) :
    ∃ s', Completion s s' ∧ s'.view = { s.view with toHal := 0 } := by
  induction hn : s.toHal generalizing s with
  | zero => exact ⟨s, .refl, congrArg (fun n => { s.view with toHal := n }) hn⟩
  | succ n ih =>
    have hread : Completion s ((s.step .workerTake).step .workerRead) :=
      (completion_single (e := .workerTake) rfl ⟨hw, by omega⟩).trans
        (completion_single (e := .workerRead) rfl rfl)
    obtain ⟨s₁, hc₁, hres₁, hs₁⟩ := exists_sendAll (s := (s.step .workerTake).step .workerRead) hres _ rfl
    have hview : s₁.view = { s.view with toHal := n } := by
      rw [hs₁]
      simp only [view, step, View.mk.injEq, true_and]
      exact ⟨hw.symm, by omega, updateMnldReboot_quiet hint _⟩
    have hint₁ : s₁.hal.gpsStateIntent = s.hal.gpsStateIntent := congrArg View.intent hview
    obtain ⟨s', hc', hs'⟩ := ih hres₁ (hint₁ ▸ hint) ((congrArg View.worker hview).trans hw)
      (congrArg View.toHal hview)
    exact ⟨s', (hread.trans hc₁).trans hc', by rw [hs', hview]⟩

theorem exists_drain (s : HalSystem) : ∃ s', Completion s s' ∧ s'.view = s.view ∧ s'.toMnld = [] := by
  induction hq : s.toMnld generalizing s with
  | nil => exact ⟨s, .refl, rfl, hq⟩
  | cons msg rest ih =>
    have epo : EpoEnv := ⟨false, false⟩
    obtain ⟨x, hx, -⟩ := deliver_eq hq epo
    obtain ⟨s', hc, hview, hnil⟩ := ih (s.step (.deliver epo)) (by rw [hx])
    have hen : s.enabled (.deliver epo) := by rw [enabled, hq]; simp
    exact ⟨s', (completion_single rfl hen).trans hc, hview.trans (view_deliver hq epo), hnil⟩

theorem exists_completion (hres : s.hasResources) (hint : s.hal.gpsStateIntent ≠ .start) (hfw : s.fw = none) :
    ∃ s', Completion s s' ∧ Quiescent s' ∧ s'.halUsed = s.worker.pending.foldl write s.effective := by
  -- the worker comes to rest
  have hrest : ∃ s₁, Completion s s₁ ∧ s₁.hasResources ∧ s₁.view =
      { s.view with worker := .idle, value := s.worker.pending.foldl write s.effective } := by
    cases hw : s.worker with
    | idle => exact exists_sendAll hres [] hw
    | readIntent =>
      obtain ⟨s₁, hc, hres₁, hs₁⟩ := exists_sendAll (s := s.step .workerRead) hres _ rfl
      refine ⟨s₁, (completion_single (e := .workerRead) rfl hw).trans hc, hres₁, hs₁.trans ?_⟩
      simp only [view, step, View.mk.injEq, true_and]
      exact updateMnldReboot_quiet hint _
    | send msg rest => exact exists_sendAll hres (msg :: rest) hw
  obtain ⟨s₁, hc₁, hres₁, hs₁⟩ := hrest
  have hint₁ : s₁.hal.gpsStateIntent = s.hal.gpsStateIntent := congrArg View.intent hs₁
  obtain ⟨s₂, hc₂, hs₂⟩ := exists_handleReboots hres₁ (hint₁ ▸ hint) (congrArg View.worker hs₁)
  obtain ⟨s', hc', hs', hnil⟩ := exists_drain s₂
  have hview := hs'.trans (hs₂.trans (congrArg (fun v : View => { v with toHal := 0 }) hs₁))
  have hq : Quiescent s' :=
    ⟨(congrArg View.fw hview).trans hfw, congrArg View.worker hview, congrArg View.toHal hview, hnil⟩
  exact ⟨s', (hc₁.trans hc₂).trans hc', hq, hq.effective.symm.trans (congrArg View.value hview)⟩

theorem exists_wrong_completion (hres : s.hasResources) (h : HalInv last s.view) (hs : ¬ Sound last s.view) :
    last = false ∧ ∃ s', Completion s s' ∧ Quiescent s' ∧ s'.halUsed = true := by
  simp only [Sound, Classical.not_imp, not_and_or, not_not] at hs
  obtain ⟨hl, hs⟩ := hs
  have hint : s.hal.gpsStateIntent ≠ .start := fun hi => by
    have := h.intent.mp hi
    rw [hl] at this
    exact absurd this (by decide)
  refine ⟨hl, ?_⟩
  cases hfw : s.fw with
  | none =>
    obtain ⟨s', hc, hq, hused⟩ := exists_completion hres hint hfw
    refine ⟨s', hc, hq, hused.trans ?_⟩
    by_cases hmem : .gpsStart ∈ s.worker.pending
    · exact foldl_write_start hmem h.noStop _
    · have hval := (hs.resolve_left hmem).2
      rw [foldl_write_quiet hmem h.noStop]
      exact eq_true_of_ne_false hval
  | some msg =>
    -- the framework's STOP first, the worker's START after it
    have hmem := hs.resolve_right fun hval => absurd (hfw.symm.trans hval.1) (some_ne_none _)
    obtain ⟨hview, hres₁⟩ := view_fwSend hres hfw
    have hint₁ : (s.step .fwSend).hal.gpsStateIntent = s.hal.gpsStateIntent := congrArg View.intent hview
    have hw₁ : (s.step .fwSend).worker = s.worker := congrArg View.worker hview
    obtain ⟨s', hc, hq, hused⟩ := exists_completion hres₁ (hint₁ ▸ hint) (congrArg View.fw hview)
    have hen : s.enabled .fwSend := by rw [enabled, hfw]; simp
    refine ⟨s', (completion_single rfl hen).trans hc, hq, hused.trans ?_⟩
    rw [hw₁]
    exact foldl_write_start hmem h.noStop _

/-! ## The main result -/

theorem lastCallStart_snoc (tr : List HalEntry) (y : HalEntry) :
    lastCallStart (tr ++ [y]) = y.event.call?.getD (lastCallStart tr) := by
  unfold lastCallStart
  cases hy : y.event.call? with
  | none => simp [hy]
  | some b => cases b <;> simp [hy]

theorem halInv_run {tr : List HalEntry} (h : halMachine.Run tr s) :
    s.hasResources ∧ HalInv (lastCallStart tr) s.view := by
  induction h with
  | nil =>
    refine ⟨reached_rank .gpsInit, ?_, fun _ hmsg => absurd hmsg (some_ne_none _).symm, ?_, fun hl => ?_⟩
    · exact iff_of_false (by decide) (by decide)
    · exact not_mem_nil
    · exact absurd hl (by decide)
  | snoc _ hen ih =>
    obtain ⟨hm, hres⟩ := step_move ih.1 hen
    rw [lastCallStart_snoc]
    exact ⟨hres, halInv_move ih.2 hm⟩

theorem completions_right_iff {tr : List HalEntry} (h : halMachine.Run tr s) :
    (∀ s', Completion s s' → Quiescent s' → s'.halUsed = lastCallStart tr) ↔ Sound (lastCallStart tr) s.view := by
  obtain ⟨hres, hinv⟩ := halInv_run h
  refine ⟨fun hall => ?_, fun hs s' hc hq => completion_right hres hinv hs hc hq⟩
  by_contra hs
  obtain ⟨hl, s', hc, hq, hused⟩ := exists_wrong_completion hres hinv hs
  have := hall s' hc hq
  rw [hused, hl] at this
  exact absurd this (by decide)

/-- **Resynchronisation.** In every run: whatever the interleaving in which the calls, reboots and messages
    under way after a prefix of the run are finished, mnld's HAL client ends up using GPS exactly if the last
    framework call was a start — iff the run has no step at which the framework stops while the worker, having
    read the intent START, has yet to send its START. -/
theorem resync_iff_not_hasty {tr : List HalEntry} (h : halMachine.Run tr s) :
    (∀ tr' s', halMachine.Run tr' s' → tr' <+: tr →
      ∀ s'', Completion s' s'' → Quiescent s'' → s''.halUsed = lastCallStart tr') ↔
    ∀ y ∈ tr, ¬ Hasty y.pre y.event := by
  have hprefix : (∀ tr' s', halMachine.Run tr' s' → tr' <+: tr → Sound (lastCallStart tr') s'.view) ↔
      ∀ y ∈ tr, ¬ Hasty y.pre y.event := by
    refine h.forall_prefix_iff (P := fun tr s => Sound (lastCallStart tr) s.view)
      (C := fun s e => ¬ Hasty s e) (fun _ => ⟨not_mem_nil, fun _ => rfl⟩) ?_
    intro tr s e hrun hen hs
    obtain ⟨hres, hinv⟩ := halInv_run hrun
    rw [lastCallStart_snoc]
    exact sound_move_iff hinv hs (step_move hres hen).1
  rw [← hprefix]
  exact forall₄_congr fun tr' s' hrun _ => completions_right_iff hrun

/-- mnld restarts while GPS is on, and the framework stops while the worker is about to send START. -/
def stopDuringResync : List HalEvent :=
  [.call true, .fwSend, .deliver ⟨false, false⟩, .deliver ⟨false, false⟩, .restart 0, .workerTake, .workerRead,
    .call false, .fwSend, .workerSend, .workerSend, .deliver ⟨false, false⟩, .deliver ⟨false, false⟩,
    .deliver ⟨false, false⟩]

/-- **GPS stays on.** All messages are delivered, the last call was a stop, and mnld's HAL client uses GPS. -/
theorem stopDuringResync_used :
    ∃ tr s, halMachine.Run tr s ∧ tr.map (·.event) = stopDuringResync ∧ Quiescent s ∧
      lastCallStart tr = false ∧ s.halUsed = true := by
  refine ⟨(halMachine.exec stopDuringResync).1, (halMachine.exec stopDuringResync).2,
    halMachine.run_exec ?_, rfl, ⟨rfl, rfl, rfl, rfl⟩, rfl, rfl⟩
  exact ⟨rfl, nofun, nofun, nofun, trivial, ⟨rfl, Nat.one_pos⟩, rfl, rfl, nofun, ⟨nofun, nofun⟩,
    ⟨nofun, nofun⟩, nofun, nofun, nofun, trivial⟩

/-- The worker finishes first: after the stop, mnld's HAL client no longer uses GPS. -/
theorem resync_stopAfterResync :
    let es : List HalEvent :=
      [.call true, .fwSend, .restart 1, .workerTake, .workerRead, .workerSend, .workerSend, .call false, .fwSend]
    ∀ s, Completion (halMachine.exec es).2 s → Quiescent s → s.halUsed = false := by
  intro es
  have hrun : halMachine.Run (halMachine.exec es).1 (halMachine.exec es).2 :=
    halMachine.run_exec ⟨rfl, nofun, trivial, ⟨rfl, Nat.one_pos⟩, rfl, ⟨nofun, nofun⟩, ⟨nofun, nofun⟩, rfl,
      nofun, trivial⟩
  exact (resync_iff_not_hasty hrun).mpr (by decide) _ _ hrun (prefix_refl _)

end HuaweiY5.GpsHal
