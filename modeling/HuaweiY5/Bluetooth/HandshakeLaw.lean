import HuaweiY5.Bluetooth.Handshake

/-!
# `Bluetooth.HandshakeLaw` — the law of the firmware init handshake

What holds along every run of the init thread: commands are transmitted one at a time, each after the one before was
completed; the thread waits only for an event whose handler will signal; and `fwcfg_cb` is called once, with success
exactly if all commands were completed. That it is called at all is shown with a rank: every step but a wake-up without
a signal lowers it, and before the end there is always such a step.
-/

namespace HuaweiY5.Bluetooth.FwInit

open List Option
open Transducer (Entry outs)

variable {chip : Option Chip} {first : Nat} {o out : List Effect} {s : FwInit} {move : FwInitMove}

/-! ## The invariant of a run -/

/-- The results given to `fwcfg_cb`. -/
def callbacks (o : List Effect) : List Bool :=
  o.filterMap fun e =>
    match e with
    | .fwcfgCb ret => some ret
    | _ => none

/-- What a run that has come to a statement has given to `fwcfg_cb`. -/
def result : ThreadPc → List Bool
  | .done ret => [ret]
  | _ => []

structure Inv (chip : Option Chip) (first : Nat) (o : List Effect) (s : FwInit) : Prop where
  mutex : Mutex s
  thread : ThreadOk chip first o s s.thread
  called : callbacks o = result s.thread

theorem callbacks_append (o out : List Effect) : callbacks (o ++ out) = callbacks o ++ callbacks out :=
  filterMap_append

theorem callbacks_call (p : Chip) (a : Answers) (c : HciCommand) (s : FwInit) : callbacks (call p a c s).2 = [] := by
  refine filterMap_eq_nil_iff.mpr fun e he => ?_
  obtain ⟨addr, rfl⟩ := (call_spec p a c s).2 e he
  rfl

theorem callbacks_threadStep (chip : Option Chip) (a : Answers) (hgo : ThreadCanGo s.mutex s.thread) :
    result s.thread ++ callbacks (threadStep chip a s).2 = result (threadStep chip a s).1.thread := by
  cases hpc : s.thread <;> rw [hpc] at hgo <;> simp only [threadStep, hpc, xmit]
  case call c =>
    cases chip with
    | none => simp only [hpc]; rfl
    | some p => rw [callbacks_call, (call_spec p a c s).1]; rfl
  case wait | done => exact hgo.elim
  all_goals
    repeat' split
    all_goals simp_all [callbacks, result]

theorem result_wake (pc : ThreadPc) : result (wake pc) = result pc := by
  cases pc <;> rfl

theorem callbacks_handlerStep (s : FwInit) :
    callbacks (handlerStep s).2 = [] ∧ result (handlerStep s).1.thread = result s.thread := by
  constructor
  · unfold handlerStep
    repeat' split
    all_goals rfl
  · rcases (handlerStep_frame s).2.2 with hsame | hwake
    · rw [hsame]
    · rw [hwake, result_wake]

theorem Inv.step (h : Inv chip first o s) (hen : Enabled s move) :
    Inv chip first (o ++ (step chip s move).2) (step chip s move).1 := by
  cases move with
  | thread a =>
    refine ⟨h.mutex.threadStep chip a hen, h.thread.thread a h.mutex hen, ?_⟩
    rw [callbacks_append, h.called]
    exact callbacks_threadStep chip a hen
  | handler =>
    obtain ⟨hnone, hresult⟩ := callbacks_handlerStep s
    refine ⟨h.mutex.handlerStep hen, h.thread.handler h.mutex hen, ?_⟩
    show callbacks (o ++ (handlerStep s).2) = result (handlerStep s).1.thread
    rw [callbacks_append, hnone, append_nil, h.called, hresult]
  | deliver ev =>
    obtain ⟨-, -, -, hthread, hmutex⟩ := deliver_frame ev s
    obtain ⟨sent, hhandler⟩ := deliver_handler ev hen.1
    have hidle := h.mutex.handler
    rw [hen.2] at hidle
    show Inv chip first (o ++ []) (deliver ev s)
    rw [append_nil]
    refine ⟨⟨?_, ?_⟩, h.thread.deliver ev hen.1, by rw [hthread]; exact h.called⟩
    · rw [hmutex, hthread]
      exact h.mutex.thread
    · rw [hmutex, hhandler]
      exact hidle
  | spuriousWakeup =>
    obtain ⟨⟨hmutex, hfree⟩, hthread, hcalled⟩ := h
    rw [show s.thread = .wait from hen] at hmutex hthread hcalled
    obtain ⟨⟨c, hexp⟩, -⟩ := hthread
    show Inv chip first (o ++ []) { s with thread := wake s.thread }
    rw [append_nil, show s.thread = .wait from hen]
    exact ⟨⟨hmutex, hfree⟩, ⟨c, hexp.goto _ _⟩, hcalled⟩

theorem inv_start (chip : Option Chip) (st : Statics) (addr : List UInt8) :
    Inv chip (startIndex chip st.fgGetEFUSE addr) [] (start st addr) := by
  refine ⟨⟨?_, ?_⟩, ⟨⟨rfl, rfl⟩, rfl, rfl, rfl⟩, rfl⟩ <;> simp [start, ThreadHolds, HandlerHolds]

theorem run_inv {st : Statics} {addr : List UInt8} {tr : List (Entry FwInit FwInitMove Effect)}
    (hrun : (machine chip st addr).Run tr s) :
    Inv chip (startIndex chip st.fgGetEFUSE addr) (outs tr) s := by
  refine hrun.invariant_along (I := fun tr s => Inv chip (startIndex chip st.fgGetEFUSE addr) (outs tr) s)
    (C := fun _ => True) ?_ ?_ (fun _ _ => trivial)
  · exact inv_start chip st addr
  · intro tr s move h hen _
    rw [Transducer.outs_append, Transducer.outs_singleton]
    exact h.step hen

/-! ## The way to the end -/

/-- How far the init thread is from the end of the current command. -/
def threadRank : ThreadPc → Nat
  | .start => 31
  | .fetch => 30
  | .pend _ => 29
  | .call _ => 28
  | .xmit _ _ => 27
  | .lock => 6
  | .relock => 6
  | .test => 5
  | .wait => 4
  | .judge => 3
  | .unlock _ => 2
  | .finish _ => 1
  | .done _ => 0

def handlerRank : Handler → Nat
  | .idle => 0
  | .running _ _ .compare => 11
  | .running _ _ (.copy _) => 10
  | .running _ _ (.lock _) => 9
  | .running _ _ (.store _) => 8
  | .running _ _ .signal => 7
  | .running _ _ .unlock => 1

def flightRank (inFlight : Option Sent) : Nat := if inFlight = none then 0 else 12

def scriptLength (chip : Option Chip) : Nat := chip.elim 0 fun p => p.script.length

def rank (chip : Option Chip) (s : FwInit) : Nat :=
  (scriptLength chip - s.i) * 40 + threadRank s.thread + handlerRank s.handler + flightRank s.inFlight

theorem rank_threadStep (a : Answers) (h : ThreadOk chip first o s s.thread) (hgo : ThreadCanGo s.mutex s.thread) :
    rank chip (threadStep chip a s).1 < rank chip s := by
  cases hpc : s.thread <;> rw [hpc] at h hgo <;> simp only [threadStep, hpc, xmit, rank, threadRank]
  case start =>
    obtain ⟨-, -, hzero, -⟩ := h
    cases chip with
    | none => simp
    | some p =>
      simp only [hzero]
      split <;> omega
  case fetch =>
    obtain ⟨p, rfl⟩ := ne_none_iff_exists'.mp h.1
    dsimp only
    split
    · simp
    · cases a.allocOk <;> simp
  case call c =>
    cases chip with
    | none => exact absurd h.1.command.symm (some_ne_none c)
    | some p => simp [(call_spec p a c s).1]
  case xmit c addr =>
    split
    · simp only [flightRank, reduceCtorEq, if_false]; omega
    · simp
  case test => split <;> simp
  case unlock ok =>
    obtain ⟨⟨c, hexp⟩, -⟩ := h
    -- if it goes on to the next command: there was one at this index
    have hlt : s.i < scriptLength chip := by
      cases chip with
      | none => exact absurd hexp.command.symm (some_ne_none c)
      | some p => exact lt_length_of_commandAt hexp.command
    cases ok <;> dsimp only <;> omega
  case wait | done => exact hgo.elim
  all_goals omega

theorem threadRank_wake (pc : ThreadPc) : threadRank (wake pc) ≤ threadRank pc + 2 := by
  cases pc with
  | wait => exact Nat.le_refl _
  | start | fetch | pend | call | xmit | lock | test | relock | judge | unlock | finish | done => exact Nat.le_add_right _ _

theorem rank_handlerStep (hgo : HandlerCanGo s.mutex s.handler) : rank chip (handlerStep s).1 < rank chip s := by
  have hwake : threadRank (wake s.thread) ≤ threadRank s.thread + 2 := threadRank_wake s.thread
  unfold handlerStep
  split <;> rename_i hh <;> rw [hh] at hgo
  case h_1 => exact hgo.elim
  all_goals
    repeat' split
    all_goals
      simp only [rank, hh, handlerRank]
      omega

theorem rank_deliver (ev : HciEvent) (hflight : s.inFlight ≠ none) :
    rank chip (deliver ev s) < rank chip s := by
  obtain ⟨sent, hsent⟩ := ne_none_iff_exists'.mp hflight
  simp only [deliver, hsent, rank, handlerRank, flightRank, if_true]
  rw [if_neg (some_ne_none sent)]
  omega

theorem rank_step (h : Inv chip first o s) (hen : Enabled s move) :
    rank chip (step chip s move).1 + 1 ≤ rank chip s + if move = .spuriousWakeup then 3 else 0 := by
  cases move with
  | thread a => exact rank_threadStep a h.thread hen
  | handler => exact rank_handlerStep hen
  | deliver ev => exact rank_deliver ev hen.1
  | spuriousWakeup =>
    have hwake : threadRank (wake s.thread) ≤ threadRank s.thread + 2 := threadRank_wake s.thread
    rw [if_pos rfl]
    simp only [step, rank]
    omega

theorem handlerCanGo_of_holds {handler : Handler} {mutex : Option Owner} (h : HandlerHolds handler) :
    HandlerCanGo mutex handler := by
  cases handler with
  | idle => exact h.elim
  | running sent ev pc =>
    cases pc with
    | store | signal | unlock => trivial
    | compare | copy | lock => exact h.elim

theorem Mutex.free_or_canGo (h : Mutex s) (hno : ¬ThreadHolds s.thread) :
    s.mutex = none ∨ HandlerCanGo s.mutex s.handler := by
  cases hm : s.mutex with
  | none => exact .inl rfl
  | some owner =>
    cases owner with
    | thread => exact absurd (h.thread.mp hm) hno
    | handler => exact .inr (handlerCanGo_of_holds (h.handler.mp hm))

theorem canGo_of_unsignalled (h : Mutex s) (hno : ¬ThreadHolds s.thread) (hun : Unsignalled s.handler) :
    HandlerCanGo s.mutex s.handler := by
  rcases h.free_or_canGo hno with hfree | hgo
  · cases hh : s.handler with
    | idle => rw [hh] at hun; exact hun.elim
    | running sent ev pc =>
      cases pc with
      | lock success => exact hfree
      | compare | copy | store | signal | unlock => trivial
  · exact hgo

theorem progress (h : Inv chip first o s) (hnot : ∀ ret, s.thread ≠ .done ret) :
    ∃ move, move ≠ .spuriousWakeup ∧ Enabled s move := by
  have hthread : ThreadCanGo s.mutex s.thread → ∃ move, move ≠ .spuriousWakeup ∧ Enabled s move :=
    fun hgo => ⟨.thread ⟨true, true, true⟩, FwInitMove.noConfusion, hgo⟩
  have hhandler : HandlerCanGo s.mutex s.handler → ∃ move, move ≠ .spuriousWakeup ∧ Enabled s move :=
    fun hgo => ⟨.handler, FwInitMove.noConfusion, hgo⟩
  have hok := h.thread
  cases hpc : s.thread with
  | lock | relock =>
    rcases h.mutex.free_or_canGo (by rw [hpc]; exact id) with hfree | hgo
    · exact hthread (by rw [hpc]; exact hfree)
    · exact hhandler hgo
  | wait =>
    rw [hpc] at hok
    obtain ⟨⟨c, hexp⟩, hawaited⟩ := hok
    rcases hawaited with hflight | hun
    · have hidle : s.handler = .idle := by
        cases hexp.event with
        | sent _ h₂ => exact h₂
        | handling h₁ | stored h₁ | returned h₁ => exact absurd h₁ hflight
      exact ⟨.deliver ⟨0, 0, 0, []⟩, FwInitMove.noConfusion, hflight, hidle⟩
    · exact hhandler (canGo_of_unsignalled h.mutex (by rw [hpc]; exact id) hun)
  | done ret => exact absurd hpc (hnot ret)
  | start | fetch | pend | call | xmit | test | judge | unlock | finish => exact hthread (by rw [hpc]; trivial)

/-! ## The law -/

def spurious (tr : List (Entry FwInit FwInitMove Effect)) : Nat :=
  tr.countP fun x => decide (x.event = .spuriousWakeup)

/-- **The law of the handshake.** A command is transmitted only after all before it were completed; the init thread
    waits only for an event that is to come or whose handler has yet to signal; `fwcfg_cb` is called once, at the end,
    with success exactly if every command from the start index on was completed; and the end comes: before it there is
    a step to take, and a run has no more steps than its rank allows, wake-ups without a signal apart. -/
structure HandshakeLaw (chip : Option Chip) (st : Statics) (addr : List UInt8)
    (tr : List (Entry FwInit FwInitMove Effect)) (s : FwInit) : Prop where
  ordered : ∀ l x r, tr = l ++ x :: r → ∀ k opcode, .transmitted k opcode ∈ x.out →
    ∀ j, startIndex chip st.fgGetEFUSE addr ≤ j → j < k → Completed chip (outs l) j
  awaited : s.thread = .wait → Awaited s
  called : callbacks (outs tr) = result s.thread
  verdict : ∀ ret, s.thread = .done ret →
    (ret = true ↔ AllCompleted chip (startIndex chip st.fgGetEFUSE addr) (outs tr))
  progress : (∀ ret, s.thread ≠ .done ret) → ∃ move, move ≠ .spuriousWakeup ∧ Enabled s move
  bounded : tr.length + rank chip s ≤ rank chip (start st addr) + 3 * spurious tr

theorem transmitted_xmit {k : Nat} {opcode : UInt16} (hmem : .transmitted k opcode ∈ (step chip s move).2) :
    (∃ c addr, s.thread = .xmit c addr) ∧ k = s.i := by
  cases move with
  | thread a =>
    cases hpc : s.thread <;> simp only [step, threadStep, hpc, xmit] at hmem
    case call c =>
      cases chip with
      | none => exact absurd hmem not_mem_nil
      | some p =>
        obtain ⟨addr, heq⟩ := (call_spec p a c s).2 _ hmem
        cases heq
    all_goals
      repeat' split at hmem
      all_goals simp_all
  | deliver ev | spuriousWakeup => cases hmem
  | handler =>
    simp only [step, handlerStep] at hmem
    repeat' split at hmem
    all_goals simp at hmem

theorem run_bounded {st : Statics} {addr : List UInt8} {tr : List (Entry FwInit FwInitMove Effect)}
    (hrun : (machine chip st addr).Run tr s) : tr.length + rank chip s ≤ rank chip (start st addr) + 3 * spurious tr := by
  induction hrun with
  | nil => exact Nat.le_of_eq (Nat.zero_add _)
  | @snoc tr s move hbefore hen ih =>
    have hstep := rank_step (run_inv hbefore) hen
    have hspurious : spurious (tr ++ [(machine chip st addr).entry s move]) =
        spurious tr + if move = .spuriousWakeup then 1 else 0 := by
      by_cases hmove : move = .spuriousWakeup <;>
        simp [spurious, hmove]
    rw [hspurious, length_append]
    show tr.length + 1 + rank chip (step chip s move).1 ≤ _
    split at hstep
    · rename_i hmove
      rw [if_pos hmove]
      omega
    · rename_i hmove
      omega

/-- **The handshake of the firmware init.** The law holds in every run: for every script, whatever the static variables
    and the address are at the start, every interleaving and every answer. -/
theorem handshake {st : Statics} {addr : List UInt8} {tr : List (Entry FwInit FwInitMove Effect)}
    (hrun : (machine chip st addr).Run tr s) : HandshakeLaw chip st addr tr s := by
  have hinv := run_inv hrun
  refine ⟨?_, fun hpc => ?_, hinv.called, fun ret hpc => ?_, progress hinv, run_bounded hrun⟩
  · intro l x r htr k opcode hmem j hfirst hlt
    obtain ⟨hbefore, -, hout⟩ := hrun.split htr
    rw [hout] at hmem
    obtain ⟨⟨c, addr', hpc⟩, rfl⟩ := transmitted_xmit hmem
    have hok := (run_inv hbefore).thread
    rw [hpc] at hok
    exact hok.1.past.completed j hfirst hlt
  · have hok := hinv.thread
    rw [hpc] at hok
    exact hok.2
  · have hok := hinv.thread
    rw [hpc] at hok
    exact hok.2

/-- The address is asked for and set. The first event is handled before the init thread comes to the mutex; for the
    second one the thread waits, and wakes up once without a signal. -/
theorem handshake_two :
    let chip : Chip := ⟨[.getLocalBdAddr, .setLocalBdAddr], [0x00, 0x00, 0x46, 0x03, 0x21, 0x01]⟩
    let M := machine (some chip) ⟨0, .success, false⟩ zeroAddr
    let moves : List FwInitMove :=
      List.replicate 5 granted ++ .deliver ⟨0x0E, 0x1009, 0, [1, 2, 3, 4, 5, 6]⟩ :: List.replicate 6 .handler ++
        List.replicate 10 granted ++ [.spuriousWakeup, granted, granted, .deliver ⟨0x0E, 0xFC1A, 0, []⟩] ++
        List.replicate 5 .handler ++ List.replicate 6 granted
    (M.exec moves).2.thread = .done true ∧
      HandshakeLaw (some chip) ⟨0, .success, false⟩ zeroAddr (M.exec moves).1 (M.exec moves).2 := by
  intro chip M moves
  exact ⟨by decide, handshake (M.run_exec (by decide))⟩

end HuaweiY5.Bluetooth.FwInit
