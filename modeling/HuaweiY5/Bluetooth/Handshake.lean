import HuaweiY5.Bluetooth.FwInit

/-!
# `Bluetooth.Handshake` — one command at a time

`cmd_status` is set to `CMD_PENDING` before the command is transmitted and written again by the handler of its event
only, under the mutex. So the init thread finds it pending as long as the event is to come or its handler has not come
to the mutex, and otherwise finds the outcome and does not wait; and a handler is over before the next command.
-/

namespace HuaweiY5.Bluetooth.FwInit

open List Option

variable {chip : Option Chip} {first i : Nat} {o out : List Effect} {s s' : FwInit} {c : HciCommand} {ev : HciEvent}

/-! ## The mutex -/

def ThreadHolds : ThreadPc → Prop
  | .test | .judge | .unlock _ => True
  | _ => False

def HandlerHolds : Handler → Prop
  | .running _ _ (.store _) | .running _ _ .signal | .running _ _ .unlock => True
  | _ => False

structure Mutex (s : FwInit) : Prop where
  thread : s.mutex = some .thread ↔ ThreadHolds s.thread
  handler : s.mutex = some .handler ↔ HandlerHolds s.handler

theorem Mutex.exclusive (h : Mutex s) (ht : ThreadHolds s.thread) : ¬HandlerHolds s.handler := by
  intro hh
  have hsame : some Owner.thread = some .handler := (h.thread.mpr ht).symm.trans (h.handler.mpr hh)
  exact absurd (some.inj hsame) Owner.noConfusion

theorem threadHolds_wake (pc : ThreadPc) : ThreadHolds (wake pc) ↔ ThreadHolds pc := by
  cases pc <;> exact Iff.rfl

/-! ## Events handled -/

def commandAt (chip : Option Chip) (k : Nat) : Option HciCommand := chip.bind fun p => p.script[k]?

/-- The event of the command was handled, a Command Complete with the command's opcode and status 0. -/
def Completed (chip : Option Chip) (o : List Effect) (k : Nat) : Prop :=
  ∃ c ev, commandAt chip k = some c ∧ .handled k ev ∈ o ∧ ev.Complete c.opcode

/-- There is a script, and every command of it from the start index on was completed. -/
def AllCompleted (chip : Option Chip) (first : Nat) (o : List Effect) : Prop :=
  ∃ p, chip = some p ∧ ∀ k, first ≤ k → k < p.script.length → Completed chip o k

/-- The events handled are of commands before the `i`th. -/
def HandledBefore (o : List Effect) (i : Nat) : Prop := ∀ k ev, .handled k ev ∈ o → k < i

/-- The event of the `i`th command was handled, and it was the last one. -/
structure HandledLast (o : List Effect) (i : Nat) (ev : HciEvent) : Prop where
  mem : .handled i ev ∈ o
  only : ∀ k ev', .handled k ev' ∈ o → k < i ∨ (k = i ∧ ev' = ev)

def Silent (out : List Effect) : Prop := ∀ k ev, .handled k ev ∉ out

theorem Silent.mem (h : Silent out) {k : Nat} (hmem : .handled k ev ∈ o ++ out) : .handled k ev ∈ o :=
  (mem_append.mp hmem).resolve_right (h k ev)

theorem Completed.append {k : Nat} (h : Completed chip o k) (out : List Effect) : Completed chip (o ++ out) k := by
  obtain ⟨c, ev, hc, hmem, hcomplete⟩ := h
  exact ⟨c, ev, hc, mem_append_left _ hmem, hcomplete⟩

theorem HandledBefore.append (h : HandledBefore o i) (hsilent : Silent out) : HandledBefore (o ++ out) i :=
  fun k ev hmem => h k ev (hsilent.mem hmem)

theorem HandledBefore.handle (h : HandledBefore o i) (ev : HciEvent) : HandledLast (o ++ [.handled i ev]) i ev := by
  refine ⟨mem_append_right _ (mem_singleton_self _), fun k ev' hmem => ?_⟩
  rcases mem_append.mp hmem with hold | hnew
  · exact .inl (h k ev' hold)
  · injection mem_singleton.mp hnew with hk hev
    exact .inr ⟨hk, hev⟩

theorem HandledLast.before (h : HandledLast o i ev) : HandledBefore o (i + 1) := by
  intro k ev' hmem
  rcases h.only k ev' hmem with hlt | ⟨rfl, -⟩
  · exact Nat.lt_succ_of_lt hlt
  · exact Nat.lt_succ_self k

theorem allCompleted_append (hsilent : Silent out) :
    AllCompleted chip first (o ++ out) ↔ AllCompleted chip first o := by
  constructor
  · rintro ⟨p, hp, hall⟩
    refine ⟨p, hp, fun k hfirst hlen => ?_⟩
    obtain ⟨c, ev, hc, hmem, hcomplete⟩ := hall k hfirst hlen
    exact ⟨c, ev, hc, hsilent.mem hmem, hcomplete⟩
  · rintro ⟨p, hp, hall⟩
    exact ⟨p, hp, fun k hfirst hlen => (hall k hfirst hlen).append out⟩

theorem lt_length_of_commandAt {p : Chip} (h : commandAt (some p) i = some c) : i < p.script.length :=
  (List.getElem?_eq_some_iff.mp h).1

theorem not_allCompleted (hc : commandAt chip i = some c) (hfirst : first ≤ i)
    (hnone : ∀ ev, .handled i ev ∈ o → ¬ev.Complete c.opcode) : ¬AllCompleted chip first o := by
  rintro ⟨p, rfl, hall⟩
  obtain ⟨c', ev, hc', hmem, hcomplete⟩ := hall i hfirst (lt_length_of_commandAt hc)
  have hsame : c' = c := some.inj (hc'.symm.trans hc)
  exact hnone ev hmem (hsame ▸ hcomplete)

/-! ## The event of the current command -/

def outcome (c : HciCommand) (ev : HciEvent) : CmdStatus := if ev.Complete c.opcode then .success else .fail

theorem outcome_ne_pending (c : HciCommand) (ev : HciEvent) : outcome c ev ≠ .pending := by
  unfold outcome
  split <;> exact CmdStatus.noConfusion

/-- The handler has not stored the outcome; what it has found is right. -/
def BeforeStore (c : HciCommand) (ev : HciEvent) : HandlerPc → Prop
  | .compare => True
  | .copy success | .lock success | .store success => success = decide (ev.Complete c.opcode)
  | _ => False

def AfterStore : HandlerPc → Prop
  | .signal | .unlock => True
  | _ => False

/-- Where the event of the current command is, with what `cmd_status` says then: on the way, before its handler stores
    the outcome, after that, or returned. -/
inductive EventAt (o : List Effect) (c : HciCommand) (s : FwInit) : Prop
  | sent (hflight : s.inFlight = some ⟨s.i, c⟩) (hhandler : s.handler = .idle) (hstatus : s.cmdStatus = .pending)
      (hbefore : HandledBefore o s.i)
  | handling {ev : HciEvent} {pc : HandlerPc} (hflight : s.inFlight = none) (hhandler : s.handler = .running ⟨s.i, c⟩ ev pc)
      (hpc : BeforeStore c ev pc) (hstatus : s.cmdStatus = .pending) (hbefore : HandledBefore o s.i)
  | stored {ev : HciEvent} {pc : HandlerPc} (hflight : s.inFlight = none) (hhandler : s.handler = .running ⟨s.i, c⟩ ev pc)
      (hpc : AfterStore pc) (hstatus : s.cmdStatus = outcome c ev) (hlast : HandledLast o s.i ev)
  | returned {ev : HciEvent} (hflight : s.inFlight = none) (hhandler : s.handler = .idle)
      (hstatus : s.cmdStatus = outcome c ev) (hlast : HandledLast o s.i ev)

theorem EventAt.goto (h : EventAt o c s) (mutex : Option Owner) (pc : ThreadPc) :
    EventAt o c { s with mutex := mutex, thread := pc } := by
  cases h with
  | sent h₁ h₂ h₃ h₄ => exact .sent h₁ h₂ h₃ h₄
  | handling h₁ h₂ hpc h₃ h₄ => exact .handling h₁ h₂ hpc h₃ h₄
  | stored h₁ h₂ hpc h₃ h₄ => exact .stored h₁ h₂ hpc h₃ h₄
  | returned h₁ h₂ h₃ h₄ => exact .returned h₁ h₂ h₃ h₄

theorem EventAt.deliver (h : EventAt o c s) (hflight : s.inFlight ≠ none) (ev : HciEvent) :
    EventAt o c (deliver ev s) ∧ (FwInit.deliver ev s).inFlight = none := by
  cases h with
  | sent h₁ _ h₃ h₄ =>
    have heq : FwInit.deliver ev s = { s with inFlight := none, handler := .running ⟨s.i, c⟩ ev .compare } := by
      unfold FwInit.deliver
      rw [h₁]
    rw [heq]
    exact ⟨.handling rfl rfl trivial h₃ h₄, rfl⟩
  | handling h₁ | stored h₁ | returned h₁ => exact absurd h₁ hflight

theorem EventAt.handle (h : EventAt o c s) (hop : s.wOpCode = c.opcode) :
    EventAt (o ++ (handlerStep s).2) c (handlerStep s).1 := by
  cases h with
  | sent h₁ h₂ h₃ h₄ =>
    simp only [handlerStep, h₂, append_nil]
    exact .sent h₁ h₂ h₃ h₄
  | returned h₁ h₂ h₃ h₄ =>
    simp only [handlerStep, h₂, append_nil]
    exact .returned h₁ h₂ h₃ h₄
  | @handling ev pc h₁ h₂ hpc h₃ h₄ =>
    cases pc with
    | compare =>
      by_cases hget : c = .getLocalBdAddr
      · subst hget
        simp only [handlerStep, h₂, if_true, append_nil]
        exact .handling h₁ rfl rfl h₃ h₄
      · simp only [handlerStep, h₂, hget, if_false, hop, append_nil]
        exact .handling h₁ rfl rfl h₃ h₄
    | copy | lock =>
      simp only [handlerStep, h₂, append_nil]
      exact .handling h₁ rfl hpc h₃ h₄
    | store success =>
      have hsuccess : success = decide (ev.Complete c.opcode) := hpc
      simp only [handlerStep, h₂]
      refine .stored h₁ rfl trivial ?_ (h₄.handle ev)
      simp [hsuccess, outcome]
    | signal | unlock => exact hpc.elim
  | @stored ev pc h₁ h₂ hpc h₃ h₄ =>
    cases pc with
    | signal =>
      simp only [handlerStep, h₂, append_nil]
      exact .stored h₁ rfl trivial h₃ h₄
    | unlock =>
      simp only [handlerStep, h₂, append_nil]
      exact .returned h₁ rfl h₃ h₄
    | compare | copy | lock | store => exact hpc.elim

/-! ## The statements of the init thread -/

/-- No event is to come and no handler is running. -/
structure Idle (s : FwInit) : Prop where
  inFlight : s.inFlight = none
  handler : s.handler = .idle

/-- The commands before the current one were completed. -/
structure Past (chip : Option Chip) (first : Nat) (o : List Effect) (i : Nat) : Prop where
  started : first ≤ i
  completed : ∀ k, first ≤ k → k < i → Completed chip o k

/-- The current command is to be transmitted. -/
structure Ready (chip : Option Chip) (first : Nat) (o : List Effect) (s : FwInit) (c : HciCommand) : Prop where
  idle : Idle s
  past : Past chip first o s.i
  before : HandledBefore o s.i
  command : commandAt chip s.i = some c

structure Expecting (chip : Option Chip) (first : Nat) (o : List Effect) (s : FwInit) (c : HciCommand) : Prop where
  past : Past chip first o s.i
  command : commandAt chip s.i = some c
  opcode : s.wOpCode = c.opcode
  event : EventAt o c s

def Unsignalled : Handler → Prop
  | .idle | .running _ _ .unlock => False
  | _ => True

def Awaited (s : FwInit) : Prop := s.inFlight ≠ none ∨ Unsignalled s.handler

/-- The index of the first command: the address is asked for if there is none in the NVRAM. -/
def startIndex (chip : Option Chip) (fgGetEFUSE : Bool) (addr : List UInt8) : Nat :=
  if fgGetEFUSE || chip.any (fun p => decide (p.Default addr)) then 0 else 1

def ThreadOk (chip : Option Chip) (first : Nat) (o : List Effect) (s : FwInit) : ThreadPc → Prop
  | .start => Idle s ∧ o = [] ∧ s.i = 0 ∧ startIndex chip s.fgGetEFUSE s.addr = first
  | .fetch => chip ≠ none ∧ Idle s ∧ Past chip first o s.i ∧ HandledBefore o s.i
  | .pend c => Ready chip first o s c
  | .call c => Ready chip first o s c ∧ s.cmdStatus = .pending
  | .xmit c _ => Ready chip first o s c ∧ s.cmdStatus = .pending ∧ s.wOpCode = c.opcode
  | .lock | .test | .relock => ∃ c, Expecting chip first o s c
  | .wait => (∃ c, Expecting chip first o s c) ∧ Awaited s
  | .judge => (∃ c, Expecting chip first o s c) ∧ s.cmdStatus ≠ .pending
  | .unlock ok => (∃ c, Expecting chip first o s c) ∧ s.cmdStatus = if ok then .success else .fail
  | .finish ret | .done ret => Idle s ∧ (ret = true ↔ AllCompleted chip first o)

theorem Past.append (h : Past chip first o i) (out : List Effect) : Past chip first (o ++ out) i :=
  ⟨h.started, fun k hfirst hlt => (h.completed k hfirst hlt).append out⟩

theorem Ready.not_allCompleted (h : Ready chip first o s c) : ¬AllCompleted chip first o :=
  FwInit.not_allCompleted h.command h.past.started fun ev hmem => absurd (h.before _ ev hmem) (Nat.lt_irrefl _)

theorem Expecting.goto (h : Expecting chip first o s c) (mutex : Option Owner) (pc : ThreadPc) :
    Expecting chip first o { s with mutex := mutex, thread := pc } c :=
  ⟨h.past, h.command, h.opcode, h.event.goto mutex pc⟩

theorem Expecting.awaited (h : Expecting chip first o s c) (hpending : s.cmdStatus = .pending) : Awaited s := by
  cases h.event with
  | sent h₁ => exact .inl (by rw [h₁]; exact some_ne_none _)
  | @handling ev pc _ h₂ hpc =>
    refine .inr ?_
    rw [h₂]
    cases pc with
    | compare | copy | lock | store | signal => trivial
    | unlock => exact hpc.elim
  | stored _ _ _ h₃ | returned _ _ h₃ => exact absurd (h₃.symm.trans hpending) (outcome_ne_pending _ _)

theorem Expecting.returned (h : Expecting chip first o s c) (hhandler : ¬HandlerHolds s.handler)
    (hstatus : s.cmdStatus ≠ .pending) : ∃ ev, Idle s ∧ s.cmdStatus = outcome c ev ∧ HandledLast o s.i ev := by
  cases h.event with
  | sent _ _ h₃ | handling _ _ _ h₃ => exact absurd h₃ hstatus
  | @stored ev pc _ h₂ hpc =>
    refine absurd ?_ hhandler
    rw [h₂]
    cases pc with
    | signal | unlock => trivial
    | compare | copy | lock | store => exact hpc.elim
  | @returned ev h₁ h₂ h₃ h₄ => exact ⟨ev, ⟨h₁, h₂⟩, h₃, h₄⟩

theorem call_spec (p : Chip) (a : Answers) (c : HciCommand) (s : FwInit) : (call p a c s).1 = { s with
      wOpCode := c.opcode, thread := .xmit c s.addr,
      fgGetEFUSE := if c = .setLocalBdAddr then false else s.fgGetEFUSE } ∧
      ∀ e ∈ (call p a c s).2, ∃ addr, e = .nvramWrite addr := by
  cases c with
  | getLocalBdAddr | common opcode => exact ⟨rfl, fun e he => absurd he not_mem_nil⟩
  | setLocalBdAddr =>
    refine ⟨rfl, fun e he => ?_⟩
    have hwrite : ∀ b : Bool, e ∈ (if b then [Effect.nvramWrite s.addr] else []) → ∃ addr, e = .nvramWrite addr := by
      intro b hmem
      cases b with
      | true => exact ⟨s.addr, mem_singleton.mp hmem⟩
      | false => cases hmem
    unfold call at he
    dsimp only at he
    split at he
    · exact hwrite _ he
    · split at he
      · exact hwrite _ he
      · cases he

theorem silent_of_nvramWrite (h : ∀ e ∈ out, ∃ addr, e = .nvramWrite addr) : Silent out := by
  intro k ev hmem
  obtain ⟨addr, heq⟩ := h _ hmem
  cases heq

theorem ThreadOk.thread (a : Answers) (h : ThreadOk chip first o s s.thread) (hmutex : Mutex s)
    (hgo : ThreadCanGo s.mutex s.thread) :
    ThreadOk chip first (o ++ (threadStep chip a s).2) (threadStep chip a s).1 (threadStep chip a s).1.thread := by
  cases hpc : s.thread <;> rw [hpc] at h hgo <;> simp only [threadStep, hpc, append_nil]
  case start =>
    obtain ⟨hidle, rfl, -, hfirst⟩ := h
    cases chip with
    | none => exact ⟨⟨hidle.1, hidle.2⟩, by simp [AllCompleted]⟩
    | some p =>
      refine ⟨some_ne_none p, ⟨hidle.1, hidle.2⟩, ?_, fun k ev hmem => absurd hmem not_mem_nil⟩
      show Past _ first _ (startIndex (some p) s.fgGetEFUSE s.addr)
      rw [hfirst]
      exact ⟨Nat.le_refl _, fun k hfirst hlt => absurd hlt (Nat.not_lt.mpr hfirst)⟩
  case fetch =>
    obtain ⟨hchip, hidle, hpast, hbefore⟩ := h
    obtain ⟨p, rfl⟩ := ne_none_iff_exists'.mp hchip
    cases hc : p.script[s.i]? with
    | none =>
      simp only [hc, append_nil]
      refine ⟨⟨hidle.1, hidle.2⟩, fun _ => ⟨p, rfl, fun k hfirst hlen => ?_⟩, fun _ => rfl⟩
      exact hpast.completed k hfirst (Nat.lt_of_lt_of_le hlen (List.getElem?_eq_none_iff.mp hc))
    | some c =>
      have hready : Ready (some p) first o s c := ⟨hidle, hpast, hbefore, hc⟩
      simp only [hc, append_nil]
      cases a.allocOk with
      | true => exact ⟨⟨hidle.1, hidle.2⟩, hpast, hbefore, hc⟩
      | false => exact ⟨⟨hidle.1, hidle.2⟩, by simpa using hready.not_allCompleted⟩
  case pend c => exact ⟨⟨⟨h.idle.1, h.idle.2⟩, h.past, h.before, h.command⟩, rfl⟩
  case call c =>
    obtain ⟨⟨hidle, hpast, hbefore, hcommand⟩, hpending⟩ := h
    cases chip with
    | none => exact absurd hcommand.symm (some_ne_none c)
    | some p =>
      obtain ⟨hcall, hout⟩ := call_spec p a c s
      rw [hcall]
      have hsilent := silent_of_nvramWrite hout
      exact ⟨⟨⟨hidle.1, hidle.2⟩, hpast.append _, hbefore.append hsilent, hcommand⟩, hpending, rfl⟩
  case xmit c addr =>
    obtain ⟨hready, hpending, hop⟩ := h
    unfold xmit
    cases a.xmitOk with
    | true =>
      have hsilent : Silent (.transmitted s.i c.opcode ::
          if c = .setLocalBdAddr then [.programmed addr.reverse] else []) := by
        intro k ev hmem
        split at hmem <;> simp at hmem
      refine ⟨c, hready.past.append _, hready.command, hop, ?_⟩
      exact .sent rfl hready.idle.handler hpending (hready.before.append hsilent)
    | false =>
      exact ⟨⟨hready.idle.1, hready.idle.2⟩, by simpa using hready.not_allCompleted⟩
  case lock | relock => exact h.imp fun c hexp => hexp.goto _ _
  case test =>
    obtain ⟨c, hexp⟩ := h
    by_cases hpending : s.cmdStatus = .pending
    · rw [if_pos hpending, append_nil]
      exact ⟨⟨c, hexp.goto _ _⟩, hexp.awaited hpending⟩
    · rw [if_neg hpending, append_nil]
      exact ⟨⟨c, hexp.goto _ _⟩, hpending⟩
  case judge =>
    obtain ⟨⟨c, hexp⟩, hstatus⟩ := h
    refine ⟨⟨c, hexp.goto _ _⟩, ?_⟩
    cases hs : s.cmdStatus with
    | success | fail => simp
    | pending => exact absurd hs hstatus
  case unlock ok =>
    obtain ⟨⟨c, hexp⟩, hstatus⟩ := h
    have hfree : ¬HandlerHolds s.handler := hmutex.exclusive (by rw [hpc]; trivial)
    obtain ⟨ev, hidle, hout, hlast⟩ := hexp.returned hfree (by rw [hstatus]; cases ok <;> exact CmdStatus.noConfusion)
    rw [hout] at hstatus
    cases ok with
    | true =>
      have hcomplete : ev.Complete c.opcode := by simpa [outcome] using hstatus
      simp only [append_nil]
      refine ⟨?_, ⟨hidle.1, hidle.2⟩, ⟨Nat.le_succ_of_le hexp.past.started, ?_⟩, hlast.before⟩
      · rintro rfl
        exact absurd hexp.command.symm (some_ne_none c)
      · intro k hfirst hlt
        rcases Nat.lt_succ_iff_lt_or_eq.mp hlt with hlt | rfl
        · exact hexp.past.completed k hfirst hlt
        · exact ⟨c, ev, hexp.command, hlast.mem, hcomplete⟩
    | false =>
      have hfail : ¬ev.Complete c.opcode := by simpa [outcome] using hstatus
      have hnot : ¬AllCompleted chip first o := by
        refine FwInit.not_allCompleted hexp.command hexp.past.started fun ev' hmem => ?_
        rcases hlast.only _ ev' hmem with hlt | ⟨-, rfl⟩
        · exact absurd hlt (Nat.lt_irrefl _)
        · exact hfail
      exact ⟨⟨hidle.1, hidle.2⟩, by simpa using hnot⟩
  case finish ret =>
    have hsilent : Silent [.fwcfgCb ret] := by simp [Silent]
    exact ⟨⟨h.1.1, h.1.2⟩, h.2.trans (allCompleted_append hsilent).symm⟩
  case wait | done => exact hgo.elim

/-! ## The handler's statements, deliveries and wake-ups -/

theorem handlerStep_frame (s : FwInit) :
    (handlerStep s).1.i = s.i ∧ (handlerStep s).1.wOpCode = s.wOpCode ∧
      ((handlerStep s).1.thread = s.thread ∨ (handlerStep s).1.thread = wake s.thread) := by
  unfold handlerStep
  repeat' split
  all_goals simp

theorem handlerStep_thread (h : s.thread ≠ .wait) : (handlerStep s).1.thread = s.thread := by
  have hwake : wake s.thread = s.thread := by
    unfold wake
    split
    · contradiction
    · rfl
  rcases (handlerStep_frame s).2.2 with hsame | heq
  · exact hsame
  · exact heq.trans hwake

theorem Expecting.handle (h : Expecting chip first o s c) :
    Expecting chip first (o ++ (handlerStep s).2) (handlerStep s).1 c := by
  obtain ⟨hi, hop, -⟩ := handlerStep_frame s
  refine ⟨?_, ?_, hop.trans h.opcode, h.event.handle h.opcode⟩
  · rw [hi]; exact h.past.append _
  · rw [hi]; exact h.command

theorem Idle.not_canGo (h : Idle s) : ¬HandlerCanGo s.mutex s.handler := by
  rw [h.handler]
  exact id

theorem Expecting.handle_wait (h : Expecting chip first o s c) (hpc : s.thread = .wait) (hawaited : Awaited s)
    (hgo : HandlerCanGo s.mutex s.handler) :
    ((handlerStep s).1.thread = .wait ∧ Awaited (handlerStep s).1) ∨ (handlerStep s).1.thread = .relock := by
  cases h.event with
  | sent _ h₂ | returned _ h₂ => rw [h₂] at hgo; exact hgo.elim
  | @handling ev pc h₁ h₂ hbefore =>
    refine .inl ?_
    cases pc with
    | compare =>
      unfold handlerStep
      rw [h₂]
      dsimp only
      split <;> exact ⟨hpc, .inr trivial⟩
    | copy | lock | store => simp only [handlerStep, h₂]; exact ⟨hpc, .inr trivial⟩
    | signal | unlock => exact hbefore.elim
  | @stored ev pc h₁ h₂ hafter =>
    cases pc with
    | signal =>
      refine .inr ?_
      simp only [handlerStep, h₂, hpc]
      rfl
    | unlock =>
      rcases hawaited with hflight | hsignal
      · exact absurd h₁ hflight
      · rw [h₂] at hsignal; exact hsignal.elim
    | compare | copy | lock | store => exact hafter.elim

theorem ThreadOk.handler (h : ThreadOk chip first o s s.thread) (hmutex : Mutex s)
    (hgo : HandlerCanGo s.mutex s.handler) :
    ThreadOk chip first (o ++ (handlerStep s).2) (handlerStep s).1 (handlerStep s).1.thread := by
  -- with an outcome and the mutex in the init thread's hand no handler is running
  have hgone : ∀ {c}, Expecting chip first o s c → ThreadHolds s.thread → s.cmdStatus ≠ .pending → False := by
    intro c hexp hholds hstatus
    obtain ⟨ev, hidle, -⟩ := hexp.returned (hmutex.exclusive hholds) hstatus
    exact hidle.not_canGo hgo
  cases hpc : s.thread <;> rw [hpc] at h hgone
  case start | finish | done => exact absurd hgo h.1.not_canGo
  case fetch => exact absurd hgo h.2.1.not_canGo
  case pend => exact absurd hgo h.idle.not_canGo
  case call | xmit => exact absurd hgo h.1.idle.not_canGo
  case lock | test | relock =>
    obtain ⟨c, hexp⟩ := h
    rw [handlerStep_thread (by simp [hpc]), hpc]
    exact ⟨c, hexp.handle⟩
  case wait =>
    obtain ⟨⟨c, hexp⟩, hawaited⟩ := h
    rcases hexp.handle_wait hpc hawaited hgo with ⟨hwait, hstill⟩ | hrelock
    · rw [hwait]
      exact ⟨⟨c, hexp.handle⟩, hstill⟩
    · rw [hrelock]
      exact ⟨c, hexp.handle⟩
  case judge =>
    obtain ⟨⟨c, hexp⟩, hstatus⟩ := h
    exact (hgone hexp trivial hstatus).elim
  case unlock ok =>
    obtain ⟨⟨c, hexp⟩, hstatus⟩ := h
    refine (hgone hexp trivial ?_).elim
    rw [hstatus]
    cases ok <;> exact CmdStatus.noConfusion

theorem deliver_frame (ev : HciEvent) (s : FwInit) :
    (deliver ev s).i = s.i ∧ (deliver ev s).wOpCode = s.wOpCode ∧ (deliver ev s).cmdStatus = s.cmdStatus ∧
      (deliver ev s).thread = s.thread ∧ (deliver ev s).mutex = s.mutex := by
  unfold deliver
  split <;> exact ⟨rfl, rfl, rfl, rfl, rfl⟩

theorem deliver_handler (ev : HciEvent) (h : s.inFlight ≠ none) :
    ∃ sent, (deliver ev s).handler = .running sent ev .compare := by
  obtain ⟨sent, hsent⟩ := ne_none_iff_exists'.mp h
  refine ⟨sent, ?_⟩
  unfold deliver
  rw [hsent]

theorem ThreadOk.deliver (ev : HciEvent) (h : ThreadOk chip first o s s.thread) (hflight : s.inFlight ≠ none) :
    ThreadOk chip first o (deliver ev s) (FwInit.deliver ev s).thread := by
  obtain ⟨hi, hop, hstatus, hthread, -⟩ := deliver_frame ev s
  obtain ⟨sent, hhandler⟩ := deliver_handler ev hflight
  have hexp : ∀ {c}, Expecting chip first o s c → Expecting chip first o (FwInit.deliver ev s) c := by
    intro c hexp
    refine ⟨?_, ?_, hop.trans hexp.opcode, (hexp.event.deliver hflight ev).1⟩
    · rw [hi]; exact hexp.past
    · rw [hi]; exact hexp.command
  rw [hthread]
  cases hpc : s.thread <;> rw [hpc] at h
  case start | finish | done => exact absurd h.1.inFlight hflight
  case fetch => exact absurd h.2.1.inFlight hflight
  case pend => exact absurd h.idle.inFlight hflight
  case call | xmit => exact absurd h.1.idle.inFlight hflight
  case lock | test | relock => exact h.imp fun c => hexp
  case wait => exact ⟨h.1.imp fun c => hexp, .inr (by rw [hhandler]; trivial)⟩
  case judge | unlock => exact ⟨h.1.imp fun c => hexp, by rw [hstatus]; exact h.2⟩

/-! ## The mutex along the statements -/

theorem Mutex.threadStep (chip : Option Chip) (a : Answers) (h : Mutex s) (hgo : ThreadCanGo s.mutex s.thread) :
    Mutex (FwInit.threadStep chip a s).1 := by
  obtain ⟨ht, hh⟩ := h
  cases hpc : s.thread <;> simp only [hpc, ThreadCanGo] at ht hgo <;>
    simp only [FwInit.threadStep, hpc, xmit]
  case call c =>
    cases chip with
    | none => exact ⟨by simpa [hpc] using ht, hh⟩
    | some p =>
      rw [(call_spec p a c s).1]
      exact ⟨by simpa [ThreadHolds] using ht, hh⟩
  all_goals
    repeat' split
    all_goals constructor <;> simp_all [ThreadHolds]

theorem Mutex.handlerStep (h : Mutex s) (hgo : HandlerCanGo s.mutex s.handler) : Mutex (FwInit.handlerStep s).1 := by
  obtain ⟨ht, hh⟩ := h
  unfold FwInit.handlerStep
  repeat' split
  all_goals constructor <;> simp_all [HandlerHolds, HandlerCanGo, threadHolds_wake]

end HuaweiY5.Bluetooth.FwInit
