import HuaweiY5.Bluetooth.Handshake

/-!
# `Bluetooth.Provisioned` — the address in the NVRAM over many runs

A run that finds no address in the NVRAM sets `fgGetEFUSE`, asks the chip for its address, and
`GORMcmd_HCC_Set_Local_BD_Addr` writes that to the NVRAM and clears the flag. A run that fails before that leaves the
flag set, and the next one asks the chip whatever address the NVRAM has by then.
-/

namespace HuaweiY5.Bluetooth.FwInit

open List Option
open Transducer (Entry entry exec out outs run_exec)

/-- `ap_nvram_btradio_struct`: the address and the bytes behind it. -/
structure Nvram where
  addr : List UInt8
  rest : List UInt8
  length_addr : addr.length = 6

/-- `mtk_fw_cfg`: the address handed to `BT_InitDevice`. -/
def loadAddr (chip : Option Chip) (readOk : Bool) (nvram : Nvram) : List UInt8 :=
  if !readOk || (nvram.addr ++ nvram.rest).all (fun b => decide (b = 0)) then chip.elim zeroAddr Chip.defaultAddr
  else nvram.addr

/-- A run: the chip, whether the NVRAM can be read and what it holds, the static variables before, and the history. -/
structure FwRun where
  chipId : UInt32
  readOk : Bool
  nvram : Nvram
  st : Statics
  tr : List (Entry FwInit FwInitMove Effect)

def newProcess : Statics := ⟨0, .success, false⟩

/-- The runs of a process, one after the other, and the static variables they leave. -/
inductive Process : List FwRun → Statics → Prop
  | nil : Process [] newProcess
  | snoc {runs : List FwRun} {st : Statics} {chipId : UInt32} {readOk : Bool} {nvram : Nvram}
      {tr : List (Entry FwInit FwInitMove Effect)} {s : FwInit} (h : Process runs st)
      (hrun : (machine (preload chipId) st (loadAddr (preload chipId) readOk nvram)).Run tr s) :
      Process (runs ++ [⟨chipId, readOk, nvram, st, tr⟩]) s.statics

namespace FwRun

/-- The address in the NVRAM is neither the chip's default nor zero. -/
def Provisioned (r : FwRun) : Prop := ∀ p ∈ preload r.chipId, ¬p.Default r.nvram.addr

/-- The run does not write the address to the NVRAM, and the only address it programs is the one there. -/
structure Keeps (r : FwRun) : Prop where
  nvram : ∀ addr, .nvramWrite addr ∉ outs r.tr
  programmed : ∀ params, .programmed params ∈ outs r.tr → params = r.nvram.addr.reverse

/-- Where there is a script, the NVRAM can be read and the flag is clear when the run starts. -/
def Clean (r : FwRun) : Prop := ∀ p ∈ preload r.chipId, r.readOk = true ∧ r.st.fgGetEFUSE = false

def machine (r : FwRun) : Transducer FwInit FwInitMove Effect :=
  FwInit.machine (preload r.chipId) r.st (loadAddr (preload r.chipId) r.readOk r.nvram)

end FwRun

/-! ## A run that finds an address -/

variable {chip : Option Chip} {addr : List UInt8} {s : FwInit} {move : FwInitMove}

/-- The command is not the one that asks for the address, and what it is to program is the address. -/
def Spares (addr : List UInt8) (i : Nat) : ThreadPc → Prop
  | .start => True
  | .pend c | .call c => 1 ≤ i ∧ c ≠ .getLocalBdAddr
  | .xmit c a => 1 ≤ i ∧ c ≠ .getLocalBdAddr ∧ a = addr
  | .finish _ | .done _ => True
  | _ => 1 ≤ i

/-- The handler is not that of the command that asks for the address. -/
def HandlerSpares : Handler → Prop
  | .idle => True
  | .running _ _ (.copy _) => False
  | .running sent _ _ => sent.command ≠ .getLocalBdAddr

/-- The flag is clear, the address as it was, and nothing under way will change that. -/
structure Spared (addr : List UInt8) (s : FwInit) : Prop where
  flag : s.fgGetEFUSE = false
  same : s.addr = addr
  thread : Spares addr s.i s.thread
  handler : HandlerSpares s.handler
  inFlight : ∀ sent ∈ s.inFlight, sent.command ≠ .getLocalBdAddr

/-- Only the first command of the script asks for the address, and the address is none to replace. -/
structure Unaffected (chip : Option Chip) (addr : List UInt8) : Prop where
  first : ∀ p ∈ chip, ∀ k, 1 ≤ k → p.script[k]? ≠ some .getLocalBdAddr
  default : ∀ p ∈ chip, ¬p.Default addr

/-- No address is written, and only this one is programmed. -/
structure KeepsAddr (addr : List UInt8) (out : List Effect) : Prop where
  nvram : ∀ a, .nvramWrite a ∉ out
  programmed : ∀ params, .programmed params ∈ out → params = addr.reverse

theorem keepsAddr_nil : KeepsAddr addr [] := by
  constructor <;> simp

theorem keepsAddr_fwcfgCb {ret : Bool} : KeepsAddr addr [.fwcfgCb ret] := by
  constructor <;> simp

theorem call_out {p : Chip} {a : Answers} {c : HciCommand} (hflag : s.fgGetEFUSE = false)
    (hdefault : ¬p.Default s.addr) : (call p a c s).2 = [] := by
  cases c with
  | getLocalBdAddr | common opcode => rfl
  | setLocalBdAddr =>
    unfold call
    dsimp only
    rw [if_neg hdefault, hflag]
    rfl

theorem Spared.threadStep (a : Answers) (h : Spared addr s) (hchip : Unaffected chip addr)
    (hgo : ThreadCanGo s.mutex s.thread) :
    Spared addr (threadStep chip a s).1 ∧ KeepsAddr addr (threadStep chip a s).2 := by
  obtain ⟨hflag, hsame, hthread, hhandler, hflight⟩ := h
  cases hpc : s.thread <;> rw [hpc] at hthread hgo <;> simp only [FwInit.threadStep, hpc, xmit]
  case start =>
    cases chip with
    | none => exact ⟨⟨hflag, hsame, trivial, hhandler, hflight⟩, keepsAddr_nil⟩
    | some p =>
      have hnot : (s.fgGetEFUSE || decide (p.Default s.addr)) = false := by
        rw [hflag, hsame, decide_eq_false (hchip.default p rfl)]
        rfl
      simp only [hnot]
      exact ⟨⟨rfl, hsame, Nat.le_refl 1, hhandler, hflight⟩, keepsAddr_nil⟩
  case fetch =>
    cases chip with
    | none => exact ⟨⟨hflag, hsame, by rw [hpc]; exact hthread, hhandler, hflight⟩, keepsAddr_nil⟩
    | some p =>
      dsimp only
      cases hc : p.script[s.i]? with
      | none => exact ⟨⟨hflag, hsame, trivial, hhandler, hflight⟩, keepsAddr_nil⟩
      | some c =>
        have hnot : c ≠ .getLocalBdAddr := by
          rintro rfl
          exact hchip.first p rfl s.i hthread hc
        refine ⟨⟨hflag, hsame, ?_, hhandler, hflight⟩, keepsAddr_nil⟩
        cases a.allocOk with
        | true => exact ⟨hthread, hnot⟩
        | false => trivial
  case call c =>
    cases chip with
    | none => exact ⟨⟨hflag, hsame, by rw [hpc]; exact hthread, hhandler, hflight⟩, keepsAddr_nil⟩
    | some p =>
      have hdefault : ¬p.Default s.addr := by rw [hsame]; exact hchip.default p rfl
      rw [(call_spec p a c s).1, call_out hflag hdefault]
      exact ⟨⟨by simp [hflag], hsame, ⟨hthread.1, hthread.2, hsame⟩, hhandler, hflight⟩, keepsAddr_nil⟩
  case xmit c a' =>
    obtain ⟨hi, hnot, rfl⟩ := hthread
    split
    · refine ⟨⟨hflag, hsame, hi, hhandler, by simpa using hnot⟩, ?_⟩
      split <;> constructor <;> simp
    · exact ⟨⟨hflag, hsame, trivial, hhandler, hflight⟩, keepsAddr_nil⟩
  case test => split <;> exact ⟨⟨hflag, hsame, hthread, hhandler, hflight⟩, keepsAddr_nil⟩
  case unlock ok =>
    cases ok with
    | true => exact ⟨⟨hflag, hsame, Nat.le_succ_of_le hthread, hhandler, hflight⟩, keepsAddr_nil⟩
    | false => exact ⟨⟨hflag, hsame, trivial, hhandler, hflight⟩, keepsAddr_nil⟩
  case finish => exact ⟨⟨hflag, hsame, trivial, hhandler, hflight⟩, keepsAddr_fwcfgCb⟩
  case wait | done => exact hgo.elim
  all_goals exact ⟨⟨hflag, hsame, hthread, hhandler, hflight⟩, keepsAddr_nil⟩

theorem spares_wake {i : Nat} {pc : ThreadPc} (h : Spares addr i pc) : Spares addr i (wake pc) := by
  cases pc <;> exact h

theorem Spared.handlerStep (h : Spared addr s) : Spared addr (handlerStep s).1 ∧ KeepsAddr addr (handlerStep s).2 := by
  obtain ⟨hflag, hsame, hthread, hhandler, hflight⟩ := h
  unfold FwInit.handlerStep
  split <;> rename_i hh <;> rw [hh] at hhandler
  case h_1 => exact ⟨⟨hflag, hsame, hthread, by rw [hh]; trivial, hflight⟩, keepsAddr_nil⟩
  case h_2 =>
    rw [if_neg hhandler]
    exact ⟨⟨hflag, hsame, hthread, hhandler, hflight⟩, keepsAddr_nil⟩
  case h_3 => exact hhandler.elim
  case h_4 => exact ⟨⟨hflag, hsame, hthread, hhandler, hflight⟩, keepsAddr_nil⟩
  case h_5 => exact ⟨⟨hflag, hsame, hthread, hhandler, hflight⟩, by constructor <;> simp⟩
  case h_6 => exact ⟨⟨hflag, hsame, spares_wake hthread, hhandler, hflight⟩, keepsAddr_nil⟩
  case h_7 => exact ⟨⟨hflag, hsame, hthread, trivial, hflight⟩, keepsAddr_nil⟩

theorem Spared.step (h : Spared addr s) (hchip : Unaffected chip addr) (hen : Enabled s move) :
    Spared addr (step chip s move).1 ∧ KeepsAddr addr (step chip s move).2 := by
  cases move with
  | thread a => exact h.threadStep a hchip hen
  | handler => exact h.handlerStep
  | spuriousWakeup => exact ⟨⟨h.flag, h.same, spares_wake h.thread, h.handler, h.inFlight⟩, keepsAddr_nil⟩
  | deliver ev =>
    obtain ⟨sent, hsent⟩ := ne_none_iff_exists'.mp hen.1
    have heq : deliver ev s = { s with inFlight := none, handler := .running sent ev .compare } := by
      unfold deliver
      rw [hsent]
    show Spared addr (deliver ev s) ∧ KeepsAddr addr []
    rw [heq]
    refine ⟨⟨h.flag, h.same, h.thread, h.inFlight sent hsent, fun sent' h' => ?_⟩, keepsAddr_nil⟩
    exact absurd h'.symm (some_ne_none sent')

variable {st : Statics}

theorem run_spared {tr : List (Entry FwInit FwInitMove Effect)} (hrun : (machine chip st addr).Run tr s)
    (hflag : st.fgGetEFUSE = false) (hchip : Unaffected chip addr) :
    Spared addr s ∧ ∀ x ∈ tr, KeepsAddr addr x.out := by
  refine hrun.outputs_along (I := Spared addr) (C := fun _ => True) (O := fun x => KeepsAddr addr x.out) ?_ ?_
    (fun _ _ => trivial)
  · exact ⟨hflag, rfl, trivial, trivial, fun sent h => absurd h.symm (some_ne_none sent)⟩
  · intro s move h hen _
    exact h.step hchip hen

/-! ## A run without a script -/

/-- The init thread only reports the failure, and the flag is as it was. -/
structure Unloaded (st : Statics) (s : FwInit) : Prop where
  flag : s.fgGetEFUSE = st.fgGetEFUSE
  thread : s.thread = .start ∨ ∃ ret, s.thread = .finish ret ∨ s.thread = .done ret
  handler : s.handler = .idle
  inFlight : s.inFlight = none

theorem Unloaded.step (h : Unloaded st s) (hen : Enabled s move) :
    Unloaded st (step none s move).1 ∧ KeepsAddr addr (step none s move).2 := by
  obtain ⟨hflag, hthread, hhandler, hflight⟩ := h
  cases move with
  | thread a =>
    rcases hthread with hpc | ⟨ret, hpc | hpc⟩ <;> simp only [FwInit.step, threadStep, hpc]
    · exact ⟨⟨hflag, .inr ⟨false, .inl rfl⟩, hhandler, hflight⟩, keepsAddr_nil⟩
    · exact ⟨⟨hflag, .inr ⟨ret, .inr rfl⟩, hhandler, hflight⟩, keepsAddr_fwcfgCb⟩
    · have hgo : ThreadCanGo s.mutex s.thread := hen
      rw [hpc] at hgo
      exact hgo.elim
  | deliver ev => exact absurd hflight hen.1
  | handler =>
    have hgo : HandlerCanGo s.mutex s.handler := hen
    rw [hhandler] at hgo
    exact hgo.elim
  | spuriousWakeup =>
    have hwait : s.thread = .wait := hen
    rw [hwait] at hthread
    rcases hthread with hpc | ⟨ret, hpc | hpc⟩ <;> cases hpc

theorem run_unloaded {tr : List (Entry FwInit FwInitMove Effect)} {addr₀ : List UInt8} (addr : List UInt8)
    (hrun : (machine none st addr₀).Run tr s) : Unloaded st s ∧ ∀ x ∈ tr, KeepsAddr addr x.out := by
  refine hrun.outputs_along (I := Unloaded st) (C := fun _ => True) (O := fun x => KeepsAddr addr x.out) ?_ ?_
    (fun _ _ => trivial)
  · exact ⟨rfl, .inl rfl, rfl, rfl⟩
  · intro s move h hen _
    exact h.step hen

/-! ## One run -/

theorem preload_script {chipId : UInt32} {p : Chip} (hp : p ∈ preload chipId) : p.script = preloadScriptConsys := by
  have hsome : preload chipId = some p := hp
  unfold preload at hsome
  repeat' split at hsome
  all_goals cases hsome <;> rfl

theorem preload_first {chipId : UInt32} {p : Chip} (hp : p ∈ preload chipId) {k : Nat} (hk : 1 ≤ k) :
    p.script[k]? ≠ some .getLocalBdAddr := by
  obtain ⟨j, rfl⟩ := Nat.exists_eq_add_of_le' hk
  intro hget
  rw [preload_script hp] at hget
  have hmem : HciCommand.getLocalBdAddr ∈ preloadScriptConsys.tail := mem_of_getElem? (i := j) hget
  exact absurd hmem (by decide)

theorem eq_zeroAddr {addr : List UInt8} (hlen : addr.length = 6) (hzero : ∀ b ∈ addr, b = 0) : addr = zeroAddr := by
  have hrep : addr = List.replicate 6 0 := eq_replicate_iff.mpr ⟨hlen, hzero⟩
  exact hrep

theorem loadAddr_provisioned {p : Chip} {nvram : Nvram} (h : ¬p.Default nvram.addr) :
    loadAddr (some p) true nvram = nvram.addr := by
  have hzero : ¬(nvram.addr ++ nvram.rest).all (fun b => decide (b = 0)) = true := by
    intro hall
    refine h (.inr (eq_zeroAddr nvram.length_addr fun b hb => ?_))
    exact of_decide_eq_true (List.all_eq_true.mp hall b (mem_append_left _ hb))
  unfold loadAddr
  rw [if_neg]
  simpa using hzero

theorem clean_keeps {r : FwRun} {s : FwInit} (hrun : r.machine.Run r.tr s) (hprov : r.Provisioned) (hclean : r.Clean) :
    s.fgGetEFUSE = r.st.fgGetEFUSE ∧ r.Keeps := by
  have hruns : s.fgGetEFUSE = r.st.fgGetEFUSE ∧ ∀ x ∈ r.tr, KeepsAddr r.nvram.addr x.out := by
    unfold FwRun.machine at hrun
    cases hchip : preload r.chipId with
    | none =>
      rw [hchip] at hrun
      obtain ⟨hun, hout⟩ := run_unloaded r.nvram.addr hrun
      exact ⟨hun.flag, hout⟩
    | some p =>
      obtain ⟨hread, hflag⟩ := hclean p hchip
      rw [hchip, hread, loadAddr_provisioned (hprov p hchip)] at hrun
      have hun : Unaffected (some p) r.nvram.addr := by
        rw [← hchip]
        exact ⟨fun p hp k hk => preload_first hp hk, hprov⟩
      obtain ⟨hspared, hout⟩ := run_spared hrun hflag hun
      exact ⟨hspared.flag.trans hflag.symm, hout⟩
  refine ⟨hruns.1, fun addr hmem => ?_, fun params hmem => ?_⟩
  · obtain ⟨x, hx, hmem⟩ := mem_flatMap.mp hmem
    exact (hruns.2 x hx).nvram addr hmem
  · obtain ⟨x, hx, hmem⟩ := mem_flatMap.mp hmem
    exact (hruns.2 x hx).programmed params hmem

/-- The address is asked for and the event has this status; then the init thread takes some more steps. -/
def asked (status : UInt8) (more : Nat) : List FwInitMove :=
  List.replicate 5 granted ++ .deliver ⟨0x0E, 0x1009, status, [1, 2, 3, 4, 5, 6]⟩ :: List.replicate 6 .handler ++
    List.replicate more granted

theorem exists_nvramWrite {p : Chip} (hscript : p.script = preloadScriptConsys)
    (h : st.fgGetEFUSE = true ∨ p.Default addr) :
    ∃ tr s, (machine (some p) st addr).Run tr s ∧ .nvramWrite [6, 5, 4, 3, 2, 1] ∈ outs tr := by
  -- with the flag every test of the run has a fixed answer
  have hadm : (machine (some p) st addr).Admissible (start st addr) (asked 0 8) := by
    simp [asked, granted, List.replicate, Transducer.Admissible, Transducer.next, machine, start, step, threadStep,
      h, hscript, preloadScriptConsys, call, xmit, deliver, handlerStep, wake, HciEvent.Complete, Enabled,
      ThreadCanGo, HandlerCanGo]
  refine ⟨_, _, run_exec _ hadm, ?_⟩
  simp [asked, granted, List.replicate, exec, outs, entry, out,
    Transducer.next, machine, start, step, threadStep, h, hscript, preloadScriptConsys, call, xmit, deliver,
    handlerStep, wake, HciEvent.Complete]

/-- **One run.** Whatever the chip answers, the run keeps a provisioned address: exactly if it is clean. -/
theorem keeps_iff {r : FwRun} (hprov : r.Provisioned) :
    (∀ tr s, r.machine.Run tr s → FwRun.Keeps { r with tr := tr }) ↔ r.Clean := by
  constructor
  · intro hkeeps p hp
    have hchip : preload r.chipId = some p := hp
    have hstart : ¬(r.st.fgGetEFUSE = true ∨ p.Default (loadAddr (some p) r.readOk r.nvram)) := by
      intro h
      obtain ⟨tr, s, hrun, hmem⟩ := exists_nvramWrite (preload_script hp) h
      refine (hkeeps tr s ?_).nvram _ hmem
      unfold FwRun.machine
      rw [hchip]
      exact hrun
    obtain ⟨hflag, hdefault⟩ := not_or.mp hstart
    refine ⟨?_, Bool.eq_false_iff.mpr hflag⟩
    cases hread : r.readOk with
    | true => rfl
    | false =>
      rw [hread] at hdefault
      exact absurd (.inl rfl) hdefault
  · intro hclean tr s hrun
    exact (clean_keeps (r := { r with tr := tr }) hrun hprov hclean).2

/-! ## Processes -/

variable {runs : List FwRun}

theorem Process.run (h : Process runs st) : ∀ r ∈ runs, ∃ s, r.machine.Run r.tr s := by
  induction h with
  | nil => exact fun r hr => absurd hr not_mem_nil
  | snoc _ hrun ih =>
    intro r hr
    rcases mem_append.mp hr with hold | hnew
    · exact ih r hold
    · rw [mem_singleton.mp hnew]
      exact ⟨_, hrun⟩

/-- The init thread enters `GORMcmd_HCC_Set_Local_BD_Addr`. -/
def SetsAddr (x : Entry FwInit FwInitMove Effect) : Prop :=
  x.pre.thread = .call .setLocalBdAddr ∧ ∃ a, x.event = .thread a

/-- A run that finds no address comes to set one. -/
def FwRun.Settles (r : FwRun) : Prop :=
  ∀ p ∈ preload r.chipId, p.Default (loadAddr (some p) r.readOk r.nvram) → ∃ x ∈ r.tr, SetsAddr x

/-- A started thread does not start again, and only its first statement sets the flag. -/
theorem step_flag (p : Chip) (move : FwInitMove) (hstart : s.thread ≠ .start) :
    (step (some p) s move).1.thread ≠ .start ∧
      ((step (some p) s move).1.fgGetEFUSE = true →
        s.fgGetEFUSE = true ∧ ¬(s.thread = .call .setLocalBdAddr ∧ ∃ a, move = .thread a)) := by
  cases move with
  | thread a =>
    unfold step threadStep call xmit
    grind
  | deliver | handler | spuriousWakeup =>
    unfold step handlerStep deliver wake
    grind

/-- The flag is set only by a run that found no address and has not come to set one. -/
structure Unsettled (p : Chip) (st : Statics) (addr : List UInt8) (tr : List (Entry FwInit FwInitMove Effect))
    (s : FwInit) : Prop where
  fresh : s.thread = .start → tr = [] ∧ s = start st addr
  flag : s.fgGetEFUSE = true → p.Default addr ∧ ∀ x ∈ tr, ¬SetsAddr x

theorem run_unsettled {p : Chip} {tr : List (Entry FwInit FwInitMove Effect)}
    (hrun : (machine (some p) st addr).Run tr s) (hclear : st.fgGetEFUSE = false) : Unsettled p st addr tr s := by
  refine hrun.invariant_along (I := Unsettled p st addr) (C := fun _ => True) ?_ ?_ (fun _ _ => trivial)
  · exact ⟨fun _ => ⟨rfl, rfl⟩, fun h => absurd (hclear.symm.trans h) Bool.false_ne_true⟩
  · intro tr s move h hen _
    by_cases hstart : s.thread = .start
    · obtain ⟨rfl, rfl⟩ := h.fresh hstart
      cases move with
      | thread a =>
        refine ⟨ThreadPc.noConfusion, fun hflag => ?_⟩
        have hdefault : (st.fgGetEFUSE || decide (p.Default addr)) = true := hflag
        rw [hclear] at hdefault
        refine ⟨of_decide_eq_true hdefault, fun x hx hset => ?_⟩
        rw [mem_singleton.mp hx] at hset
        exact ThreadPc.noConfusion hset.1
      | deliver ev => exact absurd rfl hen.1
      | handler => exact hen.elim
      | spuriousWakeup => exact ThreadPc.noConfusion hen
    · obtain ⟨hkeep, hbefore⟩ := step_flag p move hstart
      refine ⟨fun heq => absurd heq hkeep, fun hflag => ?_⟩
      obtain ⟨hdefault, hnone⟩ := h.flag (hbefore hflag).1
      exact ⟨hdefault, forall_mem_append.mpr ⟨hnone, forall_mem_singleton.mpr (hbefore hflag).2⟩⟩

/-- **Which processes leave the flag clear**: those in which every run that finds no address comes to set one. Each of
    their runs that can read the NVRAM starts clean. -/
theorem Process.clean (h : Process runs st) (hsettles : ∀ r ∈ runs, r.Settles) :
    st.fgGetEFUSE = false ∧ ∀ r ∈ runs, r.readOk = true → r.Clean := by
  induction h with
  | nil => exact ⟨rfl, fun r hr => absurd hr not_mem_nil⟩
  | @snoc runs st chipId readOk nvram tr s h hrun ih =>
    obtain ⟨hclear, hclean⟩ := ih fun r hr => hsettles r (mem_append_left _ hr)
    have hlast : FwRun.Settles ⟨chipId, readOk, nvram, st, tr⟩ := hsettles _ (mem_append_right _ (mem_singleton_self _))
    refine ⟨?_, forall_mem_append.mpr ⟨hclean, forall_mem_singleton.mpr fun hread p _ => ⟨hread, hclear⟩⟩⟩
    cases hchip : preload chipId with
    | none =>
      rw [hchip] at hrun
      exact (run_unloaded zeroAddr hrun).1.flag.trans hclear
    | some p =>
      rw [hchip] at hrun
      refine Bool.eq_false_iff.mpr fun hflag => ?_
      obtain ⟨hdefault, hnone⟩ := (run_unsettled hrun hclear).flag hflag
      obtain ⟨x, hx, hset⟩ := hlast p hchip hdefault
      exact hnone x hx hset

/-- **A provisioned address is kept.** In every process, a run that finds a provisioned address and starts clean does
    not write the NVRAM and programs that address only. -/
theorem provisioned_kept {runs : List FwRun} {st : Statics} (hprocess : Process runs st)
    (hclean : ∀ r ∈ runs, r.Provisioned → r.Clean) : ∀ r ∈ runs, r.Provisioned → r.Keeps := by
  intro r hr hprov
  obtain ⟨s, hrun⟩ := hprocess.run r hr
  exact (keeps_iff hprov).mpr (hclean r hr hprov) r.tr s hrun

def fwRun (nvram : Nvram) (st : Statics) (moves : List FwInitMove) : FwRun :=
  ⟨0x0321, true, nvram, st, ((machine (preload 0x0321) st (loadAddr (preload 0x0321) true nvram)).exec moves).1⟩

def fwRunStatics (nvram : Nvram) (st : Statics) (moves : List FwInitMove) : Statics :=
  ((machine (preload 0x0321) st (loadAddr (preload 0x0321) true nvram)).exec moves).2.statics

theorem process_fwRun (h : Process runs st) (nvram : Nvram) (moves : List FwInitMove)
    (hadm : (machine (preload 0x0321) st (loadAddr (preload 0x0321) true nvram)).Admissible
      (start st (loadAddr (preload 0x0321) true nvram)) moves) :
    Process (runs ++ [fwRun nvram st moves]) (fwRunStatics nvram st moves) :=
  .snoc h (run_exec _ hadm)

def defaultNvram : Nvram := ⟨[0x00, 0x00, 0x46, 0x03, 0x21, 0x01], [0x60, 0x00], rfl⟩

def provisionedNvram : Nvram := ⟨[0xD0, 0x15, 0x4A, 0x01, 0x02, 0x03], [0x60, 0x00], rfl⟩

theorem provisioned_provisionedNvram {moves : List FwInitMove} : (fwRun provisionedNvram st moves).Provisioned := by
  show ∀ p ∈ preload 0x0321, ¬p.Default provisionedNvram.addr
  decide

/-- A run that finds no address and comes to set one, and a run that finds an address. -/
theorem provisioned_kept_second :
    let st := fwRunStatics defaultNvram newProcess (asked 0 8)
    (fwRun provisionedNvram st (List.replicate 5 granted)).Provisioned ∧
      (fwRun provisionedNvram st (List.replicate 5 granted)).Keeps := by
  intro st
  have hprocess : Process ([] ++ [fwRun defaultNvram newProcess (asked 0 8)] ++
      [fwRun provisionedNvram st (List.replicate 5 granted)]) _ :=
    process_fwRun (process_fwRun .nil defaultNvram _ (by decide)) provisionedNvram _ (by decide)
  refine ⟨provisioned_provisionedNvram, provisioned_kept hprocess (fun r hr _ => ?_) _
    (mem_append_right _ (mem_singleton_self _)) provisioned_provisionedNvram⟩
  rcases mem_append.mp hr with hr | hr
  · rw [mem_singleton.mp hr]
    exact fun _ _ => ⟨rfl, rfl⟩
  · rw [mem_singleton.mp hr]
    exact fun _ _ => ⟨rfl, by decide⟩

/-- A run that finds no address and fails when it asks for one; the next one finds an address, asks nevertheless, and
    writes the chip's address over it. -/
theorem provisioned_replaced :
    let st := fwRunStatics defaultNvram newProcess (asked 1 5)
    Process ([] ++ [fwRun defaultNvram newProcess (asked 1 5)] ++ [fwRun provisionedNvram st (asked 0 8)])
        (fwRunStatics provisionedNvram st (asked 0 8)) ∧
      (fwRun provisionedNvram st (asked 0 8)).Provisioned ∧ ¬(fwRun provisionedNvram st (asked 0 8)).Keeps := by
  intro st
  refine ⟨process_fwRun (process_fwRun .nil defaultNvram _ (by decide)) provisionedNvram _ (by decide),
    provisioned_provisionedNvram, fun h => ?_⟩
  exact h.nvram [6, 5, 4, 3, 2, 1] (by decide)

end HuaweiY5.Bluetooth.FwInit
