import HuaweiY5.Mnld.PingPangInv

/-!
# `Mnld.PingPangShutdown` — the last flush and the producer

When the log is switched off or its thread ends, `gps_dbg_log_pingpang_flush` takes a snapshot of `next_write`,
sets it to `NULL` and writes what is left in the buffers; `gps_dbg_log_pingpang_free` then frees them. The
producer looks at `next_write` without the flush's lock and only once, before it copies. Here the log thread
calls `gps_dbg_log_pingpang_write` as before and then shuts down, while the producer calls
`mnl_sys_alps_gps_dbg2file_mnld`, statement by statement and in any order.
-/

namespace HuaweiY5.Mnld.DbgLog

open List PingPang
open Transducer (Entry outs)

/-! ## The log thread's statements -/

/-- Where the log thread is: in its loop, at a statement of `gps_dbg_log_pingpang_flush` with the snapshot it has
    taken, or at one of `gps_dbg_log_pingpang_free`. -/
inductive LogPc
  | writing (w : WriterPc)
  | getCondition
  | snapshot
  | clear (tmp : Option Addr)
  | releaseCondition (tmp : Option Addr)
  | own (x : Side) (tmp : Option Addr)
  | others (x : Side) (tmp : Option Addr)
  | readable (x : Side) (tmp : Option Addr)
  | fwriteOther (x : Side) (tmp : Option Addr)
  | fwriteOwn (x : Side) (tmp : Option Addr)
  | free (x : Side)
  | zeroBody
  | zeroLenth (x : Side)
  | notInit (x : Side)
  | done
  deriving DecidableEq

/-- The next test when the branch of a buffer is not taken; after the second one the flush only logs. -/
def LogPc.elseBranch : Side → Option Addr → LogPc
  | .buffer1, tmp => .own .buffer2 tmp
  | .buffer2, _ => .free .buffer1

/-- `free` of a buffer whose address is set. -/
def PingPang.freeBuffer (p : PingPang) (x : Side) : PingPang :=
  { p with live := if p.startAddress x ≠ none then Function.update p.live x false else p.live }

/-- A statement of the log thread; `fwrite` writes everything. -/
def logStep (p : PingPang) : LogPc → PingPang × LogPc
  | .writing w => ((writerStep p w).1, .writing (writerStep p w).2)
  | .getCondition => ({ p with flushCondition := false }, .snapshot)
  | .snapshot => (p, .clear p.nextWrite)
  | .clear tmp => ({ p with nextWrite := none }, .releaseCondition tmp)
  | .releaseCondition tmp => ({ p with flushCondition := true }, .own .buffer1 tmp)
  | .own x tmp => (p, if p.state x = .writing then .others x tmp else .elseBranch x tmp)
  | .others x tmp => (p, if p.state x.other ≠ .writing then .readable x tmp else .elseBranch x tmp)
  | .readable x tmp => (p, if p.state x.other = .readable then .fwriteOther x tmp else .fwriteOwn x tmp)
  | .fwriteOther x tmp =>
    ({ p with file := p.file ++ content (p.memory x.other) (p.lenthToWrite x.other) }, .fwriteOwn x tmp)
  | .fwriteOwn x tmp =>
    -- the length is `tmp_next_write - start_address`
    ({ p with file := p.file ++ content (p.memory x) (filled { p with nextWrite := tmp } x) }, .free .buffer1)
  | .free .buffer1 => (p.freeBuffer .buffer1, .free .buffer2)
  | .free .buffer2 => (p.freeBuffer .buffer2, .zeroBody)
  | .zeroBody => ({ p with nextWrite := none, pointers := false, numLoose := 0 }, .zeroLenth .buffer1)
  | .zeroLenth .buffer1 => (p.setLenth .buffer1 0, .zeroLenth .buffer2)
  | .zeroLenth .buffer2 => (p.setLenth .buffer2 0, .notInit .buffer1)
  | .notInit .buffer1 => (p.setState .buffer1 .notInit, .notInit .buffer2)
  | .notInit .buffer2 => (p.setState .buffer2 .notInit, .done)
  | .done => (p, .done)

def BeforeSnapshot : LogPc → Prop
  | .writing _ | .getCondition | .snapshot => True
  | _ => False

def Flushed : LogPc → Prop
  | .free _ | .zeroBody | .zeroLenth _ | .notInit _ | .done => True
  | _ => False

/-! ## The producer and the log thread -/

structure Shutdown where
  body : PingPang
  producer : ProducerPc
  log : LogPc

/-- A step: a call of `mnl_sys_alps_gps_dbg2file_mnld` or a statement of it; a call of
    `gps_dbg_log_pingpang_write`, the flush at the end or a statement of the log thread;
    `gps_stop_dbglog_release_condition`; or the switch of the debug log. -/
inductive ShutdownMove
  | dbg2file (m : Msg)
  | producer
  | write
  | flush
  | log
  | stop
  | switch (on : Bool)
  deriving DecidableEq

namespace Shutdown

def step (s : Shutdown) : ShutdownMove → Shutdown × List Effect
  | .dbg2file m => ({ s with producer := .debuglog m }, [])
  | .producer =>
    let r := producerStep s.body s.producer
    ({ s with body := r.1, producer := r.2.1 }, r.2.2)
  | .write => ({ s with log := .writing (.own .buffer1) }, [])
  | .flush => ({ s with log := .getCondition }, [])
  | .log =>
    let r := logStep s.body s.log
    ({ s with body := r.1, log := r.2 }, [])
  | .stop => ({ s with body := { s.body with writeCondition := true, flushCondition := true } }, [])
  | .switch on => ({ s with body := { s.body with debuglog := on } }, [])

/-- A thread takes a call when it is in none, and a statement when it is in one; `get_condition` waits for its
    condition. -/
def Enabled (s : Shutdown) : ShutdownMove → Prop
  | .dbg2file _ => s.producer = .idle
  | .producer => s.producer ≠ .idle ∧ s.producer ≠ .crashed
  | .write | .flush => s.log = .writing .idle
  | .log => s.log ≠ .writing .idle ∧ s.log ≠ .done ∧ (s.log = .getCondition → s.body.flushCondition = true)
  | .stop | .switch _ => True

def machine : Transducer Shutdown ShutdownMove Effect where
  init := ⟨.init, .idle, .writing .idle⟩
  enabled := Enabled
  step := step

instance instDecidableEnabled (s : Shutdown) : (move : ShutdownMove) → Decidable (machine.enabled s move)
  | .dbg2file _ | .write | .flush => inferInstanceAs (Decidable (_ = _))
  | .producer | .log => inferInstanceAs (Decidable (_ ∧ _))
  | .stop | .switch _ => isTrue trivial

/-- **A safe shutdown**: the producer is not killed, every message is copied into a live buffer and before the
    snapshot, and once the flush has returned the file holds the messages copied, in order and but for those
    discarded. -/
structure Safe (tr : List (Entry Shutdown ShutdownMove Effect)) (s : Shutdown) : Prop where
  alive : s.producer ≠ .crashed
  copies : ∀ e ∈ tr, ∀ target m, .copied target m ∈ e.out → (∃ x, target = .buffer x) ∧ BeforeSnapshot e.pre.log
  flushed : Flushed s.log → s.body.file = (keptOf (outs tr)).messages.flatten

/-! ## When it is safe -/

/-- The producer is in no call, or has not looked at `next_write` yet. -/
def Outside : ProducerPc → Prop
  | .idle | .debuglog _ | .nextWrite _ => True
  | _ => False

instance instDecidableOutside : DecidablePred Outside
  | .idle | .debuglog _ | .nextWrite _ => isTrue trivial
  | .own _ _ | .others _ _ | .room _ _ | .writable _ _ | .lenth _ _ | .turn _ _ | .take _ _ | .hand _ _ | .release _
  | .wipe _ _ | .restart _ _ | .loose _ _ | .copy _ | .advance _ | .crashed => isFalse id

/-- The producer tests `next_write`. -/
def Tests : ProducerPc → Prop
  | .nextWrite _ => True
  | _ => False

/-- The flush is between its snapshot and the statement that clears `next_write`. -/
def Clears : LogPc → Prop
  | .clear _ => True
  | _ => False

/-- Messages fit into a buffer, the snapshot is taken while no copy is under way, and `next_write` is not tested
    between the snapshot and the statement that clears it. -/
def Sheltered (s : Shutdown) : ShutdownMove → Prop
  | .dbg2file m => Fits m
  | .log => s.log = .snapshot → Outside s.producer
  | .producer => Tests s.producer → ¬Clears s.log
  | _ => True

instance instDecidableTests : DecidablePred Tests
  | .nextWrite _ => isTrue trivial
  | .idle | .debuglog _ | .own _ _ | .others _ _ | .room _ _ | .writable _ _ | .lenth _ _ | .turn _ _ | .take _ _
  | .hand _ _ | .release _ | .wipe _ _ | .restart _ _ | .loose _ _ | .copy _ | .advance _ | .crashed => isFalse id

instance instDecidableClears : DecidablePred Clears
  | .clear _ => isTrue trivial
  | .writing _ | .getCondition | .snapshot | .releaseCondition _ | .own _ _ | .others _ _ | .readable _ _
  | .fwriteOther _ _ | .fwriteOwn _ _ | .free _ | .zeroBody | .zeroLenth _ | .notInit _ | .done => isFalse id

instance instDecidableSheltered (s : Shutdown) : (move : ShutdownMove) → Decidable (Sheltered s move)
  | .dbg2file _ => inferInstanceAs (Decidable (_ ≤ _))
  | .log => inferInstanceAs (Decidable (_ → Outside s.producer))
  | .producer => inferInstanceAs (Decidable (Tests s.producer → ¬Clears s.log))
  | .write | .flush | .stop | .switch _ => isTrue trivial

/-- What the flush found: the buffer `x` is the producer's, filled up to the snapshot. -/
structure Snapshot (k : Kept) (p : PingPang) (tmp : Option Addr) (x : Side) (n : Nat) : Prop where
  own : p.state x = .writing
  other : p.state x.other ≠ .writing
  tmp : tmp = some ⟨x, n⟩
  handed : p.file ++ unwritten p .idle x.other = k.handed.flatten
  held : content (p.memory x) n = k.held.flatten
  reading : p.state x.other ≠ .reading

/-- What holds where the log thread is, once `next_write` is cleared. -/
def Flushing (k : Kept) (p : PingPang) : LogPc → Prop
  | .releaseCondition tmp => ∃ x n, Snapshot k p tmp x n
  | .own y tmp => ∃ x n, Snapshot k p tmp x n ∧ (y = .buffer2 → x = .buffer2)
  | .others x tmp | .readable x tmp => ∃ n, Snapshot k p tmp x n
  | .fwriteOther x tmp => ∃ n, Snapshot k p tmp x n ∧ p.state x.other = .readable
  | .fwriteOwn x tmp =>
    ∃ n, tmp = some ⟨x, n⟩ ∧ p.file = k.handed.flatten ∧ content (p.memory x) n = k.held.flatten
  | .free _ | .zeroBody | .zeroLenth _ | .notInit _ | .done => p.file = k.messages.flatten
  | _ => False

/-- What holds of the shared data and the producer, wherever the log thread is. -/
def Guarded (k : Kept) (p : PingPang) (pc : ProducerPc) : LogPc → Prop
  | .writing w => Inv k p pc w
  | .getCondition | .snapshot => Inv k p pc .idle
  | .clear tmp => Inv k p pc .idle ∧ Outside pc ∧ p.nextWrite = tmp
  | log => Outside pc ∧ p.nextWrite = none ∧ Flushing k p log

variable {k : Kept} {p : PingPang} {pc : ProducerPc} {log : LogPc}

theorem Guarded.of_flushing (hout : Outside pc) (hnext : p.nextWrite = none) (h : Flushing k p log) :
    Guarded k p pc log := by
  cases log with
  | writing w | getCondition | snapshot | clear tmp => exact h.elim
  | _ => exact ⟨hout, hnext, h⟩

theorem Guarded.alive (h : Guarded k p pc log) : pc ≠ .crashed := by
  rintro rfl
  cases log with
  | writing w | getCondition | snapshot => exact h.producer
  | clear tmp => exact h.1.producer
  | _ => exact h.1

theorem Guarded.flushed (h : Guarded k p pc log) (hlog : Flushed log) : p.file = k.messages.flatten := by
  cases log with
  | free | zeroBody | zeroLenth | notInit | done => exact h.2.2
  | _ => exact hlog.elim

/-! ### The conditions and the switch -/

/-- The same buffers under other conditions and another switch. -/
abbrev flagged (p : PingPang) (write flush on : Bool) : PingPang :=
  { p with writeCondition := write, flushCondition := flush, debuglog := on }

theorem inv_flags {w : WriterPc} (write flush on : Bool) (h : Inv k p pc w) :
    Inv k (flagged p write flush on) pc w := by
  have hm : WriterMoves p w (flagged p write flush on) w :=
    ⟨rfl, rfl, rfl, rfl, fun _ => Iff.rfl, fun _ h => h, fun _ _ => rfl, fun _ _ => rfl, fun _ _ => rfl⟩
  exact ⟨h.pointers, h.live, h.writer.congr rfl rfl, h.producer.stable hm⟩

theorem Snapshot.flags {tmp : Option Addr} {x : Side} {n : Nat} (write flush on : Bool) (h : Snapshot k p tmp x n) :
    Snapshot k (flagged p write flush on) tmp x n :=
  ⟨h.own, h.other, h.tmp, h.handed, h.held, h.reading⟩

theorem Flushing.flags (write flush on : Bool) (h : Flushing k p log) :
    Flushing k (flagged p write flush on) log := by
  cases log with
  | releaseCondition tmp =>
    obtain ⟨x, n, hs⟩ := h
    exact ⟨x, n, hs.flags write flush on⟩
  | own y tmp =>
    obtain ⟨x, n, hs, hy⟩ := h
    exact ⟨x, n, hs.flags write flush on, hy⟩
  | others x tmp | readable x tmp =>
    obtain ⟨n, hs⟩ := h
    exact ⟨n, hs.flags write flush on⟩
  | fwriteOther x tmp =>
    obtain ⟨n, hs, hread⟩ := h
    exact ⟨n, hs.flags write flush on, hread⟩
  | _ => exact h

theorem Guarded.flags (write flush on : Bool) (h : Guarded k p pc log) :
    Guarded k (flagged p write flush on) pc log := by
  cases log with
  | writing w | getCondition | snapshot => exact inv_flags write flush on h
  | clear tmp => exact ⟨inv_flags write flush on h.1, h.2⟩
  | _ => exact ⟨h.1, h.2.1, h.2.2.flags write flush on⟩

/-! ### The log thread -/

theorem snapshot_of_inv (h : Inv k p pc .idle) (hout : Outside pc) :
    ∃ x n, Snapshot k { p with nextWrite := none } p.nextWrite x n := by
  obtain ⟨x, n, hf⟩ : ∃ x n, Filling k p .idle x n := by
    have hproducer := h.producer
    cases pc with
    | idle => exact hproducer
    | debuglog m | nextWrite m => exact hproducer.2
    | _ => exact hout.elim
  refine ⟨x, n, hf.own, hf.other, hf.next, hf.handed, hf.held, fun hreading => ?_⟩
  exact (h.writer.reading x.other).mp hreading

theorem logStep_flushing (h : Flushing k p log) : Flushing k (logStep p log).1 (logStep p log).2 := by
  cases log <;> simp only [logStep]
  case writing | getCondition | snapshot | clear => exact h.elim
  case releaseCondition tmp =>
    obtain ⟨x, n, hs⟩ := h
    exact ⟨x, n, ⟨hs.own, hs.other, hs.tmp, hs.handed, hs.held, hs.reading⟩, Side.noConfusion⟩
  case own y tmp =>
    obtain ⟨x, n, hs, hy⟩ := h
    by_cases hyx : y = x
    · subst hyx
      rw [if_pos hs.own]
      exact ⟨n, hs⟩
    · rw [if_neg (mt (writing_iff hs.own hs.other y).mp hyx)]
      cases y with
      | buffer1 => exact ⟨x, n, hs, fun _ => by cases x <;> trivial⟩
      | buffer2 => exact absurd (hy rfl).symm hyx
  case others x tmp =>
    obtain ⟨n, hs⟩ := h
    rw [if_pos hs.other]
    exact ⟨n, hs⟩
  case readable x tmp =>
    obtain ⟨n, hs⟩ := h
    split
    · rename_i hread
      exact ⟨n, hs, hread⟩
    · refine ⟨n, hs.tmp, ?_, hs.held⟩
      -- a buffer that is neither readable nor being read has nothing left to write
      have hnone : unwritten p .idle x.other = [] := by
        unfold unwritten
        split
        · contradiction
        · exact absurd ‹_› hs.reading
        · rfl
      rw [← hs.handed, hnone, append_nil]
  case fwriteOther x tmp =>
    obtain ⟨n, hs, hread⟩ := h
    refine ⟨n, hs.tmp, ?_, hs.held⟩
    rw [← hs.handed, unwritten_readable hread]
  case fwriteOwn x tmp =>
    obtain ⟨n, rfl, hfile, hheld⟩ := h
    simp [Flushing, filled, hfile, hheld, Kept.messages]
  case free x | zeroLenth x | notInit x => cases x <;> exact h
  case zeroBody | done => exact h

theorem logStep_nextWrite (hnext : p.nextWrite = none) (h : Flushing k p log) :
    (logStep p log).1.nextWrite = none := by
  cases log with
  | writing w => exact h.elim
  | free x | zeroLenth x | notInit x => cases x <;> exact hnext
  | clear | zeroBody => rfl
  | _ => exact hnext

theorem Guarded.logStep (h : Guarded k p pc log) (hsnap : log = .snapshot → Outside pc) :
    Guarded k (logStep p log).1 pc (logStep p log).2 := by
  cases log with
  | writing w => exact Inv.write h
  | getCondition => exact inv_flags p.writeCondition false p.debuglog h
  | snapshot => exact ⟨h, hsnap rfl, rfl⟩
  | clear tmp =>
    obtain ⟨hinv, hout, rfl⟩ := h
    exact ⟨hout, rfl, snapshot_of_inv hinv hout⟩
  | _ =>
    obtain ⟨hout, hnext, hflush⟩ := h
    exact .of_flushing hout (logStep_nextWrite hnext hflush) (logStep_flushing hflush)

/-! ### The producer -/

theorem copied_mem_producerStep {target : Target} {m : Msg} (h : .copied target m ∈ (producerStep p pc).2.2) :
    pc = .copy m ∧ target = p.target := by
  unfold producerStep at h
  split at h
  · cases h
  · cases pc with
    | copy m' =>
      obtain ⟨rfl, rfl⟩ : target = p.target ∧ m = m' := by
        simpa [producerStatement] using h
      exact ⟨rfl, rfl⟩
    | _ => simp [producerStatement] at h

theorem target_of_inv {w : WriterPc} {m : Msg} (h : Inv k p (.copy m) w) : ∃ x, p.target = .buffer x := by
  obtain ⟨x, n, hf, -⟩ := h.producer
  refine ⟨x, ?_⟩
  simp [PingPang.target, hf.next, h.live x]

theorem producerStep_outside (hout : Outside pc) (hnext : Tests pc → p.nextWrite = none) :
    (producerStep p pc).1 = p ∧ (producerStep p pc).2.2 = [] ∧ Outside (producerStep p pc).2.1 := by
  cases pc with
  | idle => exact ⟨rfl, rfl, trivial⟩
  | debuglog m =>
    refine ⟨rfl, rfl, ?_⟩
    simp only [producerStep, producerStatement]
    cases p.debuglog <;> trivial
  | nextWrite m =>
    refine ⟨rfl, rfl, ?_⟩
    show Outside (if p.nextWrite ≠ none then .own .buffer1 m else .idle)
    rw [if_neg (not_not.mpr (hnext trivial))]
    trivial
  | _ => exact hout.elim

theorem Guarded.producerStep (h : Guarded k p pc log) (htest : Tests pc → ¬Clears log) :
    Guarded (k.noteAll (producerStep p pc).2.2) (producerStep p pc).1 (producerStep p pc).2.1 log := by
  cases log with
  | writing w | getCondition | snapshot => exact Inv.produce h
  | clear tmp =>
    obtain ⟨hinv, hout, rfl⟩ := h
    obtain ⟨hp, -, hout'⟩ := producerStep_outside hout (fun ht => absurd trivial (htest ht))
    exact ⟨hinv.produce, hout', by rw [hp]⟩
  | _ =>
    obtain ⟨hout, hnext, hflush⟩ := h
    obtain ⟨hp, hnone, hout'⟩ := producerStep_outside hout (fun _ => hnext)
    rw [hp, hnone]
    exact .of_flushing hout' hnext hflush

theorem Guarded.copied {target : Target} {m : Msg} (h : Guarded k p pc log)
    (hmem : .copied target m ∈ (DbgLog.producerStep p pc).2.2) : (∃ x, target = .buffer x) ∧ BeforeSnapshot log := by
  obtain ⟨rfl, rfl⟩ := copied_mem_producerStep hmem
  cases log with
  | writing w | getCondition | snapshot => exact ⟨target_of_inv h, trivial⟩
  | clear tmp => exact h.2.1.elim
  | _ => exact h.1.elim

theorem Guarded.call {m : Msg} (h : Guarded k p .idle log) (hfits : Fits m) : Guarded k p (.debuglog m) log := by
  have hcall : ∀ {w}, Inv k p .idle w → Inv k p (.debuglog m) w := fun hinv =>
    ⟨hinv.pointers, hinv.live, hinv.writer, hfits, hinv.producer⟩
  cases log with
  | writing w | getCondition | snapshot => exact hcall h
  | clear tmp => exact ⟨hcall h.1, trivial, h.2.2⟩
  | _ => exact ⟨trivial, h.2⟩

/-! ## Whole runs -/

theorem Guarded.step {s : Shutdown} {move : ShutdownMove} (h : Guarded k s.body s.producer s.log)
    (hen : machine.enabled s move) (hs : Sheltered s move) :
    Guarded (k.noteAll (machine.out s move)) (machine.next s move).body (machine.next s move).producer
      (machine.next s move).log := by
  cases move with
  | dbg2file m =>
    have hidle : s.producer = .idle := hen
    rw [hidle] at h
    exact h.call hs
  | producer => exact h.producerStep hs
  | write =>
    have hlog : s.log = .writing .idle := hen
    have hinv : Inv k s.body s.producer .idle := by
      rw [hlog] at h
      exact h
    exact hinv.call
  | flush =>
    have hlog : s.log = .writing .idle := hen
    rw [hlog] at h
    exact h
  | log => exact h.logStep hs
  | stop => exact h.flags true true s.body.debuglog
  | switch on => exact h.flags s.body.writeCondition s.body.flushCondition on

theorem Guarded.copies {s : Shutdown} {move : ShutdownMove} (h : Guarded k s.body s.producer s.log)
    (target : Target) (m : Msg) (hmem : .copied target m ∈ machine.out s move) :
    (∃ x, target = .buffer x) ∧ BeforeSnapshot s.log := by
  cases move with
  | producer => exact h.copied hmem
  | dbg2file | write | flush | log | stop | switch => cases hmem

/-- **A sheltered shutdown is safe.** If every message fits into a buffer, the flush takes its snapshot while no
    copy is under way and no call tests `next_write` between the snapshot and its clearing, then however the
    statements come every message is copied into a live buffer before the snapshot, and reaches the file. -/
theorem shutdown_safe {tr : List (Entry Shutdown ShutdownMove Effect)} {s : Shutdown}
    (hrun : machine.Run tr s) (hsheltered : ∀ e ∈ tr, Sheltered e.pre e.event) : Safe tr s := by
  have hall : Guarded (keptOf (outs tr)) s.body s.producer s.log ∧
      ∀ e ∈ tr, ∀ target m, .copied target m ∈ e.out → (∃ x, target = .buffer x) ∧ BeforeSnapshot e.pre.log := by
    refine hrun.invariant_along
      (I := fun tr s => Guarded (keptOf (outs tr)) s.body s.producer s.log ∧
        ∀ e ∈ tr, ∀ target m, .copied target m ∈ e.out → (∃ x, target = .buffer x) ∧ BeforeSnapshot e.pre.log)
      (C := fun e => Sheltered e.pre e.event) ⟨?_, ?_⟩ ?_ hsheltered
    · exact inv_init
    · exact fun e he => absurd he not_mem_nil
    · rintro tr s move ⟨hg, hcopies⟩ hen hs
      constructor
      · rw [Transducer.outs_append, Transducer.outs_singleton, keptOf_append]
        exact hg.step hen hs
      · intro e he
        rcases mem_append.mp he with hold | hnew
        · exact hcopies e hold
        · rw [mem_singleton.mp hnew]
          exact hg.copies
  exact ⟨hall.1.alive, hall.2, hall.1.flushed⟩

/-- A message copied, then the shutdown to its end. -/
theorem shutdown_safe_message :
    let moves : List ShutdownMove := [.dbg2file [7]] ++ List.replicate 7 .producer ++ [.stop, .flush] ++
      List.replicate 14 .log
    machine.Admissible machine.init moves ∧ Safe (machine.exec moves).1 (machine.exec moves).2 := by
  exact ⟨by decide, shutdown_safe (machine.run_exec (by decide)) (machine.exec_along (by decide))⟩

/-- The producer has tested `next_write` when the flush clears it: the message is copied to `NULL`. -/
theorem shutdown_unsafe :
    let moves : List ShutdownMove := [.dbg2file [7], .producer, .producer, .stop, .flush, .log, .log, .log,
      .producer, .producer, .producer, .producer]
    machine.Admissible machine.init moves ∧ ¬Safe (machine.exec moves).1 (machine.exec moves).2 := by
  refine ⟨by decide, fun h => ?_⟩
  exact h.alive (by decide)

end Shutdown

end HuaweiY5.Mnld.DbgLog
