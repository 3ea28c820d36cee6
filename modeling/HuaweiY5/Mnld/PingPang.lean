import HuaweiY5.Lib.Transducer

/-!
# `Mnld.PingPang` — the debug log's ping-pong buffer

MNL's debug messages are copied into one of two buffers (`gps_dbg_log_pingpang_copy`) while the log thread
writes the other one to the file (`gps_dbg_log_pingpang_write`). There is no lock: a buffer changes hands
through its state word and its length. Here every statement of the two functions, and every read of a state
in a condition, is a step of its own, and the two threads' steps come in any order.
-/

namespace HuaweiY5.Mnld.DbgLog

open List

/-! ## The buffers -/

def pingpangBufferSize : Nat := 20 * 1024

/-- The offset of `end_address_buffer1` and `end_address_buffer2` in their buffers. -/
def endOffset : Nat := pingpangBufferSize - 2

inductive BufferState
  | notInit
  | writable
  | writing
  | readable
  | reading
  deriving DecidableEq

inductive Side
  | buffer1
  | buffer2
  deriving DecidableEq

def Side.other : Side → Side
  | .buffer1 => .buffer2
  | .buffer2 => .buffer1

@[simp] theorem Side.other_other (x : Side) : x.other.other = x := by cases x <;> rfl
@[simp] theorem Side.other_ne (x : Side) : x.other ≠ x := by cases x <;> decide
@[simp] theorem Side.ne_other (x : Side) : x ≠ x.other := by cases x <;> decide

theorem Side.other_of_ne {x y : Side} (h : y ≠ x) : y.other = x := by
  cases x <;> cases y <;> first | rfl | exact absurd rfl h

structure Addr where
  side : Side
  offset : Nat
  deriving DecidableEq

abbrev Msg := List UInt8

abbrev Memory := Nat → UInt8

variable (mem : Memory)

/-- `memcpy` of a message to an offset. -/
def memcpy (offset : Nat) (m : Msg) : Memory := fun i =>
  if offset ≤ i then (m[i - offset]?).getD (mem i) else mem i

/-- `memset` of a whole buffer to zero. -/
def memset : Memory := fun i => if i < pingpangBufferSize then 0 else mem i

def content (n : Nat) : Msg := (List.range n).map mem

theorem content_memcpy (n : Nat) (m : Msg) : content (memcpy mem n m) (n + m.length) = content mem n ++ m := by
  apply ext_getElem
  · simp [content]
  · intro i h₁ h₂
    simp only [content, getElem_map, getElem_range, getElem_append, length_map, length_range, memcpy]
    by_cases hi : i < n
    · rw [if_neg (by omega), dif_pos hi]
    · have hlen : i - n < m.length := by
        simp only [content, length_map, length_range] at h₁
        omega
      rw [if_pos (by omega), dif_neg hi, getElem?_eq_getElem hlen, Option.getD_some]

/-- `ping_pang_buffer_body` and what its pointers lead to. -/
structure PingPang where
  nextWrite : Option Addr
  pointers : Bool
  state : Side → BufferState
  lenthToWrite : Side → Nat
  numLoose : Nat
  memory : Side → Memory
  /-- The buffer is allocated. -/
  live : Side → Bool
  /-- `condtion` of `lock_for_sync[PINGPANG_WRITE_LOCK]`. -/
  writeCondition : Bool
  /-- `condtion` of `lock_for_sync[PINGPANG_FLUSH_LOCK]`. -/
  flushCondition : Bool
  /-- `gps_debuglog_state` is `MTK_GPS_ENABLE_DEBUG_MSG_WR_BY_MNLD`. -/
  debuglog : Bool
  file : List UInt8

namespace PingPang

/-- `gps_dbg_log_pingpang_init`, both allocations made; the log is switched on. -/
def init : PingPang where
  nextWrite := some ⟨.buffer1, 0⟩
  pointers := true
  state := fun
    | .buffer1 => .writing
    | .buffer2 => .writable
  lenthToWrite := fun _ => 0
  numLoose := 0
  memory := fun _ _ => 0
  live := fun _ => true
  writeCondition := false
  flushCondition := false
  debuglog := true
  file := []

variable (p : PingPang) (x : Side)

def setState (st : BufferState) : PingPang := { p with state := Function.update p.state x st }

def setLenth (n : Nat) : PingPang := { p with lenthToWrite := Function.update p.lenthToWrite x n }

def setMemory (mem : Memory) : PingPang := { p with memory := Function.update p.memory x mem }

/-- `start_address_buffer1` or `start_address_buffer2`. -/
def startAddress : Option Addr := if p.pointers then some ⟨x, 0⟩ else none

/-- `next_write + len > end_address`. -/
def exceeds (len : Nat) : Bool :=
  match p.pointers, p.nextWrite with
  | true, some a => decide (a.side = x ∧ a.offset + len > endOffset)
  | true, none => false
  | false, some _ => true
  | false, none => decide (len > 0)

/-- `next_write - start_address`. -/
def filled : Nat :=
  match p.nextWrite with
  | some a => if a.side = x then a.offset else 0
  | none => 0

end PingPang

open PingPang

/-! ## The producer's statements -/

/-- Where the producer is: at the two tests of `mnl_sys_alps_gps_dbg2file_mnld`, at a test or a statement of
    `gps_dbg_log_pingpang_copy` in the branch of the buffer `x`, or killed by an access through `NULL`. -/
inductive ProducerPc
  | idle
  | debuglog (m : Msg)
  | nextWrite (m : Msg)
  | own (x : Side) (m : Msg)
  | others (x : Side) (m : Msg)
  | room (x : Side) (m : Msg)
  | writable (x : Side) (m : Msg)
  | lenth (x : Side) (m : Msg)
  | turn (x : Side) (m : Msg)
  | take (x : Side) (m : Msg)
  | hand (x : Side) (m : Msg)
  | release (m : Msg)
  | wipe (x : Side) (m : Msg)
  | restart (x : Side) (m : Msg)
  | loose (x : Side) (m : Msg)
  | copy (m : Msg)
  | advance (m : Msg)
  | crashed
  deriving DecidableEq

/-- What a `memcpy` writes to. -/
inductive Target
  | null
  | freed (x : Side)
  | buffer (x : Side)
  deriving DecidableEq

/-- What a step does to the log: a message is copied, the filled buffer is handed to the writer, or its
    messages are discarded and `num_loose` is incremented. -/
inductive Effect
  | copied (target : Target) (m : Msg)
  | handed
  | loosed
  deriving DecidableEq

/-- The next test when the branch of a buffer is not taken; after the second one the call returns an error. -/
def elseBranch : Side → Msg → ProducerPc
  | .buffer1, m => .own .buffer2 m
  | .buffer2, _ => .idle

/-- The statement goes through one of the body's pointers. -/
def ProducerPc.derefs : ProducerPc → Bool
  | .own _ _ | .others _ _ | .writable _ _ | .lenth _ _ | .take _ _ | .hand _ _ | .wipe _ _ => true
  | _ => false

variable (p : PingPang) (effects : List Effect)

/-- What the `memcpy` writes to. -/
def PingPang.target : Target :=
  match p.nextWrite with
  | none => .null
  | some a => if p.live a.side then .buffer a.side else .freed a.side

/-- The `memcpy`. -/
def PingPang.copyTo (m : Msg) : PingPang :=
  match p.nextWrite with
  | none => p
  | some a => p.setMemory a.side (memcpy (p.memory a.side) a.offset m)

/-- A statement of the producer, its pointers being set. -/
def producerStatement : ProducerPc → PingPang × ProducerPc × List Effect
  | .idle => (p, .idle, [])
  | .debuglog m => (p, if p.debuglog then .nextWrite m else .idle, [])
  | .nextWrite m => (p, if p.nextWrite ≠ none then .own .buffer1 m else .idle, [])
  | .own x m => (p, if p.state x = .writing then .others x m else elseBranch x m, [])
  | .others x m => (p, if p.state x.other ≠ .writing then .room x m else elseBranch x m, [])
  | .room x m => (p, if p.exceeds x m.length then .writable x m else .copy m, [])
  | .writable x m => (p, if p.state x.other = .writable then .lenth x m else .wipe x m, [])
  | .lenth x m => (p.setLenth x (p.filled x), .turn x m, [])
  | .turn x m => ({ p with nextWrite := p.startAddress x.other }, .take x m, [])
  | .take x m => (p.setState x.other .writing, .hand x m, [])
  | .hand x m => (p.setState x .readable, .release m, [.handed])
  | .release m => ({ p with writeCondition := true }, .copy m, [])
  | .wipe x m => (p.setMemory x (memset (p.memory x)), .restart x m, [])
  | .restart x m => ({ p with nextWrite := p.startAddress x }, .loose x m, [])
  | .loose _ m => ({ p with numLoose := p.numLoose + 1 }, .copy m, [.loosed])
  | .copy m => (p.copyTo m, if p.nextWrite = none then .crashed else .advance m, [.copied p.target m])
  | .advance m =>
    ({ p with nextWrite := p.nextWrite.map fun a => ⟨a.side, a.offset + m.length⟩ }, .idle, [])
  | .crashed => (p, .crashed, [])

def producerStep (pc : ProducerPc) : PingPang × ProducerPc × List Effect :=
  if pc.derefs && !p.pointers then (p, .crashed, []) else producerStatement p pc

/-! ## The writer's statements -/

/-- Where the log thread is in `gps_dbg_log_pingpang_write`. -/
inductive WriterPc
  | idle
  | own (x : Side)
  | others (x : Side)
  | lenth (x : Side)
  | take (x : Side)
  | fwrite (x : Side)
  | wipe (x : Side)
  | zero (x : Side)
  | giveBack (x : Side)
  deriving DecidableEq

/-- The next test when the branch of a buffer is not taken. -/
def WriterPc.elseBranch : Side → WriterPc
  | .buffer1 => .own .buffer2
  | .buffer2 => .idle

/-- A statement of the log thread; `fwrite` writes everything. -/
def writerStep : WriterPc → PingPang × WriterPc
  | .idle => (p, .idle)
  | .own x => (p, if p.state x = .readable then .others x else .elseBranch x)
  | .others x => (p, if p.state x.other ≠ .readable then .lenth x else .elseBranch x)
  | .lenth x => (p, if p.lenthToWrite x ≠ 0 then .take x else .elseBranch x)
  | .take x => (p.setState x .reading, .fwrite x)
  | .fwrite x => ({ p with file := p.file ++ content (p.memory x) (p.lenthToWrite x) }, .wipe x)
  | .wipe x => (p.setMemory x (memset (p.memory x)), .zero x)
  | .zero x => (p.setLenth x 0, .giveBack x)
  | .giveBack x => (p.setState x .writable, .idle)

/-! ## The log -/

/-- The messages that were not discarded: those in buffers handed to the writer, and those in the buffer that
    is being filled. -/
structure Kept where
  handed : List Msg
  held : List Msg

def Kept.note (k : Kept) : Effect → Kept
  | .copied _ m => { k with held := k.held ++ [m] }
  | .handed => ⟨k.handed ++ k.held, []⟩
  | .loosed => { k with held := [] }

def Kept.noteAll (k : Kept) (effects : List Effect) : Kept := effects.foldl Kept.note k

def keptOf : Kept := Kept.noteAll ⟨[], []⟩ effects

def Kept.messages (k : Kept) : List Msg := k.handed ++ k.held

def Effect.message : Effect → Option Msg
  | .copied _ m => some m
  | _ => none

def copied : List Msg := effects.filterMap Effect.message

theorem keptOf_append (e e' : List Effect) : keptOf (e ++ e') = (keptOf e).noteAll e' := foldl_append

@[simp] theorem copied_append (e e' : List Effect) : copied (e ++ e') = copied e ++ copied e' := filterMap_append

theorem Kept.note_sublist (k : Kept) (e : Effect) : (k.note e).messages.Sublist (k.messages ++ copied [e]) := by
  cases e with
  | copied target m =>
    show (k.handed ++ (k.held ++ [m])).Sublist (k.handed ++ k.held ++ [m])
    simp
  | handed =>
    exact List.Sublist.refl _
  | loosed =>
    show (k.handed ++ []).Sublist (k.handed ++ k.held ++ [])
    rw [append_nil, append_nil]
    exact sublist_append_left _ _

theorem keptOf_sublist : (keptOf effects).messages.Sublist (copied effects) := by
  induction effects using List.reverseRecOn with
  | nil => exact List.Sublist.refl _
  | append_singleton l e ih =>
    rw [keptOf_append, copied_append]
    exact (Kept.note_sublist _ e).trans (ih.append_right _)

end HuaweiY5.Mnld.DbgLog
