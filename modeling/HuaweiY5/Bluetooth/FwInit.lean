import HuaweiY5.Lib.Transducer

/-!
# `Bluetooth.FwInit` — the firmware init thread and the events of its commands

`GORM_FW_Init_Thread` sends the commands of a script one after the other and waits for the event of each. Events
are handled on another thread, at any time after the command was transmitted. The two threads share `cmd_status`,
`wOpCode` and the address; only the handler's write of `cmd_status` and the init thread's wait are under the mutex.
-/

namespace HuaweiY5.Bluetooth

/-! ## Scripts -/

/-- The commands of the init scripts. -/
inductive HciCommand
  | getLocalBdAddr
  | setLocalBdAddr
  | common (opcode : UInt16)
  deriving DecidableEq

namespace HciCommand

/-- What a command writes to `wOpCode`. -/
def opcode : HciCommand → UInt16
  | getLocalBdAddr => 0x1009
  | setLocalBdAddr => 0xFC1A
  | common opcode => opcode

/-- `GORMcmd_HCC_Set_Radio`. -/
def setRadio : HciCommand := common 0xFC79

/-- `GORMcmd_HCC_Set_TX_Power_Offset`. -/
def setTxPowerOffset : HciCommand := common 0xFC93

/-- `GORMcmd_HCC_Set_Sleep_Timeout`. -/
def setSleepTimeout : HciCommand := common 0xFC7A

/-- `GORMcmd_HCC_RESET`. -/
def reset : HciCommand := common 0x0C03

/-- `GORMcmd_HCC_Set_FW_SysLog`. -/
def setFwSysLog : HciCommand := common 0xFCBE

/-- `GORMcmd_HCC_Set_SSP_Debug_Mode`. -/
def setSspDebugMode : HciCommand := common 0x1804

end HciCommand

/-- What the switch over `chip_id` selects: the script and `ucDefaultAddr`. -/
structure Chip where
  script : List HciCommand
  defaultAddr : List UInt8
  deriving DecidableEq

open HciCommand in
/-- `bt_init_preload_script_consys`. -/
def preloadScriptConsys : List HciCommand :=
  [getLocalBdAddr, setLocalBdAddr, setRadio, setTxPowerOffset, setSleepTimeout, reset, setFwSysLog, setSspDebugMode]

/-- The switch over `chip_id`, with the chips this device is built for (`MTK_CONSYS_MT6735`); for any other one
    `cur_script` stays `NULL`. -/
def preload (chipId : UInt32) : Option Chip :=
  if chipId = 0x0321 then some ⟨preloadScriptConsys, [0x00, 0x00, 0x46, 0x03, 0x21, 0x01]⟩
  else if chipId = 0x0335 then some ⟨preloadScriptConsys, [0x00, 0x00, 0x46, 0x03, 0x35, 0x01]⟩
  else if chipId = 0x0337 then some ⟨preloadScriptConsys, [0x00, 0x00, 0x46, 0x03, 0x37, 0x01]⟩
  else none

/-- `ucZeroAddr`. -/
def zeroAddr : List UInt8 := [0, 0, 0, 0, 0, 0]

def Chip.Default (chip : Chip) (addr : List UInt8) : Prop := addr = chip.defaultAddr ∨ addr = zeroAddr
  deriving Decidable

/-! ## The two threads -/

/-- `HCI_CMD_STATUS_T`. -/
inductive CmdStatus
  | success
  | fail
  | pending
  deriving DecidableEq

/-- An event: its code, the opcode and status in it, and the bytes behind them. -/
structure HciEvent where
  event : UInt8
  opcode : UInt16
  status : UInt8
  params : List UInt8
  deriving DecidableEq

/-- A Command Complete event with the opcode and status 0. -/
def HciEvent.Complete (ev : HciEvent) (opcode : UInt16) : Prop := ev.event = 0x0E ∧ ev.opcode = opcode ∧ ev.status = 0
  deriving Decidable

/-- A command that was transmitted, with its place in the script. -/
structure Sent where
  index : Nat
  command : HciCommand
  deriving DecidableEq

/-- The next statement of the init thread. -/
inductive ThreadPc
  | start
  | fetch
  | pend (c : HciCommand)
  | call (c : HciCommand)
  | xmit (c : HciCommand) (addr : List UInt8)
  | lock
  | test
  | wait
  | relock
  | judge
  | unlock (ok : Bool)
  | finish (ret : Bool)
  | done (ret : Bool)
  deriving DecidableEq

inductive HandlerPc
  | compare
  | copy (success : Bool)
  | lock (success : Bool)
  | store (success : Bool)
  | signal
  | unlock
  deriving DecidableEq

/-- The thread that delivers events: idle, or in the handler of an event. -/
inductive Handler
  | idle
  | running (sent : Sent) (ev : HciEvent) (pc : HandlerPc)
  deriving DecidableEq

inductive Owner
  | thread
  | handler
  deriving DecidableEq

/-- The static variables, which outlive a run. -/
structure Statics where
  wOpCode : UInt16
  cmdStatus : CmdStatus
  fgGetEFUSE : Bool
  deriving DecidableEq

/-- The state of a run; `inFlight` is the command whose event is to come. -/
structure FwInit where
  i : Nat
  wOpCode : UInt16
  cmdStatus : CmdStatus
  fgGetEFUSE : Bool
  addr : List UInt8
  mutex : Option Owner
  thread : ThreadPc
  handler : Handler
  inFlight : Option Sent
  deriving DecidableEq

/-- What a step shows: a command transmitted, the address programmed with it, an event handled, the address written to
    the NVRAM, the result given to `fwcfg_cb`. -/
inductive Effect
  | transmitted (index : Nat) (opcode : UInt16)
  | programmed (params : List UInt8)
  | handled (index : Nat) (ev : HciEvent)
  | nvramWrite (addr : List UInt8)
  | fwcfgCb (success : Bool)
  deriving DecidableEq

/-- What the host library and the NVRAM answer: whether a buffer is allocated, the command transmitted, the address
    written. -/
structure Answers where
  allocOk : Bool
  xmitOk : Bool
  nvramOk : Bool
  deriving DecidableEq

namespace FwInit

/-- The init thread is created, with the address that was read. -/
def start (st : Statics) (addr : List UInt8) : FwInit :=
  ⟨0, st.wOpCode, st.cmdStatus, st.fgGetEFUSE, addr, none, .start, .idle, none⟩

def statics (s : FwInit) : Statics := ⟨s.wOpCode, s.cmdStatus, s.fgGetEFUSE⟩

/-- The command functions up to their `xmit_cb`. -/
def call (chip : Chip) (a : Answers) (c : HciCommand) (s : FwInit) : FwInit × List Effect :=
  let s := { s with wOpCode := c.opcode, thread := .xmit c s.addr }
  match c with
  | .setLocalBdAddr =>
    let write := if a.nvramOk then [.nvramWrite s.addr] else []
    let out :=
      if chip.Default s.addr then write
      else if s.fgGetEFUSE then write
      else []
    ({ s with fgGetEFUSE := false }, out)
  | _ => (s, [])

/-- `xmit_cb`, and the init thread's way out if it fails. -/
def xmit (a : Answers) (c : HciCommand) (addr : List UInt8) (s : FwInit) : FwInit × List Effect :=
  if a.xmitOk then
    ({ s with inFlight := some ⟨s.i, c⟩, thread := .lock },
      .transmitted s.i c.opcode :: if c = .setLocalBdAddr then [.programmed addr.reverse] else [])
  else ({ s with thread := .finish false }, [])

def threadStep (chip : Option Chip) (a : Answers) (s : FwInit) : FwInit × List Effect :=
  match s.thread, chip with
  | .start, none => ({ s with thread := .finish false }, [])
  | .start, some chip =>
    let flag := s.fgGetEFUSE || decide (chip.Default s.addr)
    ({ s with fgGetEFUSE := flag, i := if flag then 0 else 1, thread := .fetch }, [])
  | .fetch, some chip =>
    match chip.script[s.i]? with
    | none => ({ s with thread := .finish true }, [])
    | some c => ({ s with thread := if a.allocOk then .pend c else .finish false }, [])
  | .pend c, _ => ({ s with cmdStatus := .pending, thread := .call c }, [])
  | .call c, some chip => call chip a c s
  | .xmit c addr, _ => xmit a c addr s
  | .lock, _ => ({ s with mutex := some .thread, thread := .test }, [])
  | .test, _ =>
    if s.cmdStatus = .pending then ({ s with mutex := none, thread := .wait }, [])
    else ({ s with thread := .judge }, [])
  | .relock, _ => ({ s with mutex := some .thread, thread := .test }, [])
  | .judge, _ => ({ s with thread := .unlock (decide (s.cmdStatus ≠ .fail)) }, [])
  | .unlock true, _ => ({ s with mutex := none, i := s.i + 1, thread := .fetch }, [])
  | .unlock false, _ => ({ s with mutex := none, thread := .finish false }, [])
  | .finish ret, _ => ({ s with thread := .done ret }, [.fwcfgCb ret])
  | _, _ => (s, [])

def wake : ThreadPc → ThreadPc
  | .wait => .relock
  | pc => pc

/-- A statement of the event handler of a command: `GORMevt_HCE_Get_Local_BD_Addr`, which has the opcode in its text
    and copies the address of the event, or `GORMevt_HCE_Common_Complete`, which compares with `wOpCode`. -/
def handlerStep (s : FwInit) : FwInit × List Effect :=
  match s.handler with
  | .idle => (s, [])
  | .running sent ev .compare =>
    if sent.command = .getLocalBdAddr then
      ({ s with handler := .running sent ev (.copy (decide (ev.Complete 0x1009))) }, [])
    else ({ s with handler := .running sent ev (.lock (decide (ev.Complete s.wOpCode))) }, [])
  | .running sent ev (.copy success) =>
    ({ s with addr := (ev.params.take 6).reverse, handler := .running sent ev (.lock success) }, [])
  | .running sent ev (.lock success) =>
    ({ s with mutex := some .handler, handler := .running sent ev (.store success) }, [])
  | .running sent ev (.store success) =>
    ({ s with cmdStatus := if success then .success else .fail, handler := .running sent ev .signal },
      [.handled sent.index ev])
  | .running sent ev .signal => ({ s with thread := wake s.thread, handler := .running sent ev .unlock }, [])
  | .running _ _ .unlock => ({ s with mutex := none, handler := .idle }, [])

def deliver (ev : HciEvent) (s : FwInit) : FwInit :=
  match s.inFlight with
  | some sent => { s with inFlight := none, handler := .running sent ev .compare }
  | none => s

end FwInit

/-- A step: a statement of the init thread, an event delivered, a statement of its handler, or a wake-up without a
    signal. -/
inductive FwInitMove
  | thread (a : Answers)
  | deliver (ev : HciEvent)
  | handler
  | spuriousWakeup
  deriving DecidableEq

namespace FwInit

/-- A statement of the init thread that gets what it asks for. -/
def granted : FwInitMove := .thread ⟨true, true, true⟩

def step (chip : Option Chip) (s : FwInit) : FwInitMove → FwInit × List Effect
  | .thread a => threadStep chip a s
  | .deliver ev => (deliver ev s, [])
  | .handler => handlerStep s
  | .spuriousWakeup => ({ s with thread := wake s.thread }, [])

def ThreadCanGo (mutex : Option Owner) : ThreadPc → Prop
  | .lock | .relock => mutex = none
  | .wait | .done _ => False
  | _ => True

def HandlerCanGo (mutex : Option Owner) : Handler → Prop
  | .idle => False
  | .running _ _ (.lock _) => mutex = none
  | _ => True

/-- Every command transmitted gets one event, after any time; one thread delivers them. -/
def Enabled (s : FwInit) : FwInitMove → Prop
  | .thread _ => ThreadCanGo s.mutex s.thread
  | .deliver _ => s.inFlight ≠ none ∧ s.handler = .idle
  | .handler => HandlerCanGo s.mutex s.handler
  | .spuriousWakeup => s.thread = .wait

instance instDecidableThreadCanGo (mutex : Option Owner) : (pc : ThreadPc) → Decidable (ThreadCanGo mutex pc)
  | .lock | .relock => inferInstanceAs (Decidable (mutex = none))
  | .wait | .done _ => isFalse id
  | .start | .fetch | .pend _ | .call _ | .xmit _ _ | .test | .judge | .unlock _ | .finish _ => isTrue trivial

instance instDecidableHandlerCanGo (mutex : Option Owner) : (h : Handler) → Decidable (HandlerCanGo mutex h)
  | .idle => isFalse id
  | .running _ _ (.lock _) => inferInstanceAs (Decidable (mutex = none))
  | .running _ _ .compare | .running _ _ (.copy _) | .running _ _ (.store _) | .running _ _ .signal
  | .running _ _ .unlock => isTrue trivial

def machine (chip : Option Chip) (st : Statics) (addr : List UInt8) : Transducer FwInit FwInitMove Effect where
  init := start st addr
  enabled := Enabled
  step := step chip

instance instDecidableMachineEnabled (chip : Option Chip) (st : Statics) (addr : List UInt8) (s : FwInit) :
    (move : FwInitMove) → Decidable ((machine chip st addr).enabled s move)
  | .thread _ => inferInstanceAs (Decidable (ThreadCanGo s.mutex s.thread))
  | .deliver _ => inferInstanceAs (Decidable (_ ∧ _))
  | .handler => inferInstanceAs (Decidable (HandlerCanGo s.mutex s.handler))
  | .spuriousWakeup => inferInstanceAs (Decidable (_ = _))

end FwInit

end HuaweiY5.Bluetooth
