import HuaweiY5.GuiExt.Pool

/-!
# `GuiExt.Client` — the consumer's side

`GuiExtClientConsumer` keeps a shadow slot for every buffer it has got from the service, with a flag that says whether
the buffer is in use. When the service has none to give, `acquire` falls back on a slot whose flag is down.
-/

namespace HuaweiY5.GuiExt

/-- A graphic buffer object, by its identity; it has a handle of its own. -/
abbrev Buffer := Nat

/-- `HWC_DISPLAY_VIRTUAL`. -/
def displayVirtual : UInt32 := 2

/-- What the service grants: a buffer of a pool by its index. -/
structure Grant where
  poolId : UInt32
  usage : UInt32
  type : UInt32
  idx : UInt32
  deriving DecidableEq

/-- `POOL_COMBINED_ID` of the client. -/
def Grant.key (g : Grant) : UInt32 := (g.poolId <<< 10) ||| (g.usage <<< 6) ||| (g.type <<< 3) ||| g.idx

structure BufferSlot where
  buffer : Option Buffer
  grant : Grant
  isAcquired : Bool
  deriving DecidableEq

def BufferSlot.Matches (poolId usage type : UInt32) (slot : BufferSlot) : Prop :=
  slot.grant.poolId = poolId ∧ slot.grant.usage = usage ∧ slot.grant.type = type
  deriving Decidable

/-- `GuiExtClientConsumer`: its slots, and the identity of the next buffer object. -/
structure Client where
  slots : KeyedVector UInt32 BufferSlot
  nextBuffer : Buffer
  deriving DecidableEq

/-- What the service answers to `request`: an error, no buffer, or one. -/
inductive RequestAnswer
  | failed
  | null
  | buffer
  deriving DecidableEq

/-- What it answers to `acquire`: an error, or an index, and then what it answers if the buffer is requested. -/
inductive AcquireAnswer
  | refused
  | granted (idx : UInt32) (request : RequestAnswer)
  deriving DecidableEq

/-- What a call leads to: a message to the service, a buffer given to the caller, an error, or the use of a NULL. -/
inductive ClientEffect
  | sentRelease (g : Grant)
  | sentDisconnect (poolId usage type : UInt32)
  | handed (buffer : Buffer)
  | error
  | crash
  deriving DecidableEq

namespace Client

/-- The checks every call begins with: the usage, the type, and that there is a service. -/
def Reaches (usage type : UInt32) (connected : Bool) : Prop :=
  usage.toNat < usageMax ∧ type ≤ displayVirtual ∧ connected = true
  deriving Decidable

def give : Option Buffer → List ClientEffect
  | some buffer => [.handed buffer]
  | none => []

def mark (flag : Bool) (slot : BufferSlot) : BufferSlot := { slot with isAcquired := flag }

variable (poolId usage type : UInt32)

/-- A slot that `acquire` can fall back on. -/
def Backup (x : UInt32 × BufferSlot) : Prop :=
  x.2.Matches poolId usage type ∧ x.2.isAcquired = false
  deriving Decidable

/-- `acquire`. A slot that is there is given out as it is. -/
def acquire (connected : Bool) (answer : AcquireAnswer) (c : Client) : Client × List ClientEffect :=
  if Reaches usage type connected then
    match answer with
    | .refused =>
      match c.slots.items.find? fun x => decide (Backup poolId usage type x) with
      | some (key, slot) => ({ c with slots := c.slots.modify key (mark true) }, give slot.buffer)
      | none => (c, [.error])
    | .granted idx request =>
      let g : Grant := ⟨poolId, usage, type, idx⟩
      match c.slots.valueFor g.key with
      | some slot => (c, give slot.buffer)
      | none =>
        match request with
        | .failed => (c, [.error])
        | .null => ({ c with slots := c.slots.add g.key ⟨none, g, true⟩ }, give none)
        | .buffer =>
          (⟨c.slots.add g.key ⟨some c.nextBuffer, g, true⟩, c.nextBuffer + 1⟩, give (some c.nextBuffer))
  else (c, [.error])

/-- `getSlotFromBufferLocked`: the index in the first slot with the handle. -/
def getSlotFromBufferLocked (buffer : Buffer) : List (UInt32 × BufferSlot) → Option (Option UInt32)
  | [] => some none
  | x :: xs =>
    match x.2.buffer with
    | none => none
    | some b => if b = buffer then some (some x.2.grant.idx) else getSlotFromBufferLocked buffer xs

def releaseLocked (buffer : Buffer) (poolId usage type : UInt32) (c : Client) : Client × List ClientEffect :=
  match getSlotFromBufferLocked buffer c.slots.items with
  | none => (c, [.crash])
  | some none => (c, [.error])
  | some (some idx) =>
    if idx.toInt32 < 0 then (c, [.error])
    else
      let g : Grant := ⟨poolId, usage, type, idx⟩
      ({ c with slots := c.slots.modify g.key (mark false) }, [.sentRelease g])

def release (buffer : Option Buffer) (poolId usage type : UInt32) (connected : Bool) (c : Client) :
    Client × List ClientEffect :=
  if Reaches usage type connected then
    match buffer with
    | none => (c, [.error])
    | some b => c.releaseLocked b poolId usage type
  else (c, [.error])

/-- The buffer of a slot is released, if its flag is up. -/
def giveUp (slot : BufferSlot) (c : Client) : Client × List ClientEffect :=
  if slot.isAcquired then
    match slot.buffer with
    | none => (c, [.crash])
    | some b => c.releaseLocked b poolId usage type
  else (c, [])

/-- The loop of `disconnect`, from the index `i - 1` down. -/
def disconnectFrom (poolId usage type : UInt32) : Nat → Client → Client × List ClientEffect
  | 0, c => (c, [])
  | i + 1, c =>
    match c.slots.items[i]? with
    | none => disconnectFrom poolId usage type i c
    | some (_, slot) =>
      if slot.Matches poolId usage type then
        let r := c.giveUp poolId usage type slot
        if ClientEffect.crash ∈ r.2 then r
        else
          let r' := disconnectFrom poolId usage type i
            { r.1 with slots := r.1.slots.removeItem (Grant.key ⟨poolId, usage, type, slot.grant.idx⟩) }
          (r'.1, r.2 ++ r'.2)
      else disconnectFrom poolId usage type i c

def disconnect (connected : Bool) (c : Client) : Client × List ClientEffect :=
  if Reaches usage type connected then
    if c.slots.size = 0 then (c, [.error])
    else
      let r := disconnectFrom poolId usage type c.slots.size c
      if ClientEffect.crash ∈ r.2 then r else (r.1, r.2 ++ [.sentDisconnect poolId usage type])
  else (c, [.error])

end Client

/-! ## The client with what has happened -/

/-- A call, with what the service answers to it. -/
inductive ClientCall
  | acquire (poolId usage type : UInt32) (connected : Bool) (answer : AcquireAnswer)
  | release (buffer : Option Buffer) (poolId usage type : UInt32) (connected : Bool)
  | disconnect (poolId usage type : UInt32) (connected : Bool)
  deriving DecidableEq

structure Handed where
  buffer : Buffer
  poolId : UInt32
  usage : UInt32
  type : UInt32
  deriving DecidableEq

/-- The client, what the service has granted and not got back, what the caller was given and has neither released nor
    disconnected, and whether the process is still there. -/
structure ClientSystem where
  client : Client
  outstanding : List Grant
  handed : List Handed
  crashed : Bool
  deriving DecidableEq

namespace ClientSystem

open Client

def init : ClientSystem := ⟨⟨.empty, 0⟩, [], [], false⟩

def run (c : Client) : ClientCall → Client × List ClientEffect
  | .acquire poolId usage type connected answer => c.acquire poolId usage type connected answer
  | .release buffer poolId usage type connected => c.release buffer poolId usage type connected
  | .disconnect poolId usage type connected => c.disconnect poolId usage type connected

def outstandingAfter (out : List ClientEffect) (s : ClientSystem) : ClientCall → List Grant
  | .acquire poolId usage type connected (.granted idx _) =>
    if Reaches usage type connected then ⟨poolId, usage, type, idx⟩ :: s.outstanding else s.outstanding
  | _ => s.outstanding.filter fun g => decide (ClientEffect.sentRelease g ∉ out)

def handedAfter (out : List ClientEffect) (s : ClientSystem) : ClientCall → List Handed
  | .acquire poolId usage type _ _ =>
    (out.filterMap fun
      | .handed b => some ⟨b, poolId, usage, type⟩
      | _ => none) ++ s.handed
  | .release buffer _ usage type connected =>
    if Reaches usage type connected then s.handed.filter fun e => decide (some e.buffer ≠ buffer) else s.handed
  | .disconnect poolId usage type connected =>
    if Reaches usage type connected then
      s.handed.filter fun e => decide (¬(e.poolId = poolId ∧ e.usage = usage ∧ e.type = type))
    else s.handed

def step (s : ClientSystem) (call : ClientCall) : ClientSystem × List ClientEffect :=
  let r := run s.client call
  (⟨r.1, outstandingAfter r.2 s call, handedAfter r.2 s call, decide (ClientEffect.crash ∈ r.2)⟩, r.2)

/-- The service grants no index that it has granted and not got back. -/
def Enabled (s : ClientSystem) (call : ClientCall) : Prop :=
  s.crashed = false ∧
    match call with
    | .acquire poolId usage type _ (.granted idx _) => ⟨poolId, usage, type, idx⟩ ∉ s.outstanding
    | _ => True

instance instDecidableEnabled (s : ClientSystem) : (call : ClientCall) → Decidable (Enabled s call)
  | .acquire _ _ _ _ (.granted _ _) => inferInstanceAs (Decidable (_ ∧ _ ∉ s.outstanding))
  | .acquire _ _ _ _ .refused | .release _ _ _ _ _ | .disconnect _ _ _ _ => inferInstanceAs (Decidable (_ ∧ True))

def machine : Transducer ClientSystem ClientCall ClientEffect where
  init := init
  enabled := Enabled
  step := step

instance instDecidableMachineEnabled (s : ClientSystem) (call : ClientCall) : Decidable (machine.enabled s call) :=
  instDecidableEnabled s call

/-- A buffer that is given to the caller is not one it has. -/
def NotTwice (x : Transducer.Entry ClientSystem ClientCall ClientEffect) : Prop :=
  ∀ b, ClientEffect.handed b ∈ x.out → ∀ e ∈ x.pre.handed, e.buffer ≠ b

/-- A disconnection gives back all that the service has granted. -/
def GivenBack (x : Transducer.Entry ClientSystem ClientCall ClientEffect) : Prop :=
  ∀ poolId usage type connected, x.event = .disconnect poolId usage type connected → Reaches usage type connected →
    ∀ g ∈ x.pre.outstanding, g.poolId = poolId → g.usage = usage → g.type = type → ClientEffect.sentRelease g ∈ x.out

end ClientSystem

end HuaweiY5.GuiExt
