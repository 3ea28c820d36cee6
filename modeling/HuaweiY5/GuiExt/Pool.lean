import HuaweiY5.Lib.KeyedVector
import HuaweiY5.Lib.Transducer

/-!
# `GuiExt.Pool` — the buffer pools of the GuiExt service

A producer allocates a pool item with a buffer queue for each display; consumers acquire buffers from it and release
them. The item is removed when its producer has freed it or died and no usage of it is connected. A consumer is known
by the slot of the buffer it holds, and its death is noticed by the observer in that slot.
-/

namespace HuaweiY5.GuiExt

/-! Keys are compared as numbers. -/

instance instIrreflLt : Std.Irrefl fun a b : UInt32 => a < b := inferInstance

instance instTransLt :
    Trans (fun a b : UInt32 => a < b) (fun a b : UInt32 => a < b) (fun a b : UInt32 => a < b) := inferInstance

instance instTrichotomousLt : Std.Trichotomous fun a b : UInt32 => a < b := inferInstance

abbrev Binder := Nat

/-- `status_t`. -/
inductive Status
  | noError
  | badIndex
  | invalidOperation
  | wouldBlock
  | notEnoughData
  deriving DecidableEq

def maxAllocSize : Nat := 10

def maxHwcDequeuedNum : UInt32 := 3

/-- `GUI_EXT_USAGE_HWC`. -/
def usageHwc : UInt32 := 1

/-- `GUI_EXT_USAGE_MAX`. -/
abbrev usageMax : Nat := 2

/-- `HWC_NUM_DISPLAY_TYPES`. -/
def numDisplayTypes : Nat := 3

/-- `HWC_DISPLAY_PRIMARY`. -/
def displayPrimary : UInt32 := 0

def grallocUsageHwComposer : UInt32 := 0x800

/-- The arrays that are indexed with an argument of a call. -/
inductive Table
  | isDisconnected
  | acquiredFormat
  | usageName
  | displayType
  deriving DecidableEq

def Table.size : Table → Nat
  | isDisconnected | acquiredFormat => usageMax
  | usageName => 2
  | displayType => numDisplayTypes

/-- What a step shows: an index of an array, the status returned, the id of a new item, an item removed; `looping` is a
    call that has not left the loop of `getPoolId`. -/
inductive Effect
  | index (table : Table) (i : UInt32)
  | returned (status : Status)
  | allocated (poolId : UInt32)
  | removed (poolId : UInt32)
  | looping
  deriving DecidableEq

structure DispInfo where
  type : UInt32
  bufNum : UInt32
  deriving DecidableEq

/-- `HwcBqSlot`: a display's buffer queue. -/
structure HwcBqSlot where
  type : UInt32
  bufNum : UInt32
  deriving DecidableEq

/-- `ConsumerSlot`: who holds a buffer, and the observer of its death. -/
structure ConsumerSlot where
  usage : UInt32
  type : UInt32
  idx : UInt32
  token : Option Binder
  observer : Option Binder
  deriving DecidableEq

def poolCombinedId (usage type idx : UInt32) : UInt32 := (usage <<< 6) ||| (type <<< 3) ||| idx

/-- `GuiExtPoolItem`. -/
structure PoolItem where
  id : UInt32
  isHwcNeeded : Bool
  producerToken : Option Binder
  isDisconnected : Vector Bool usageMax
  hwcUsedBqList : KeyedVector UInt32 HwcBqSlot
  consumerList : KeyedVector UInt32 ConsumerSlot
  deriving DecidableEq

structure GuiExtPool where
  poolId : UInt32
  poolList : KeyedVector UInt32 PoolItem
  displayList : KeyedVector UInt32 DispInfo
  deriving DecidableEq

/-- What `dequeueBuffer` answers. -/
structure Dequeued where
  wouldBlock : Bool
  buf : Int32
  deriving DecidableEq

/-! ## Items -/

namespace PoolItem

/-- The slots of one queue in `prepareBuffer`. -/
def prepareSlots (usage type bufNum : UInt32) (slots : KeyedVector UInt32 ConsumerSlot) :
    KeyedVector UInt32 ConsumerSlot :=
  (List.range bufNum.toNat).foldl (fun slots i =>
    match slots.valueFor (poolCombinedId usage type (UInt32.ofNat i)) with
    | some _ => slots
    | none => slots.add (poolCombinedId usage type (UInt32.ofNat i)) ⟨usage, type, UInt32.ofNat i, none, none⟩) slots

/-- The constructor, and `prepareBuffer` after it: a queue and its slots for each display. -/
def create (token : Binder) (isHwcNeeded : Bool) (poolId : UInt32) (dispList : KeyedVector UInt32 DispInfo) : PoolItem :=
  let queues :=
    if isHwcNeeded then
      dispList.items.foldl (fun queues x => queues.add x.2.type ⟨x.2.type, x.2.bufNum⟩) .empty
    else .empty
  ⟨poolId, isHwcNeeded, some token, Vector.replicate usageMax true, queues,
    queues.items.foldl (fun slots x => prepareSlots usageHwc x.2.type x.2.bufNum slots) .empty⟩

variable (item : PoolItem)

/-- The indices the constructor and `prepareBuffer` use. -/
def createIndices : List Effect :=
  if item.isHwcNeeded then .index .usageName 1 :: item.hwcUsedBqList.items.map fun _ => .index .acquiredFormat usageHwc
  else []

/-- `getIGraphicBufferProducer`: whether there is a queue. -/
def getIGraphicBufferProducer (usage type : UInt32) (item : PoolItem) : Bool :=
  decide (usage = usageHwc ∧ ¬numDisplayTypes ≤ type.toNat) && (item.hwcUsedBqList.valueFor type).isSome

/-- The item has no queues for the hardware composer, but they are asked for. -/
def Lacks (usage : UInt32) (item : PoolItem) : Prop := item.isHwcNeeded = false ∧ usage = usageHwc
  deriving Decidable

def acquire (token : Binder) (usage type : UInt32) (a : Dequeued) (item : PoolItem) : PoolItem × Status × List Effect :=
  if item.Lacks usage then (item, .invalidOperation, [])
  else if !item.getIGraphicBufferProducer usage type then (item, .badIndex, [])
  else if a.wouldBlock || decide (a.buf < 0) then (item, .wouldBlock, [.index .acquiredFormat usage])
  else
    let key := poolCombinedId usage type a.buf.toUInt32
    match item.consumerList.valueFor key with
    | none => (item, .badIndex, [.index .acquiredFormat usage])
    | some slot =>
      let slots :=
        if slot.token = none then
          item.consumerList.add key ⟨usage, type, a.buf.toUInt32, some token, some token⟩
        else item.consumerList
      ({ item with consumerList := slots, isDisconnected := item.isDisconnected.setIfInBounds usage.toNat false }, .noError,
        [.index .acquiredFormat usage, .index .isDisconnected usage])

def request (usage type : UInt32) (item : PoolItem) : Status :=
  if item.Lacks usage then .invalidOperation
  else if !item.getIGraphicBufferProducer usage type then .badIndex
  else .noError

def vacate (slot : ConsumerSlot) : ConsumerSlot := { slot with token := none, observer := none }

def release (usage type buf : UInt32) (item : PoolItem) : PoolItem × Status :=
  if item.Lacks usage then (item, .invalidOperation)
  else if !item.getIGraphicBufferProducer usage type then (item, .badIndex)
  else ({ item with consumerList := item.consumerList.modify (poolCombinedId usage type buf) vacate }, .noError)

def disconnect (usage : UInt32) (item : PoolItem) : PoolItem × Status × List Effect :=
  if item.Lacks usage then (item, .invalidOperation, [])
  else
    ({ item with isDisconnected := item.isDisconnected.setIfInBounds usage.toNat true }, .noError,
      [.index .isDisconnected usage])

/-- The first loop of `ConsumerDeathObserver::binderDied` at a slot. -/
def releaseAt (who : Binder) (item : PoolItem) (i : Nat) : PoolItem :=
  match item.consumerList.items[i]? with
  | some (key, slot) =>
    if slot.token = some who then
      let item := (item.release slot.usage slot.type slot.idx).1
      { item with consumerList := item.consumerList.modify key vacate }
    else item
  | none => item

/-- What the rest of it makes of `mIsDisconnected`: a usage with a holder is connected. -/
def recount : PoolItem :=
  { item with
    isDisconnected := item.consumerList.items.foldl
      (fun flags x => if x.2.token = none then flags else flags.setIfInBounds x.2.usage.toNat false)
      (Vector.replicate usageMax true) }

/-- The first usage that is connected; it is `usageMax` if none is. -/
def connected : Nat := item.isDisconnected.toList.findIdx fun flag => !flag

def Vacant : Prop := ∀ x ∈ item.consumerList.items, x.2.token = none
  deriving Decidable

/-- The indices of `mIsDisconnected` it uses for that. -/
def recountIndices : List Effect :=
  (List.range usageMax).map (fun i => .index .isDisconnected (UInt32.ofNat i)) ++
    (item.consumerList.items.filter fun x => x.2.token.isSome).map fun x => .index .isDisconnected x.2.usage

/-- `ConsumerDeathObserver::binderDied` on the item. -/
def consumerDied (who : Binder) (item : PoolItem) : PoolItem :=
  recount ((List.range item.consumerList.size).foldl (releaseAt who) item)

end PoolItem

/-! ## The pool -/

namespace GuiExtPool

def init : GuiExtPool := ⟨0, .empty, .empty⟩

/-- The loop of `getPoolId`, which goes round the ids until one is free. -/
def probe (list : KeyedVector UInt32 PoolItem) : Nat → UInt32 → Option UInt32
  | 0, _ => none
  | fuel + 1, poolId =>
    let poolId := (poolId + 1) % 10
    let id := if poolId = 0 then 10 else poolId
    match list.valueFor id with
    | none => some id
    | some _ => probe list fuel poolId

variable (poolId : UInt32) (pool : GuiExtPool)

/-- `getPoolId`, if its loop ends within `maxAllocSize` rounds. -/
def getPoolId : Option UInt32 := probe pool.poolList maxAllocSize pool.poolId

def alloc (token : Binder) (grallocUsage : UInt32) (pool : GuiExtPool) : GuiExtPool × List Effect :=
  if maxAllocSize ≤ pool.poolList.size then (pool, [.returned .notEnoughData])
  else
    let pool :=
      if pool.poolList.size = 0 then
        { pool with displayList := pool.displayList.add displayPrimary ⟨0, maxHwcDequeuedNum⟩ }
      else pool
    match pool.getPoolId with
    | none => (pool, [.looping])
    | some id =>
      let item := PoolItem.create token (decide (grallocUsage &&& grallocUsageHwComposer ≠ 0)) id pool.displayList
      ({ pool with poolId := id, poolList := pool.poolList.add id item },
        item.createIndices ++ [.allocated id, .returned .noError])

/-- `removePoolItemLocked`; the loop over `mIsDisconnected` ends at the first usage that is connected. -/
def removePoolItemLocked : GuiExtPool × List Effect :=
  match pool.poolList.valueFor poolId with
  | none => (pool, [])
  | some item =>
    let indices := ((List.range usageMax).take (item.connected + 1)).map fun i => .index .isDisconnected (UInt32.ofNat i)
    if item.connected < usageMax then (pool, indices)
    else if item.producerToken = none then
      ({ pool with poolList := pool.poolList.removeItem poolId }, indices ++ [.removed poolId])
    else (pool, indices)

def clearProducer : GuiExtPool :=
  { pool with poolList := pool.poolList.modify poolId fun item => { item with producerToken := none } }

def free : GuiExtPool × List Effect :=
  match pool.poolList.valueFor poolId with
  | none => (pool, [.returned .badIndex])
  | some _ =>
    let r := (pool.clearProducer poolId).removePoolItemLocked poolId
    (r.1, r.2 ++ [.returned .noError])

/-- The names of a usage and of a display in a log line. -/
def logged (usage type : UInt32) : List Effect := [.index .usageName usage, .index .displayType type]

def acquire (token : Binder) (poolId usage type : UInt32) (a : Dequeued) (pool : GuiExtPool) :
    GuiExtPool × List Effect :=
  match pool.poolList.valueFor poolId with
  | none => (pool, logged usage type ++ [.returned .badIndex])
  | some item =>
    let r := item.acquire token usage type a
    ({ pool with poolList := pool.poolList.modify poolId fun _ => r.1 },
      r.2.2 ++ logged usage type ++ [.returned r.2.1])

def request (poolId usage type : UInt32) (pool : GuiExtPool) : GuiExtPool × List Effect :=
  match pool.poolList.valueFor poolId with
  | none => (pool, logged usage type ++ [.returned .badIndex])
  | some item => (pool, logged usage type ++ [.returned (item.request usage type)])

def release (poolId usage type buf : UInt32) (pool : GuiExtPool) : GuiExtPool × List Effect :=
  match pool.poolList.valueFor poolId with
  | none => (pool, logged usage type ++ [.returned .badIndex])
  | some item =>
    let r := item.release usage type buf
    ({ pool with poolList := pool.poolList.modify poolId fun _ => r.1 }, logged usage type ++ [.returned r.2])

def disconnect (poolId usage type : UInt32) (pool : GuiExtPool) : GuiExtPool × List Effect :=
  match pool.poolList.valueFor poolId with
  | none => (pool, logged usage type ++ [.returned .badIndex])
  | some item =>
    let r := item.disconnect usage
    let r' := GuiExtPool.removePoolItemLocked poolId { pool with poolList := pool.poolList.modify poolId fun _ => r.1 }
    (r'.1, r.2.2 ++ r'.2 ++ logged usage type ++ [.returned r.2.1])

/-- `configDisplay`, which removes twice what is not the primary display. -/
def configDisplay (type : UInt32) (enable : Bool) (w h bufNum : UInt32) (pool : GuiExtPool) : GuiExtPool × List Effect :=
  if enable = false ∨ w = 0 ∨ h = 0 ∨ bufNum = 0 then
    match pool.displayList.valueFor type with
    | none => (pool, [])
    | some _ => ({ pool with displayList := pool.displayList.removeItem type }, [])
  else ({ pool with displayList := pool.displayList.add type ⟨type, bufNum⟩ }, [])

/-- The loop of `ProducerDeathObserver::binderDied`, from the index `i - 1` down. -/
def producerDiedFrom (who : Binder) : Nat → GuiExtPool → GuiExtPool × List Effect
  | 0, pool => (pool, [])
  | i + 1, pool =>
    match pool.poolList.items[i]? with
    | some (key, item) =>
      if item.producerToken = some who then
        let r := (pool.clearProducer key).removePoolItemLocked item.id
        let r' := producerDiedFrom who i r.1
        (r'.1, r.2 ++ r'.2)
      else producerDiedFrom who i pool
    | none => producerDiedFrom who i pool

/-- `ProducerDeathObserver::binderDied`. -/
def producerDied (who : Binder) (pool : GuiExtPool) : GuiExtPool × List Effect :=
  producerDiedFrom who pool.poolList.size pool

/-- `ConsumerDeathObserver::binderDied` of an item. -/
def consumerDied (who : Binder) (poolId : UInt32) (pool : GuiExtPool) : GuiExtPool × List Effect :=
  match pool.poolList.valueFor poolId with
  | none => (pool, [])
  | some item =>
    if item.consumerList.size = 0 then (pool, [])
    else
      let died := item.consumerDied who
      let pool := { pool with poolList := pool.poolList.modify poolId fun _ => died }
      if died.Vacant then
        let r := pool.removePoolItemLocked died.id
        (r.1, died.recountIndices ++ r.2)
      else (pool, died.recountIndices)

end GuiExtPool

/-- A step: a call, with who makes it, or a death that is notified. -/
inductive PoolMove
  | alloc (token : Binder) (grallocUsage : UInt32)
  | free (who : Binder) (poolId : UInt32)
  | acquire (token : Binder) (poolId usage type : UInt32) (a : Dequeued)
  | request (poolId usage type : UInt32)
  | release (who : Binder) (poolId usage type buf : UInt32)
  | disconnect (who : Binder) (poolId usage type : UInt32)
  | configDisplay (type : UInt32) (enable : Bool) (w h bufNum : UInt32)
  | producerDied (who : Binder)
  | consumerDied (who : Binder) (poolId : UInt32)
  deriving DecidableEq

namespace GuiExtPool

def step (pool : GuiExtPool) : PoolMove → GuiExtPool × List Effect
  | .alloc token grallocUsage => pool.alloc token grallocUsage
  | .free _ poolId => pool.free poolId
  | .acquire token poolId usage type a => pool.acquire token poolId usage type a
  | .request poolId usage type => pool.request poolId usage type
  | .release _ poolId usage type buf => pool.release poolId usage type buf
  | .disconnect _ poolId usage type => pool.disconnect poolId usage type
  | .configDisplay type enable w h bufNum => pool.configDisplay type enable w h bufNum
  | .producerDied who => pool.producerDied who
  | .consumerDied who poolId => pool.consumerDied who poolId

def machine : Transducer GuiExtPool PoolMove Effect where
  init := init
  enabled := fun _ _ => True
  step := step

end GuiExtPool

end HuaweiY5.GuiExt
