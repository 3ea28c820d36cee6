import HuaweiY5.GuiExt.Slots
import HuaweiY5.Lib.Critical

/-!
# `GuiExt.Accesses` — the pool, access by access

The calls hold `mLock` from their first access to their last one. The two death observers do not: they go through
`mPoolList` and `mConsumerList` by indices below a size they have read before, and take the lock for the removal of an
item only. An access that uses an index has the guard that the index is below the size; an access to an item through the
reference an observer has of it has the guard that the item is still in the pool.
-/

namespace HuaweiY5.GuiExt

open Option Critical
open Body (exec)
open KeyedVector (modify_comp modify_of_none modify_self size update)

inductive Call
  | alloc (token : Binder) (grallocUsage : UInt32)
  | free (poolId : UInt32)
  | acquire (token : Binder) (poolId usage type : UInt32) (a : Dequeued)
  | release (poolId usage type buf : UInt32)
  | disconnect (poolId usage type : UInt32)
  deriving DecidableEq

/-- A death that is notified: of a producer, or of a consumer to the item its observer belongs to. -/
inductive Death
  | producer (who : Binder)
  | consumer (who : Binder) (poolId : UInt32)
  deriving DecidableEq

def Call.alone : Call → GuiExtPool → GuiExtPool
  | .alloc token grallocUsage, pool => (pool.alloc token grallocUsage).1
  | .free poolId, pool => (pool.free poolId).1
  | .acquire token poolId usage type a, pool => (pool.acquire token poolId usage type a).1
  | .release poolId usage type buf, pool => (pool.release poolId usage type buf).1
  | .disconnect poolId usage type, pool => (pool.disconnect poolId usage type).1

def Death.alone : Death → GuiExtPool → GuiExtPool
  | .producer who, pool => (pool.producerDied who).1
  | .consumer who poolId, pool => (pool.consumerDied who poolId).1

/-! ## Single accesses -/

namespace GuiExtPool

def onItem (k : UInt32) (F : PoolItem → PoolItem) (pool : GuiExtPool) : GuiExtPool :=
  { pool with poolList := pool.poolList.modify k F }

def dropItem (k : UInt32) (pool : GuiExtPool) : GuiExtPool := { pool with poolList := pool.poolList.removeItem k }

/-- `i` is an index of `mPoolList`. -/
def inPool (i : Nat) (pool : GuiExtPool) : Bool := decide (i < pool.poolList.size)

def producerAt (i : Nat) (pool : GuiExtPool) : Option Binder := (pool.poolList.items[i]?).bind fun x => x.2.producerToken

def idAt (i : Nat) (pool : GuiExtPool) : UInt32 := ((pool.poolList.items[i]?).map fun x => x.2.id).getD 0

def orphanAt (i : Nat) (pool : GuiExtPool) : GuiExtPool :=
  match pool.poolList.items[i]? with
  | some x => onItem x.1 PoolItem.orphan pool
  | none => pool

def alive (k : UInt32) (pool : GuiExtPool) : Bool := (pool.poolList.valueFor k).isSome

end GuiExtPool

namespace PoolItem

/-- `i` is an index of `mConsumerList`. -/
def inSlots (i : Nat) (item : PoolItem) : Bool := decide (i < item.consumerList.size)

def slotAt (i : Nat) (item : PoolItem) : Option ConsumerSlot := (item.consumerList.items[i]?).map Prod.snd

def onSlotAt (i : Nat) (F : ConsumerSlot → ConsumerSlot) (item : PoolItem) : PoolItem :=
  match item.consumerList.items[i]? with
  | some x => { item with consumerList := item.consumerList.modify x.1 F }
  | none => item

def onSlot (key : UInt32) (F : ConsumerSlot → ConsumerSlot) (item : PoolItem) : PoolItem :=
  { item with consumerList := item.consumerList.modify key F }

def dropToken (slot : ConsumerSlot) : ConsumerSlot := { slot with token := none }

def dropObserver (slot : ConsumerSlot) : ConsumerSlot := { slot with observer := none }

/-- A flag of `mIsDisconnected` written. -/
def setFlag (usage : Nat) (value : Bool) (item : PoolItem) : PoolItem :=
  { item with isDisconnected := item.isDisconnected.setIfInBounds usage value }

/-- The flag of the usage of the slot at an index cleared. -/
def connectAt (i : Nat) (item : PoolItem) : PoolItem :=
  match item.slotAt i with
  | some slot => item.setFlag slot.usage.toNat false
  | none => item

/-- The item has a queue for the usage and the display. -/
def serves (usage type : UInt32) (item : PoolItem) : Bool :=
  !decide (item.Lacks usage) && item.getIGraphicBufferProducer usage type

end PoolItem

/-! ## The calls -/

open GuiExtPool PoolItem

/-- The loop of `removePoolItemLocked` with `n` rounds to go, and the removal. -/
def removeFrom (k : UInt32) : Nat → Body GuiExtPool
  | 0 => .access id fun pool =>
    if (pool.poolList.valueFor k).bind (fun item => item.producerToken) = none then .access (dropItem k) fun _ => .done
    else .done
  | n + 1 => .access id fun pool =>
    if (pool.poolList.valueFor k).any fun item => decide (item.isDisconnected[usageMax - (n + 1)]? = some true) then
      removeFrom k n
    else .done

/-- `removePoolItemLocked`. -/
def removal (k : UInt32) : Body GuiExtPool :=
  .access id fun pool => if pool.alive k then removeFrom k usageMax else .done

/-- The slot of the item `k` under a key. -/
def slotOf (k key : UInt32) (pool : GuiExtPool) : Option ConsumerSlot :=
  (pool.poolList.valueFor k).bind fun item => item.consumerList.valueFor key

/-- `GuiExtPoolItem::release` on the item `k`. -/
def releaseItem (k usage type buf : UInt32) : Body GuiExtPool :=
  .access id fun pool =>
    if (pool.poolList.valueFor k).any (serves usage type) then
      .access id fun pool =>
        if (slotOf k (poolCombinedId usage type buf) pool).isSome then
          .access (onItem k (onSlot (poolCombinedId usage type buf) dropToken)) fun _ =>
            .access (onItem k (onSlot (poolCombinedId usage type buf) dropObserver)) fun _ => .done
        else .done
    else .done

/-- A slot given to a consumer by `GuiExtPoolItem::acquire`. -/
def grant (token : Binder) (usage type : UInt32) (a : Dequeued) (item : PoolItem) : PoolItem :=
  { item with
    consumerList := item.consumerList.add (poolCombinedId usage type a.buf.toUInt32)
      ⟨usage, type, a.buf.toUInt32, some token, some token⟩ }

/-- `GuiExtPoolItem::acquire` on the item `k`. -/
def acquireItem (token : Binder) (k usage type : UInt32) (a : Dequeued) : Body GuiExtPool :=
  .access id fun pool =>
    if (pool.poolList.valueFor k).any (serves usage type) && !(a.wouldBlock || decide (a.buf < 0)) then
      .access id fun pool =>
        if (slotOf k (poolCombinedId usage type a.buf.toUInt32) pool).isSome then
          .access id fun pool =>
            if (slotOf k (poolCombinedId usage type a.buf.toUInt32) pool).bind (fun slot => slot.token) = none then
              .access (onItem k (grant token usage type a)) fun _ =>
                .access (onItem k (setFlag usage.toNat false)) fun _ => .done
            else .access (onItem k (setFlag usage.toNat false)) fun _ => .done
        else .done
    else .done

/-- The loop of `getPoolId`, and what `alloc` does with the id. -/
def allocFrom (token : Binder) (grallocUsage : UInt32) : Nat → UInt32 → Body GuiExtPool
  | 0, _ => .done
  | fuel + 1, poolId =>
    let poolId := (poolId + 1) % 10
    let k := if poolId = 0 then 10 else poolId
    .access id fun pool =>
      if pool.alive k then allocFrom token grallocUsage fuel poolId
      else
        .access (fun pool => { pool with poolId := k }) fun _ =>
          .access (fun pool =>
            { pool with
              poolList := pool.poolList.add k
                (PoolItem.create token (decide (grallocUsage &&& grallocUsageHwComposer ≠ 0)) k pool.displayList) })
            fun _ => .done

def Call.body : Call → Body GuiExtPool
  | .alloc token grallocUsage =>
    .access id fun pool =>
      if maxAllocSize ≤ pool.poolList.size then .done
      else
        .access (fun pool =>
          if pool.poolList.size = 0 then
            { pool with displayList := pool.displayList.add displayPrimary ⟨0, maxHwcDequeuedNum⟩ }
          else pool) fun _ =>
          .access id fun pool => allocFrom token grallocUsage maxAllocSize pool.poolId
  | .free poolId =>
    .access id fun pool =>
      if pool.alive poolId then .access (onItem poolId orphan) fun _ => removal poolId else .done
  | .acquire token poolId usage type a =>
    .access id fun pool => if pool.alive poolId then acquireItem token poolId usage type a else .done
  | .release poolId usage type buf =>
    .access id fun pool => if pool.alive poolId then releaseItem poolId usage type buf else .done
  | .disconnect poolId usage _ =>
    .access id fun pool =>
      match pool.poolList.valueFor poolId with
      | none => .done
      | some item =>
        if item.Lacks usage then removal poolId
        else .access (onItem poolId (setFlag usage.toNat true)) fun _ => removal poolId

/-! ## The observers -/

/-- The loop of `ProducerDeathObserver::binderDied`, from the index `i - 1` down. -/
def producerLoop (who : Binder) : Nat → Prog GuiExtPool
  | 0 => .done
  | i + 1 => .access (inPool i) id fun pool =>
    if pool.producerAt i = some who then
      -- the log line, the token, the pid and the id: four times the index
      .access (inPool i) id fun _ =>
        .access (inPool i) (orphanAt i) fun _ =>
          .access (inPool i) id fun _ =>
            .access (inPool i) id fun pool => .locked (removal (pool.idAt i)) (producerLoop who i)
    else producerLoop who i

/-- `i` is an index of `mConsumerList` of the item `k`. -/
def inSlotsOf (k : UInt32) (i : Nat) (pool : GuiExtPool) : Bool := (pool.poolList.valueFor k).any (inSlots i)

/-- The first loop of `ConsumerDeathObserver::binderDied`, over the indices that are left. -/
def consumerFirst (who : Binder) (k : UInt32) (rest : Prog GuiExtPool) : List Nat → Prog GuiExtPool
  | [] => rest
  | i :: is => .access (inSlotsOf k i) id fun pool =>
    if ((pool.poolList.valueFor k).bind (slotAt i)).bind (fun slot => slot.token) = some who then
      .access (inSlotsOf k i) id fun pool =>
        match (pool.poolList.valueFor k).bind (slotAt i) with
        | none => consumerFirst who k rest is
        | some slot =>
          (releaseItem k slot.usage slot.type slot.idx).unlocked (alive k)
            (.access (inSlotsOf k i) (onItem k (onSlotAt i dropToken)) fun _ =>
              .access (inSlotsOf k i) id fun _ =>
                .access (inSlotsOf k i) (onItem k (onSlotAt i dropObserver)) fun _ => consumerFirst who k rest is)
    else consumerFirst who k rest is

/-- The loop that sets `mIsDisconnected`. -/
def consumerFlags (k : UInt32) (rest : Prog GuiExtPool) : List Nat → Prog GuiExtPool
  | [] => rest
  | usage :: usages => .access (alive k) (onItem k (setFlag usage true)) fun _ => consumerFlags k rest usages

/-- The last loop, over the indices that are left, and the listener; `vacant` is `isDisconnect`. -/
def consumerSecond (k : UInt32) : Bool → List Nat → Prog GuiExtPool
  | vacant, [] =>
    if vacant then
      .access (alive k) id fun pool =>
        .locked (removal (((pool.poolList.valueFor k).map fun item => item.id).getD 0)) .done
    else .done
  | vacant, i :: is => .access (inSlotsOf k i) id fun pool =>
    if ((pool.poolList.valueFor k).bind (slotAt i)).bind (fun slot => slot.token) = none then consumerSecond k vacant is
    else .access (inSlotsOf k i) (onItem k (connectAt i)) fun _ => consumerSecond k false is

def Death.prog : Death → Prog GuiExtPool
  | .producer who => .access (fun _ => true) id fun pool => producerLoop who pool.poolList.size
  | .consumer who k => .access (alive k) id fun pool =>
    let slots := List.range (((pool.poolList.valueFor k).map fun item => item.consumerList.size).getD 0)
    if slots = [] then .done
    else consumerFirst who k (consumerFlags k (consumerSecond k true slots) (List.range usageMax)) slots

/-! ## On their own -/

section Alone

variable (pool : GuiExtPool) (k : UInt32)

variable {item : PoolItem} {usage type : UInt32} {x : UInt32 × ConsumerSlot}

theorem onItem_of_none {F : PoolItem → PoolItem} (hitem : pool.poolList.valueFor k = none) : onItem k F pool = pool := by
  simp [onItem, modify_of_none hitem]

variable {pool k}

theorem onItem_congr {F G : PoolItem → PoolItem} (hitem : pool.poolList.valueFor k = some item) (h : F item = G item) :
    onItem k F pool = onItem k G pool := by
  simp [onItem, KeyedVector.modify_congr fun i hi => some.inj (hitem.symm.trans hi) ▸ h]

theorem onItem_self {F : PoolItem → PoolItem} (hitem : pool.poolList.valueFor k = some item) (h : F item = item) :
    onItem k F pool = pool := by
  simp [onItem, modify_self fun i hi => some.inj (hitem.symm.trans hi) ▸ h]

variable (pool k)

theorem onItem_id : onItem k (fun item => item) pool = pool := by simp only [onItem, modify_self fun _ _ => rfl]

theorem onItem_comp (F G : PoolItem → PoolItem) : onItem k G (onItem k F pool) = onItem k (G ∘ F) pool := by
  simp [onItem, modify_comp]

variable (F : PoolItem → PoolItem)

theorem valueFor_onItem (k' : UInt32) :
    (onItem k F pool).poolList.valueFor k' =
      if k' = k then (pool.poolList.valueFor k').map F else pool.poolList.valueFor k' :=
  KeyedVector.valueFor_modify _ _ _ _

theorem valueFor_onItem_self : (onItem k F pool).poolList.valueFor k = (pool.poolList.valueFor k).map F := by
  rw [valueFor_onItem, if_pos rfl]

theorem exec_ifAlive (b : Body GuiExtPool) :
    (Body.access id fun pool => if pool.alive k then b else .done).exec pool =
      if pool.alive k = true then b.exec pool else pool := by
  show exec (if pool.alive k = true then b else .done) pool = _
  split_ifs <;> rfl

theorem removePoolItemLocked_keeps (h : ∀ item, pool.poolList.valueFor k = some item → ¬item.Abandoned) :
    (pool.removePoolItemLocked k).1 = pool := by
  unfold GuiExtPool.removePoolItemLocked
  split
  · rfl
  · rename_i item hitem
    split_ifs with hconn htok
    · rfl
    · exact absurd ⟨hconn, htok⟩ (h item hitem)
    · rfl

theorem removePoolItemLocked_drops (hitem : pool.poolList.valueFor k = some item) (h : item.Abandoned) :
    (pool.removePoolItemLocked k).1 = dropItem k pool := by
  simp [GuiExtPool.removePoolItemLocked, hitem, h.1, h.2, dropItem]

theorem exec_removeFrom (hitem : pool.poolList.valueFor k = some item) :
    (removeFrom k usageMax).exec pool = if item.Abandoned then dropItem k pool else pool := by
  simp only [abandoned_iff, GpuIdle, HwcIdle]
  by_cases hgpu : item.isDisconnected[0] = true
  · by_cases hhwc : item.isDisconnected[1] = true
    · by_cases htok : item.producerToken = none <;> simp [removeFrom, exec, hitem, hgpu, hhwc, htok]
    · simp [removeFrom, exec, hitem, hgpu, hhwc]
  · simp [removeFrom, exec, hitem, hgpu]

theorem exec_removal : (removal k).exec pool = (pool.removePoolItemLocked k).1 := by
  rw [removal, exec_ifAlive]
  rcases hitem : pool.poolList.valueFor k with _ | item
  · rw [removePoolItemLocked_keeps pool k fun item h => absurd (h.symm.trans hitem) (some_ne_none _)]
    simp [alive, hitem]
  · rw [alive, hitem, isSome_some, if_pos rfl, exec_removeFrom pool k hitem]
    split_ifs with h
    · exact (removePoolItemLocked_drops pool k hitem h).symm
    · refine (removePoolItemLocked_keeps pool k fun item' h' => ?_).symm
      exact some.inj (hitem.symm.trans h') ▸ h

theorem release_of_serves {buf : UInt32} (h : item.serves usage type = true) :
    (item.release usage type buf).1 = item.onSlot (poolCombinedId usage type buf) vacate := by
  simp only [serves, Bool.and_eq_true, Bool.not_eq_true', decide_eq_false_iff_not] at h
  simp [PoolItem.release, h.1, h.2, onSlot]

theorem release_of_not_serves {buf : UInt32} (h : item.serves usage type = false) :
    (item.release usage type buf).1 = item := by
  unfold PoolItem.release
  split_ifs with hlacks hproducer
  · rfl
  · rfl
  · rw [Bool.not_eq_true, Bool.not_eq_false'] at hproducer
    simp [serves, hlacks, hproducer] at h

theorem onSlot_of_none {key : UInt32} {F : ConsumerSlot → ConsumerSlot} (h : item.consumerList.valueFor key = none) :
    item.onSlot key F = item := by
  simp [onSlot, modify_of_none h]

theorem onSlot_comp (key : UInt32) (F G : ConsumerSlot → ConsumerSlot) (item : PoolItem) :
    (item.onSlot key F).onSlot key G = item.onSlot key (G ∘ F) := by
  simp [onSlot, modify_comp]

theorem exec_releaseItem (usage type buf : UInt32) :
    (releaseItem k usage type buf).exec pool = onItem k (fun item => (item.release usage type buf).1) pool := by
  rcases hitem : pool.poolList.valueFor k with _ | item
  · rw [onItem_of_none pool k hitem]
    simp [releaseItem, exec, hitem]
  · rcases hserves : item.serves usage type
    · rw [onItem_self hitem (release_of_not_serves hserves)]
      simp [releaseItem, exec, hitem, hserves]
    · rw [onItem_congr hitem (release_of_serves hserves)]
      rcases hslot : item.consumerList.valueFor (poolCombinedId usage type buf) with _ | slot
      · rw [onItem_self hitem (onSlot_of_none hslot)]
        simp [releaseItem, exec, hitem, hserves, slotOf, hslot]
      · simp only [releaseItem, exec, hitem, any_some, hserves, if_true, slotOf, bind_some, hslot,
          isSome_some, id_eq, onItem_comp]
        exact onItem_congr hitem (onSlot_comp _ _ _ item)

theorem acquire_of_refused {token : Binder} {a : Dequeued}
    (h : (item.serves usage type && !(a.wouldBlock || decide (a.buf < 0))) = false) :
    (item.acquire token usage type a).1 = item := by
  unfold PoolItem.acquire
  split_ifs with hlacks hproducer hblock
  · rfl
  · rfl
  · rfl
  · rw [Bool.not_eq_true, Bool.not_eq_false'] at hproducer
    simp [serves, hlacks, hproducer, hblock] at h

theorem acquire_of_granted (token : Binder) {a : Dequeued}
    (h : (item.serves usage type && !(a.wouldBlock || decide (a.buf < 0))) = true) :
    (item.acquire token usage type a).1 =
      match item.consumerList.valueFor (poolCombinedId usage type a.buf.toUInt32) with
      | none => item
      | some slot => (if slot.token = none then grant token usage type a item else item).setFlag usage.toNat false := by
  rw [Bool.and_eq_true, Bool.not_eq_true', serves, Bool.and_eq_true, Bool.not_eq_true', decide_eq_false_iff_not] at h
  obtain ⟨⟨hlacks, hproducer⟩, hblock⟩ := h
  simp only [PoolItem.acquire, hlacks, hproducer, hblock]
  rcases item.consumerList.valueFor (poolCombinedId usage type a.buf.toUInt32) with _ | slot
  · rfl
  · by_cases htok : slot.token = none
    · simp [htok, grant, setFlag]
    · simp [htok, setFlag]

theorem exec_acquireItem (token : Binder) (usage type : UInt32) (a : Dequeued) :
    (acquireItem token k usage type a).exec pool = onItem k (fun item => (item.acquire token usage type a).1) pool := by
  rcases hitem : pool.poolList.valueFor k with _ | item
  · rw [onItem_of_none pool k hitem]
    simp [acquireItem, exec, hitem]
  · rcases hgranted : item.serves usage type && !(a.wouldBlock || decide (a.buf < 0))
    · rw [onItem_self hitem (acquire_of_refused hgranted)]
      simp only [acquireItem, exec, hitem, any_some, hgranted, Bool.false_eq_true, if_false, id_eq]
    · have hacquire := acquire_of_granted token hgranted
      rcases hslot : item.consumerList.valueFor (poolCombinedId usage type a.buf.toUInt32) with _ | slot
      · rw [hslot] at hacquire
        rw [onItem_self hitem hacquire]
        simp only [acquireItem, exec, hitem, any_some, hgranted, if_true, slotOf, bind_some, hslot,
          isSome_none, Bool.false_eq_true, if_false, id_eq]
      · rw [hslot] at hacquire
        by_cases htok : slot.token = none
        · simp only [acquireItem, exec, hitem, any_some, hgranted, if_true, slotOf, bind_some, hslot,
            isSome_some, htok, id_eq, onItem_comp]
          simp only [htok] at hacquire
          exact onItem_congr hitem hacquire.symm
        · simp only [acquireItem, exec, hitem, any_some, hgranted, if_true, slotOf, bind_some, hslot,
            isSome_some, htok, if_false, id_eq]
          simp only [htok] at hacquire
          exact onItem_congr hitem hacquire.symm

theorem exec_allocFrom (token : Binder) (grallocUsage : UInt32) (fuel : Nat) (poolId : UInt32) :
    (allocFrom token grallocUsage fuel poolId).exec pool =
      match probe pool.poolList fuel poolId with
      | none => pool
      | some k =>
        { pool with
          poolId := k
          poolList := pool.poolList.add k
            (PoolItem.create token (decide (grallocUsage &&& grallocUsageHwComposer ≠ 0)) k pool.displayList) } := by
  induction fuel generalizing poolId with
  | zero => rfl
  | succ fuel ih =>
    rcases hitem : pool.poolList.valueFor (if (poolId + 1) % 10 = 0 then 10 else (poolId + 1) % 10) with _ | item
    · simp [allocFrom, exec, probe, alive, hitem]
    · simp only [allocFrom, exec, probe, alive, hitem]
      exact ih _

theorem disconnect_of_lacks (h : item.Lacks usage) : (item.disconnect usage).1 = item := by
  simp [PoolItem.disconnect, h]

theorem disconnect_of_not_lacks (h : ¬item.Lacks usage) :
    (item.disconnect usage).1 = item.setFlag usage.toNat true := by
  simp [PoolItem.disconnect, h, setFlag]

/-- **The calls.** Its accesses one after the other are what the call does. -/
theorem Call.exec_body (call : Call) : call.body.exec pool = call.alone pool := by
  cases call with
  | alloc token grallocUsage =>
    by_cases hfull : maxAllocSize ≤ pool.poolList.size
    · simp [Call.body, Call.alone, exec, GuiExtPool.alloc, hfull]
    · simp only [Call.body, Call.alone, exec, GuiExtPool.alloc, getPoolId, hfull, if_false, exec_allocFrom]
      split <;> simp_all
  | free poolId =>
    rw [Call.body, exec_ifAlive]
    rcases hitem : pool.poolList.valueFor poolId with _ | item
    · simp [Call.alone, alive, GuiExtPool.free, hitem]
    · simp only [Call.alone, exec, alive, GuiExtPool.free, hitem, exec_removal]
      rfl
  | acquire token poolId usage type a =>
    rw [Call.body, exec_ifAlive, exec_acquireItem]
    rcases hitem : pool.poolList.valueFor poolId with _ | item
    · simp [Call.alone, alive, GuiExtPool.acquire, hitem]
    · simp only [Call.alone, alive, GuiExtPool.acquire, hitem]
      exact onItem_congr hitem rfl
  | release poolId usage type buf =>
    rw [Call.body, exec_ifAlive, exec_releaseItem]
    rcases hitem : pool.poolList.valueFor poolId with _ | item
    · simp [Call.alone, alive, GuiExtPool.release, hitem]
    · simp only [Call.alone, alive, GuiExtPool.release, hitem]
      exact onItem_congr hitem rfl
  | disconnect poolId usage type =>
    rcases hitem : pool.poolList.valueFor poolId with _ | item
    · simp [Call.body, Call.alone, exec, GuiExtPool.disconnect, hitem]
    · simp only [Call.body, Call.alone, id_eq, GuiExtPool.disconnect, hitem, exec]
      show _ = ((onItem poolId (fun _ => (item.disconnect usage).1) pool).removePoolItemLocked poolId).1
      by_cases hlacks : item.Lacks usage
      · rw [if_pos hlacks, exec_removal, onItem_self hitem (disconnect_of_lacks hlacks)]
      · rw [if_neg hlacks, exec, exec_removal, onItem_congr (F := fun _ => _) hitem (disconnect_of_not_lacks hlacks)]

theorem getElem?_onItem (i : Nat) :
    (onItem k F pool).poolList.items[i]? =
      (pool.poolList.items[i]?).map fun x => if x.1 = k then (x.1, F x.2) else x :=
  List.getElem?_map

theorem exec_producerLoop (who : Binder) (i : Nat) :
    (producerLoop who i).exec pool = (producerDiedFrom who i pool).1 := by
  induction i generalizing pool with
  | zero => rfl
  | succ i ih =>
    rcases hx : pool.poolList.items[i]? with _ | ⟨key, item⟩
    · simp [producerLoop, producerDiedFrom, Prog.exec, producerAt, hx, ih]
    · by_cases htok : item.producerToken = some who
      · have hid : idAt i (onItem key orphan pool) = item.id := by
          simp [idAt, getElem?_onItem, hx, orphan]
        simp only [producerLoop, producerDiedFrom, Prog.exec, id_eq, producerAt, hx, bind_some, htok, if_true,
          orphanAt, hid, exec_removal, ih]
        rfl
      · simp [producerLoop, producerDiedFrom, Prog.exec, producerAt, hx, htok, ih]

theorem onSlotAt_eq {i : Nat} (hx : item.consumerList.items[i]? = some x) (F : ConsumerSlot → ConsumerSlot) :
    item.onSlotAt i F = item.onSlot x.1 F := by
  simp [onSlotAt, hx, onSlot]

theorem onSlotAt_vacates {i : Nat} (hx : item.consumerList.items[i]? = some x) :
    (item.onSlotAt i dropToken).onSlotAt i dropObserver = item.onSlot x.1 vacate := by
  have hx' : (item.onSlot x.1 dropToken).consumerList.items[i]? = some (x.1, dropToken x.2) := by
    show (update x.1 dropToken item.consumerList.items)[i]? = _
    rw [update, List.getElem?_map, hx, map_some, if_pos rfl]
  rw [onSlotAt_eq hx, onSlotAt_eq hx', onSlot_comp]
  rfl

theorem release_getElem? {i : Nat} (hx : item.consumerList.items[i]? = some x) (usage type buf : UInt32) :
    ∃ slot, (item.release usage type buf).1.consumerList.items[i]? = some (x.1, slot) := by
  rcases hserves : item.serves usage type
  · rw [release_of_not_serves hserves]
    exact ⟨x.2, hx⟩
  · rw [release_of_serves hserves]
    refine ⟨(if x.1 = poolCombinedId usage type buf then (x.1, vacate x.2) else x).2, ?_⟩
    show (update _ vacate item.consumerList.items)[i]? = _
    rw [update, List.getElem?_map, hx, map_some]
    split <;> rfl

theorem exec_consumerFirst (who : Binder) (rest : Prog GuiExtPool) (is : List Nat) :
    (consumerFirst who k rest is).exec pool = rest.exec (onItem k (fun item => is.foldl (releaseAt who) item) pool) := by
  induction is generalizing pool with
  | nil =>
    show rest.exec pool = rest.exec (onItem k (fun item => item) pool)
    rw [onItem_id]
  | cons i is ih =>
    -- one round is `releaseAt`
    have hround : (consumerFirst who k rest (i :: is)).exec pool =
        (consumerFirst who k rest is).exec (onItem k (fun item => releaseAt who item i) pool) := by
      rcases hitem : pool.poolList.valueFor k with _ | item
      · rw [onItem_of_none pool k hitem]
        simp [consumerFirst, Prog.exec, hitem]
      · rcases hx : item.consumerList.items[i]? with _ | x
        · rw [onItem_self hitem (by simp [releaseAt, hx])]
          simp [consumerFirst, Prog.exec, hitem, slotAt, hx]
        · by_cases htok : x.2.token = some who
          · obtain ⟨slot, hslot⟩ := release_getElem? hx x.2.usage x.2.type x.2.idx
            have hmem : releaseAt who item i =
                (((item.release x.2.usage x.2.type x.2.idx).1.onSlotAt i dropToken).onSlotAt i dropObserver) := by
              rw [onSlotAt_vacates hslot]
              simp [releaseAt, hx, htok, onSlot]
            simp only [consumerFirst, Prog.exec, hitem, bind_some, slotAt, hx, map_some, htok, if_true, id_eq,
              exec_unlocked, exec_releaseItem, onItem_comp]
            exact congrArg _ (onItem_congr hitem hmem.symm)
          · rw [onItem_self hitem (by simp [releaseAt, hx, htok])]
            simp [consumerFirst, Prog.exec, hitem, slotAt, hx, htok]
    rw [hround, ih, onItem_comp]
    rfl

theorem exec_consumerFlags (rest : Prog GuiExtPool) (usages : List Nat) :
    (consumerFlags k rest usages).exec pool =
      rest.exec (onItem k (fun item => usages.foldl (fun item usage => item.setFlag usage true) item) pool) := by
  induction usages generalizing pool with
  | nil =>
    show rest.exec pool = rest.exec (onItem k (fun item => item) pool)
    rw [onItem_id]
  | cons usage usages ih =>
    show (consumerFlags k rest usages).exec (onItem k (setFlag usage true) pool) = _
    rw [ih, onItem_comp]
    rfl

def recountAt (item : PoolItem) (i : Nat) : PoolItem :=
  if (item.slotAt i).bind (fun slot => slot.token) = none then item else item.connectAt i

theorem recountAt_consumerList (item : PoolItem) (i : Nat) : (recountAt item i).consumerList = item.consumerList := by
  unfold recountAt connectAt
  split_ifs
  · rfl
  · split <;> rfl

def VacantAt (is : List Nat) (item : PoolItem) : Prop := ∀ i ∈ is, (item.slotAt i).bind (fun slot => slot.token) = none
  deriving Decidable

theorem vacantAt_recountAt (is : List Nat) (item : PoolItem) (i : Nat) :
    VacantAt is (recountAt item i) ↔ VacantAt is item := by
  simp only [VacantAt, slotAt, recountAt_consumerList]

theorem exec_consumerSecond (hitem : pool.poolList.valueFor k = some item) (vacant : Bool) (is : List Nat) :
    (consumerSecond k vacant is).exec pool =
      if vacant = true ∧ VacantAt is item then
        ((onItem k (fun _ => is.foldl recountAt item) pool).removePoolItemLocked (is.foldl recountAt item).id).1
      else onItem k (fun _ => is.foldl recountAt item) pool := by
  induction is generalizing pool item vacant with
  | nil =>
    have hsame : onItem k (fun _ => item) pool = pool := onItem_self hitem rfl
    cases vacant with
    | false => simp [consumerSecond, Prog.exec, hsame]
    | true => simp [consumerSecond, Prog.exec, hsame, hitem, exec_removal, VacantAt]
  | cons i is ih =>
    -- what the round leaves, and whether the rest can be vacant
    have hround : (consumerSecond k vacant (i :: is)).exec pool =
        (consumerSecond k (vacant && decide ((item.slotAt i).bind (fun slot => slot.token) = none)) is).exec
          (onItem k (fun _ => recountAt item i) pool) := by
      by_cases htok : (item.slotAt i).bind (fun slot => slot.token) = none
      · rw [onItem_self (F := fun _ => recountAt item i) hitem (if_pos htok)]
        simp only [consumerSecond, Prog.exec, hitem, bind_some, htok, if_true, id_eq, decide_true, Bool.and_true]
      · rw [onItem_congr (F := fun _ => recountAt item i) (G := connectAt i) hitem (if_neg htok)]
        simp only [consumerSecond, Prog.exec, hitem, bind_some, htok, if_false, id_eq, decide_false, Bool.and_false]
    have hitem' : (onItem k (fun _ => recountAt item i) pool).poolList.valueFor k = some (recountAt item i) := by
      rw [valueFor_onItem_self, hitem]
      rfl
    have hvacant : (vacant && decide ((item.slotAt i).bind (fun slot => slot.token) = none)) = true ∧
          VacantAt is (recountAt item i) ↔ vacant = true ∧ VacantAt (i :: is) item := by
      rw [vacantAt_recountAt, Bool.and_eq_true, decide_eq_true_eq, and_assoc, VacantAt, VacantAt, List.forall_mem_cons]
    rw [hround, ih _ hitem', onItem_comp]
    simp only [hvacant]
    rfl

def connectFlag (flags : Vector Bool usageMax) (x : UInt32 × ConsumerSlot) : Vector Bool usageMax :=
  if x.2.token = none then flags else flags.setIfInBounds x.2.usage.toNat false

theorem foldl_recountAt (item : PoolItem) (n : Nat) :
    (List.range n).foldl recountAt item =
      { item with isDisconnected := (item.consumerList.items.take n).foldl connectFlag item.isDisconnected } := by
  induction n with
  | zero => rfl
  | succ n ih =>
    rw [List.range_succ, List.foldl_append, ih, List.take_add_one]
    rcases hx : item.consumerList.items[n]? with _ | x
    · simp [recountAt, slotAt, hx]
    · by_cases htok : x.2.token = none
      · simp [recountAt, slotAt, hx, htok, connectFlag]
      · simp [recountAt, slotAt, hx, htok, connectFlag, connectAt, setFlag]

theorem vacantAt_range (item : PoolItem) : VacantAt (List.range item.consumerList.size) item ↔ item.Vacant := by
  constructor
  · intro h x hx
    obtain ⟨i, hi⟩ := List.mem_iff_getElem?.mp hx
    have hlt : i < item.consumerList.size := (List.getElem?_eq_some_iff.mp hi).1
    simpa [slotAt, hi] using h i (List.mem_range.mpr hlt)
  · intro h i _
    rcases hx : item.consumerList.items[i]? with _ | x
    · simp [slotAt, hx]
    · simpa [slotAt, hx] using h x (List.mem_of_getElem? hx)

theorem size_foldl_releaseAt (who : Binder) (is : List Nat) (item : PoolItem) :
    (is.foldl (releaseAt who) item).consumerList.size = item.consumerList.size := by
  refine foldl_releaseAt (P := fun i => i.consumerList.size = item.consumerList.size) (fun i j h => ?_) is rfl
  rw [← h]
  unfold releaseAt
  split
  · rename_i key slot hx
    split_ifs
    · rcases hserves : i.serves slot.usage slot.type
      · simp [release_of_not_serves hserves]
      · simp [release_of_serves hserves, onSlot]
    · rfl
  · rfl

theorem raise_flags (item : PoolItem) :
    (List.range usageMax).foldl (fun item usage => item.setFlag usage true) item =
      { item with isDisconnected := Vector.replicate usageMax true } := by
  have hflags : (item.isDisconnected.setIfInBounds 0 true).setIfInBounds 1 true = Vector.replicate usageMax true := by
    obtain ⟨⟨l⟩, hl⟩ := item.isDisconnected
    match l, hl with
    | [x, y], _ => rfl
  rw [← hflags]
  rfl

theorem recount_raised (item : PoolItem) :
    (List.range item.consumerList.size).foldl recountAt { item with isDisconnected := Vector.replicate usageMax true } =
      recount item := by
  rw [foldl_recountAt]
  rw [size, List.take_length]
  rfl

theorem exec_consumer (hitem : pool.poolList.valueFor k = some item) (hsize : item.consumerList.size ≠ 0)
    (who : Binder) :
    (Death.consumer who k).prog.exec pool =
      if (item.consumerDied who).Vacant then
        ((onItem k (fun _ => item.consumerDied who) pool).removePoolItemLocked (item.consumerDied who).id).1
      else onItem k (fun _ => item.consumerDied who) pool := by
  have hslots : List.range item.consumerList.size ≠ [] := by simpa using hsize
  -- the item after the first loop; from there the flags are counted anew
  let released := (List.range item.consumerList.size).foldl (releaseAt who) item
  have hlen : item.consumerList.size = released.consumerList.size := (size_foldl_releaseAt who _ item).symm
  let raised : PoolItem := { released with isDisconnected := Vector.replicate usageMax true }
  have hcounted : (List.range item.consumerList.size).foldl recountAt raised = item.consumerDied who := by
    rw [hlen]
    exact recount_raised released
  have hvacant : VacantAt (List.range item.consumerList.size) raised ↔ (item.consumerDied who).Vacant := by
    rw [hlen]
    exact vacantAt_range raised
  let first := onItem k (fun item' => (List.range item.consumerList.size).foldl (releaseAt who) item') pool
  let second := onItem k (fun item => (List.range usageMax).foldl (fun item usage => item.setFlag usage true) item) first
  have hraised : second.poolList.valueFor k = some raised := by
    rw [valueFor_onItem_self, valueFor_onItem_self, hitem, map_some, map_some, raise_flags]
  have hexec : (Death.consumer who k).prog.exec pool =
      (consumerSecond k true (List.range item.consumerList.size)).exec second := by
    simp only [Death.prog, Prog.exec, hitem, map_some, getD_some, hslots, if_false, id_eq, exec_consumerFirst,
      exec_consumerFlags]
    rfl
  rw [hexec, exec_consumerSecond second k hraised, hcounted, onItem_comp, onItem_comp]
  simp only [hvacant, true_and]
  rfl

/-- **The observers.** Its accesses one after the other are what the notification does. -/
theorem Death.exec_prog (death : Death) : death.prog.exec pool = death.alone pool := by
  cases death with
  | producer who => exact exec_producerLoop pool who pool.poolList.size
  | consumer who k =>
    rcases hitem : pool.poolList.valueFor k with _ | item
    · simp [Death.prog, Death.alone, Prog.exec, hitem, GuiExtPool.consumerDied]
    · by_cases hsize : item.consumerList.size = 0
      · simp [Death.prog, Death.alone, Prog.exec, hitem, GuiExtPool.consumerDied, hsize]
      · rw [exec_consumer pool k hitem hsize]
        simp only [Death.alone, GuiExtPool.consumerDied, hitem]
        split_ifs <;> rfl

end Alone

end HuaweiY5.GuiExt
