import HuaweiY5.GuiExt.Pool

/-!
# `GuiExt.Items` — what a step does to an item

Every call but `alloc` works on the items that are there, one by one. `afterMove` says what becomes of an item, and
`step_treats` that this is what the pool does: the loop of the producer's observer, which
runs down the indices while items go, meets every item once.
-/

namespace HuaweiY5.GuiExt

open List Option
open Effect (allocated index removed)
open KeyedVector (mem_items_iff take_erase update valueFor_modify)

/-! ## One item -/

namespace PoolItem

/-- No usage of the item is connected, and it has no producer. -/
def Abandoned (item : PoolItem) : Prop := ¬item.connected < usageMax ∧ item.producerToken = none
  deriving Decidable

/-- The item, unless it is abandoned: `removePoolItemLocked` as a function of the item. -/
def settle (item : PoolItem) : Option PoolItem := if item.Abandoned then none else some item

/-- The item without its producer. -/
def orphan (item : PoolItem) : PoolItem := { item with producerToken := none }

/-- The item `k` after a move, if it is still there. -/
def afterMove (k : UInt32) : PoolMove → PoolItem → Option PoolItem
  | .alloc _ _, item => some item
  | .free _ poolId, item => if k = poolId then item.orphan.settle else some item
  | .acquire token poolId usage type a, item => if k = poolId then some (item.acquire token usage type a).1 else some item
  | .request _ _ _, item => some item
  | .release _ poolId usage type buf, item => if k = poolId then some (item.release usage type buf).1 else some item
  | .disconnect _ poolId usage _, item => if k = poolId then (item.disconnect usage).1.settle else some item
  | .configDisplay _ _ _ _ _, item => some item
  | .producerDied who, item => if item.producerToken = some who then item.orphan.settle else some item
  | .consumerDied who poolId, item =>
    if k = poolId then
      if item.consumerList.size = 0 then some item
      else if (item.consumerDied who).Vacant then (item.consumerDied who).settle
      else some (item.consumerDied who)
    else some item

variable {item : PoolItem}

theorem settle_eq_some {item' : PoolItem} (h : item.settle = some item') : item' = item ∧ ¬item.Abandoned := by
  unfold settle at h
  split at h
  · cases h
  · rename_i hkept
    exact ⟨(some.inj h).symm, hkept⟩

theorem settle_eq_none : item.settle = none ↔ item.Abandoned := by
  unfold settle
  by_cases h : item.Abandoned <;> simp

theorem acquire_id (token : Binder) (usage type : UInt32) (a : Dequeued) (item : PoolItem) :
    (item.acquire token usage type a).1.id = item.id := by
  unfold acquire
  split_ifs
  · rfl
  · rfl
  · rfl
  · dsimp only
    split <;> rfl

theorem release_id (usage type buf : UInt32) (item : PoolItem) : (item.release usage type buf).1.id = item.id := by
  unfold release
  split_ifs <;> rfl

theorem disconnect_id (usage : UInt32) (item : PoolItem) : (item.disconnect usage).1.id = item.id := by
  unfold disconnect
  split_ifs <;> rfl

theorem releaseAt_id (who : Binder) (item : PoolItem) (i : Nat) : (item.releaseAt who i).id = item.id := by
  unfold releaseAt
  split
  · split
    · exact release_id _ _ _ item
    · rfl
  · rfl

theorem foldl_releaseAt {P : PoolItem → Prop} {who : Binder} (h : ∀ item i, P item → P (item.releaseAt who i))
    (is : List Nat) (hitem : P item) : P (is.foldl (releaseAt who) item) := by
  induction is generalizing item with
  | nil => exact hitem
  | cons i is ih => exact ih (h item i hitem)

theorem consumerDied_id (who : Binder) (item : PoolItem) : (item.consumerDied who).id = item.id :=
  foldl_releaseAt (P := fun item' => item'.id = item.id) (fun item' i h => (releaseAt_id who item' i).trans h) _ rfl

/-- The item a call is about. -/
def target : PoolMove → Option UInt32
  | .free _ poolId | .acquire _ poolId _ _ _ | .release _ poolId _ _ _ | .disconnect _ poolId _ _
  | .consumerDied _ poolId => some poolId
  | _ => none

/-- **What can become of an item** `k` that is still there. -/
inductive Moved (k : UInt32) (item : PoolItem) : PoolMove → PoolItem → Prop
  | other {move : PoolMove} (h : target move ≠ some k) (hwho : ∀ who, move = .producerDied who → item.producerToken ≠ some who) :
      Moved k item move item
  | freed (who : Binder) (h : ¬item.orphan.Abandoned) : Moved k item (.free who k) item.orphan
  | acquired (token : Binder) (usage type : UInt32) (a : Dequeued) :
      Moved k item (.acquire token k usage type a) (item.acquire token usage type a).1
  | released (who : Binder) (usage type buf : UInt32) :
      Moved k item (.release who k usage type buf) (item.release usage type buf).1
  | disconnected (who : Binder) (usage type : UInt32) (h : ¬(item.disconnect usage).1.Abandoned) :
      Moved k item (.disconnect who k usage type) (item.disconnect usage).1
  | orphaned (who : Binder) (h : ¬item.orphan.Abandoned) : Moved k item (.producerDied who) item.orphan
  | slotless (who : Binder) (h : item.consumerList.size = 0) : Moved k item (.consumerDied who k) item
  | buried (who : Binder) (h : (item.consumerDied who).Vacant → ¬(item.consumerDied who).Abandoned) :
      Moved k item (.consumerDied who k) (item.consumerDied who)

variable {k : UInt32} {move : PoolMove} {item' : PoolItem}

theorem moved_of_afterMove (h : afterMove k move item = some item') : Moved k item move item' := by
  cases move with
  | alloc | request | configDisplay => exact some.inj h ▸ .other (by simp [target]) (by simp)
  | free | disconnect =>
    simp only [afterMove] at h
    split_ifs at h with hk
    · obtain ⟨rfl, hkept⟩ := settle_eq_some h
      subst hk
      constructor
      exact hkept
    · exact some.inj h ▸ .other (by simpa [target] using Ne.symm hk) (by simp)
  | acquire | release =>
    simp only [afterMove] at h
    split_ifs at h with hk
    · subst hk
      rw [← some.inj h]
      constructor
    · exact some.inj h ▸ .other (by simpa [target] using Ne.symm hk) (by simp)
  | producerDied who =>
    simp only [afterMove] at h
    split_ifs at h with htok
    · obtain ⟨rfl, hkept⟩ := settle_eq_some h
      exact .orphaned who hkept
    · refine some.inj h ▸ .other (by simp [target]) fun who' heq => ?_
      rwa [← PoolMove.producerDied.inj heq]
  | consumerDied who poolId =>
    simp only [afterMove] at h
    split_ifs at h with hk hsize hvacant
    · subst hk
      exact some.inj h ▸ .slotless who hsize
    · obtain ⟨rfl, hkept⟩ := settle_eq_some h
      subst hk
      exact .buried who fun _ => hkept
    · subst hk
      exact some.inj h ▸ .buried who fun h => absurd h hvacant
    · exact some.inj h ▸ .other (by simpa [target] using Ne.symm hk) (by simp)

/-- **A property of items.** It survives every move if it survives what the calls do to an item. -/
theorem afterMove_rule {P : PoolItem → Prop} (horphan : ∀ item, P item → P item.orphan)
    (hacquire : ∀ item token usage type a, P item → P (item.acquire token usage type a).1)
    (hrelease : ∀ item usage type buf, P item → P (item.release usage type buf).1)
    (hdisconnect : ∀ item usage, P item → P (item.disconnect usage).1)
    (hdied : ∀ item who, P item → P (item.consumerDied who)) (hitem : P item)
    (h : afterMove k move item = some item') : P item' := by
  cases moved_of_afterMove h with
  | other | slotless => exact hitem
  | freed | orphaned => exact horphan item hitem
  | acquired token usage type a => exact hacquire item token usage type a hitem
  | released who usage type buf => exact hrelease item usage type buf hitem
  | disconnected who usage => exact hdisconnect item usage hitem
  | buried who => exact hdied item who hitem

theorem afterMove_id (h : afterMove k move item = some item') : item'.id = item.id := by
  refine afterMove_rule (P := fun i => i.id = item.id) ?_ ?_ ?_ ?_ ?_ rfl h
  · exact fun _ hid => hid
  · exact fun i token usage type a hid => (acquire_id token usage type a i).trans hid
  · exact fun i usage type buf hid => (release_id usage type buf i).trans hid
  · exact fun i usage hid => (disconnect_id usage i).trans hid
  · exact fun i who hid => (consumerDied_id who i).trans hid

end PoolItem

/-! ## The pool -/

namespace GuiExtPool

open PoolItem

variable {pool : GuiExtPool}

/-- Every item is listed under its own id. -/
def Named (pool : GuiExtPool) : Prop := ∀ k item, pool.poolList.valueFor k = some item → item.id = k

/-- The item is there, and `f` removes it. -/
def Drops (f : PoolItem → Option PoolItem) (item : Option PoolItem) : Prop := ∃ i, item = some i ∧ f i = none

/-- Only the item of the call can go. -/
theorem removePoolItemLocked_valueFor (pool : GuiExtPool) (poolId k : UInt32) :
    (pool.removePoolItemLocked poolId).1.poolList.valueFor k =
      if k = poolId then (pool.poolList.valueFor k).bind settle else pool.poolList.valueFor k := by
  unfold removePoolItemLocked
  split
  · rename_i hnone
    split_ifs with hk
    · rw [hk, hnone]
      rfl
    · rfl
  · rename_i item hsome
    by_cases hk : k = poolId
    · rw [hk, hsome, bind_some]
      unfold settle Abandoned
      by_cases hconn : item.connected < usageMax
      · simp [hconn, hsome]
      · by_cases htok : item.producerToken = none
        · simp [hconn, htok]
        · simp [htok, hsome]
    · split_ifs
      · rfl
      · simp [hk]
      · rfl

theorem removed_mem_removePoolItemLocked (pool : GuiExtPool) (poolId k : UInt32) :
    removed k ∈ (pool.removePoolItemLocked poolId).2 ↔ k = poolId ∧ Drops settle (pool.poolList.valueFor k) := by
  unfold removePoolItemLocked
  split
  · rename_i hnone
    refine ⟨fun h => absurd h not_mem_nil, ?_⟩
    rintro ⟨rfl, i, hi, -⟩
    cases hi.symm.trans hnone
  · rename_i item hsome
    have hdrops : k = poolId ∧ Drops settle (pool.poolList.valueFor k) ↔ k = poolId ∧ item.Abandoned := by
      refine and_congr_right fun hk => ?_
      rw [hk, hsome, ← settle_eq_none]
      refine ⟨?_, fun h => ⟨item, rfl, h⟩⟩
      rintro ⟨i, hi, h⟩
      rwa [some.inj hi]
    rw [hdrops, Abandoned]
    by_cases hconn : item.connected < usageMax
    · simp [hconn]
    · by_cases htok : item.producerToken = none <;> simp [hconn, htok]

theorem clearProducer_settles (pool : GuiExtPool) (poolId k : UInt32) :
    ((pool.clearProducer poolId).removePoolItemLocked poolId).1.poolList.valueFor k =
      if k = poolId then (pool.poolList.valueFor k).bind fun item => item.orphan.settle else pool.poolList.valueFor k := by
  rw [removePoolItemLocked_valueFor, clearProducer]
  by_cases hk : k = poolId
  · simp only [hk, if_true, valueFor_modify, bind_map]
    rfl
  · simp [hk]

theorem removed_mem_clearProducer (pool : GuiExtPool) (poolId k : UInt32) :
    removed k ∈ ((pool.clearProducer poolId).removePoolItemLocked poolId).2 ↔
      k = poolId ∧ Drops (fun item => item.orphan.settle) (pool.poolList.valueFor k) := by
  rw [removed_mem_removePoolItemLocked, clearProducer]
  refine and_congr_right fun hk => ?_
  simp only [Drops, hk, if_true, valueFor_modify, map_eq_some_iff]
  constructor
  · rintro ⟨i, ⟨item, hitem, rfl⟩, h⟩
    exact ⟨item, hitem, h⟩
  · rintro ⟨item, hitem, h⟩
    exact ⟨_, ⟨item, hitem, rfl⟩, h⟩

theorem take_clearProducer {i : Nat} {x : UInt32 × PoolItem} (hx : pool.poolList.items[i]? = some x) :
    ((pool.clearProducer x.1).removePoolItemLocked x.1).1.poolList.items.take i = pool.poolList.items.take i := by
  have hitems : (pool.clearProducer x.1).poolList.items = update x.1 orphan pool.poolList.items := rfl
  have hmod : (pool.clearProducer x.1).poolList.items.take i = pool.poolList.items.take i := by
    exact KeyedVector.take_update orphan pool.poolList.ascending hx
  have hat : (pool.clearProducer x.1).poolList.items[i]? = some (x.1, x.2.orphan) := by
    rw [hitems, update, getElem?_map, hx, map_some, if_pos rfl]
  unfold removePoolItemLocked
  split
  · exact hmod
  · dsimp only
    split_ifs
    · exact hmod
    · exact (take_erase (clearProducer x.1 pool).poolList.ascending hat).trans hmod
    · exact hmod

theorem Named.clearProducer (h : Named pool) (poolId : UInt32) :
    Named ((pool.clearProducer poolId).removePoolItemLocked poolId).1 := by
  intro k item hitem
  rw [clearProducer_settles] at hitem
  split_ifs at hitem
  · obtain ⟨item', hitem', hsettle⟩ := bind_eq_some_iff.mp hitem
    rw [(settle_eq_some hsettle).1]
    exact h k item' hitem'
  · exact h k item hitem

/-- **The loop of the producer's observer.** From an index down it treats the items in front of the index, each once. -/
theorem producerDiedFrom_valueFor (who : Binder) (i : Nat) (h : Named pool) (k : UInt32) :
    (pool.producerDiedFrom who i).1.poolList.valueFor k =
        (if k ∈ (pool.poolList.items.take i).map Prod.fst then
          (pool.poolList.valueFor k).bind (afterMove k (.producerDied who))
        else pool.poolList.valueFor k) ∧
      (removed k ∈ (pool.producerDiedFrom who i).2 ↔
        k ∈ (pool.poolList.items.take i).map Prod.fst ∧
          Drops (afterMove k (.producerDied who)) (pool.poolList.valueFor k)) := by
  induction i generalizing pool with
  | zero => simp [producerDiedFrom]
  | succ i ih =>
    rw [producerDiedFrom]
    rcases hx : pool.poolList.items[i]? with _ | ⟨key, item⟩
    · -- the index is behind the last item
      have htake : pool.poolList.items.take (i + 1) = pool.poolList.items.take i := by
        rw [take_add_one, hx]
        simp
      rw [htake]
      exact ih h
    · have hkeys : (pool.poolList.items.take (i + 1)).map Prod.fst =
          (pool.poolList.items.take i).map Prod.fst ++ [key] := by
        rw [take_add_one, hx]
        simp
      have hat : pool.poolList.valueFor key = some item := mem_items_iff.mp (mem_of_getElem? hx)
      have hnot : key ∉ (pool.poolList.items.take i).map Prod.fst := by
        intro hmem
        obtain ⟨y, hy, heq⟩ := List.mem_map.mp hmem
        exact KeyedVector.ne_of_mem_take pool.poolList.ascending hx hy heq
      simp only [hkeys, mem_append, mem_singleton]
      by_cases htok : item.producerToken = some who
      · have hid : item.id = key := h key item hat
        simp only [htok, if_true, hid]
        obtain ⟨hval, hrem⟩ := ih (h.clearProducer key)
        simp only [hval, mem_append, hrem, take_clearProducer hx, clearProducer_settles, removed_mem_clearProducer]
        by_cases hk : k = key
        · subst hk
          simp only [hnot, if_false, if_true, or_true, true_and, false_and, or_false, hat, bind_some, Drops,
            some.injEq, exists_eq_left', afterMove, htok, and_self]
        · simp [hk]
      · simp only [htok, if_false]
        obtain ⟨hval, hrem⟩ := ih h
        rw [hval, hrem]
        by_cases hk : k = key
        · subst hk
          simp [hat, Drops, afterMove, htok]
        · simp [hk]

theorem mem_keys_iff (k : UInt32) : k ∈ pool.poolList.items.map Prod.fst ↔ (pool.poolList.valueFor k).isSome := by
  rw [List.mem_map, isSome_iff_exists]
  constructor
  · rintro ⟨⟨key, item⟩, hmem, rfl⟩
    exact ⟨item, mem_items_iff.mp hmem⟩
  · rintro ⟨item, hitem⟩
    exact ⟨(k, item), mem_items_iff.mpr hitem, rfl⟩

/-- The observer does to each item what `afterMove` says. -/
theorem producerDied_spec (who : Binder) (h : Named pool) (k : UInt32) :
    (pool.producerDied who).1.poolList.valueFor k =
        (pool.poolList.valueFor k).bind (afterMove k (.producerDied who)) ∧
      (removed k ∈ (pool.producerDied who).2 ↔
        Drops (afterMove k (.producerDied who)) (pool.poolList.valueFor k)) := by
  obtain ⟨hval, hrem⟩ := producerDiedFrom_valueFor who pool.poolList.size h k
  have htake : pool.poolList.items.take pool.poolList.size = pool.poolList.items := take_length
  simp only [htake, mem_keys_iff] at hval hrem
  refine ⟨hval.trans ?_, hrem.trans ?_⟩
  · rcases pool.poolList.valueFor k with _ | item <;> rfl
  · refine ⟨fun h => h.2, fun h => ⟨?_, h⟩⟩
    obtain ⟨item, hitem, -⟩ := h
    rw [hitem]
    rfl

/-- A result treats an item as `f` says: it is what `f` makes of it, and its removal is shown if `f` drops it. -/
def Treats (pool : GuiExtPool) (r : GuiExtPool × List Effect) (k : UInt32) (f : PoolItem → Option PoolItem) : Prop :=
  r.1.poolList.valueFor k = (pool.poolList.valueFor k).bind f ∧
    (removed k ∈ r.2 ↔ Drops f (pool.poolList.valueFor k))

section Treats

variable {r : GuiExtPool × List Effect} {k poolId : UInt32} {item : PoolItem}

theorem Treats.same (hlist : r.1.poolList = pool.poolList) (hout : removed k ∉ r.2) : Treats pool r k some := by
  refine ⟨by rw [hlist, bind_fun_some], iff_of_false hout ?_⟩
  rintro ⟨i, -, h⟩
  cases h

theorem Treats.absent (f : PoolItem → Option PoolItem) (hpool : pool.poolList.valueFor poolId = none)
    (hlist : r.1.poolList = pool.poolList) (hout : removed k ∉ r.2) :
    Treats pool r k fun i => if k = poolId then f i else some i := by
  by_cases hk : k = poolId
  · subst hk
    refine ⟨by rw [hlist, hpool]; rfl, iff_of_false hout ?_⟩
    rintro ⟨i, hi, -⟩
    cases hi.symm.trans hpool
  · simp only [hk]
    exact .same hlist hout

theorem Treats.modify (f : PoolItem → PoolItem) (hpool : pool.poolList.valueFor poolId = some item)
    (hlist : r.1.poolList = pool.poolList.modify poolId fun _ => f item) (hout : removed k ∉ r.2) :
    Treats pool r k fun i => if k = poolId then some (f i) else some i := by
  refine ⟨?_, iff_of_false hout ?_⟩
  · rw [hlist]
    by_cases hk : k = poolId
    · simp [hk, hpool]
    · simp [hk]
  · rintro ⟨i, -, h⟩
    split_ifs at h

theorem Treats.settle {g : PoolItem → PoolItem} (f : PoolItem → PoolItem)
    (hpool : pool.poolList.valueFor poolId = some item) (hg : g item = f item)
    (hlist : r.1.poolList = (removePoolItemLocked poolId { pool with poolList := pool.poolList.modify poolId g }).1.poolList)
    (hout : removed k ∈ r.2 ↔
      removed k ∈ (removePoolItemLocked poolId { pool with poolList := pool.poolList.modify poolId g }).2) :
    Treats pool r k fun i => if k = poolId then (f i).settle else some i := by
  refine ⟨?_, hout.trans ?_⟩
  · rw [hlist, removePoolItemLocked_valueFor]
    by_cases hk : k = poolId
    · simp [hk, hpool, hg]
    · simp [hk]
  · rw [removed_mem_removePoolItemLocked]
    by_cases hk : k = poolId
    · simp [hk, hpool, Drops, hg]
    · simp [hk, Drops]

theorem Treats.congr {f g : PoolItem → Option PoolItem} (h : Treats pool r k f)
    (hfg : ∀ i, pool.poolList.valueFor k = some i → f i = g i) : Treats pool r k g := by
  unfold Treats at h ⊢
  rcases hk : pool.poolList.valueFor k with _ | i
  · rw [hk] at h
    refine ⟨h.1, h.2.trans (iff_of_false ?_ ?_)⟩ <;> (rintro ⟨i, hi, -⟩; exact absurd hi.symm (some_ne_none i))
  · rw [hk] at h
    simp only [bind_some, Drops, some.injEq, exists_eq_left'] at h ⊢
    rw [← hfg i hk]
    exact h

end Treats

theorem free_treats (who : Binder) (poolId k : UInt32) :
    Treats pool (pool.free poolId) k (afterMove k (.free who poolId)) := by
  unfold free
  split
  · rename_i hnone
    exact .absent (fun i => i.orphan.settle) hnone rfl (by simp)
  · rename_i item hsome
    refine .settle (g := orphan) orphan hsome rfl rfl ?_
    simp only [mem_append, mem_singleton, reduceCtorEq, or_false]
    exact Iff.rfl

theorem removed_notMem_logged (k usage type : UInt32) : removed k ∉ logged usage type := by simp [logged]

theorem acquire_quiet (token : Binder) (usage type : UInt32) (a : Dequeued) (item : PoolItem) (k : UInt32) :
    removed k ∉ (item.acquire token usage type a).2.2 := by
  unfold PoolItem.acquire
  split_ifs
  · simp
  · simp
  · simp
  · dsimp only
    split <;> simp

theorem disconnect_quiet (usage : UInt32) (item : PoolItem) (k : UInt32) :
    removed k ∉ (item.disconnect usage).2.2 := by
  unfold PoolItem.disconnect
  split_ifs <;> simp

theorem acquire_treats (token : Binder) (poolId usage type : UInt32) (a : Dequeued) (k : UInt32) :
    Treats pool (pool.acquire token poolId usage type a) k (afterMove k (.acquire token poolId usage type a)) := by
  unfold acquire
  split
  · rename_i hnone
    exact .absent _ hnone rfl (by simp [removed_notMem_logged])
  · rename_i item hsome
    exact .modify (fun i => (i.acquire token usage type a).1) hsome rfl
      (by simp [removed_notMem_logged, acquire_quiet])

theorem request_treats (poolId usage type k : UInt32) :
    Treats pool (pool.request poolId usage type) k (afterMove k (.request poolId usage type)) := by
  unfold request
  split <;> exact .same rfl (by simp [removed_notMem_logged])

theorem release_treats (who : Binder) (poolId usage type buf k : UInt32) :
    Treats pool (pool.release poolId usage type buf) k (afterMove k (.release who poolId usage type buf)) := by
  unfold release
  split
  · rename_i hnone
    exact .absent _ hnone rfl (by simp [removed_notMem_logged])
  · rename_i item hsome
    exact .modify (fun i => (i.release usage type buf).1) hsome rfl (by simp [removed_notMem_logged])

theorem disconnect_treats (who : Binder) (poolId usage type k : UInt32) :
    Treats pool (pool.disconnect poolId usage type) k (afterMove k (.disconnect who poolId usage type)) := by
  unfold disconnect
  split
  · rename_i hnone
    exact .absent _ hnone rfl (by simp [removed_notMem_logged])
  · rename_i item hsome
    exact .settle (fun i => (i.disconnect usage).1) hsome rfl rfl (by simp [removed_notMem_logged, disconnect_quiet])

theorem configDisplay_treats (type : UInt32) (enable : Bool) (w h bufNum k : UInt32) :
    Treats pool (pool.configDisplay type enable w h bufNum) k (afterMove k (.configDisplay type enable w h bufNum)) := by
  unfold configDisplay
  split
  · split <;> exact .same rfl not_mem_nil
  · exact .same rfl not_mem_nil

theorem removed_notMem_recountIndices (item : PoolItem) (k : UInt32) : removed k ∉ item.recountIndices := by
  simp [recountIndices]

theorem consumerDied_treats (h : Named pool) (who : Binder) (poolId k : UInt32) :
    Treats pool (pool.consumerDied who poolId) k (afterMove k (.consumerDied who poolId)) := by
  unfold consumerDied
  split
  · rename_i hnone
    exact .absent _ hnone rfl not_mem_nil
  · rename_i item hsome
    have hat : ∀ i, k = poolId → pool.poolList.valueFor k = some i → i = item := by
      rintro i rfl hi
      exact some.inj (hi.symm.trans hsome)
    split
    · rename_i hsize
      refine (Treats.same rfl not_mem_nil).congr fun i hi => ?_
      simp only [afterMove]
      split_ifs with hk hsize'
      · rfl
      all_goals first | rfl | exact absurd ((hat i hk hi) ▸ hsize) hsize'
    · rename_i hsize
      dsimp only
      split
      · rename_i hvacant
        have hid : (item.consumerDied who).id = poolId := (consumerDied_id who item).trans (h poolId item hsome)
        rw [hid]
        refine Treats.congr (f := fun i => if k = poolId then (i.consumerDied who).settle else some i) ?_ fun i hi => ?_
        · exact .settle (g := fun _ => item.consumerDied who) (fun i => i.consumerDied who) hsome rfl rfl
            (by simp [removed_notMem_recountIndices])
        · simp only [afterMove]
          by_cases hk : k = poolId
          · simp [hat i hk hi, hsize, hvacant]
          · simp [hk]
      · rename_i hvacant
        refine (Treats.modify (fun i => i.consumerDied who) hsome rfl
          (removed_notMem_recountIndices _ k)).congr fun i hi => ?_
        simp only [afterMove]
        by_cases hk : k = poolId
        · simp [hat i hk hi, hsize, hvacant]
        · simp [hk]

variable {move : PoolMove} {e : Effect}

/-- **What every call but `alloc` does.** An item is afterwards what `afterMove` makes of it, and it is the ones that are
    dropped by it whose removal is shown. -/
theorem step_treats (h : Named pool) (hmove : ∀ token usage, move ≠ .alloc token usage) (k : UInt32) :
    Treats pool (pool.step move) k (afterMove k move) := by
  cases move with
  | alloc token usage => exact absurd rfl (hmove token usage)
  | free who poolId => exact free_treats who poolId k
  | acquire token poolId usage type a => exact acquire_treats token poolId usage type a k
  | request poolId usage type => exact request_treats poolId usage type k
  | release who poolId usage type buf => exact release_treats who poolId usage type buf k
  | disconnect who poolId usage type => exact disconnect_treats who poolId usage type k
  | configDisplay type enable w height bufNum => exact configDisplay_treats type enable w height bufNum k
  | producerDied who => exact producerDied_spec who h k
  | consumerDied who poolId => exact consumerDied_treats h who poolId k

theorem probe_eq_some {list : KeyedVector UInt32 PoolItem} {fuel : Nat} {poolId id : UInt32}
    (h : probe list fuel poolId = some id) : list.valueFor id = none ∧ 1 ≤ id.toNat ∧ id.toNat ≤ 10 := by
  induction fuel generalizing poolId with
  | zero => cases h
  | succ fuel ih =>
    rw [probe] at h
    split at h
    · rename_i hnone
      rw [← some.inj h]
      refine ⟨hnone, ?_⟩
      split_ifs with hzero
      · exact ⟨by decide, by decide⟩
      · have hlt : ((poolId + 1) % 10).toNat < 10 := by
          exact Nat.mod_lt _ (by decide)
        have hpos : ((poolId + 1) % 10).toNat ≠ 0 := fun h0 => hzero (UInt32.toNat_inj.mp h0)
        omega
    · exact ih h

/-- **What `alloc` does.** It changes no item, or it adds one under an id that is free. -/
theorem alloc_cases (pool : GuiExtPool) (token : Binder) (grallocUsage : UInt32) :
    ((pool.alloc token grallocUsage).1.poolList = pool.poolList ∧ (pool.alloc token grallocUsage).1.poolId = pool.poolId ∧
      ((pool.alloc token grallocUsage).2 = [.returned .notEnoughData] ∧ maxAllocSize ≤ pool.poolList.size ∨
        (pool.alloc token grallocUsage).2 = [.looping] ∧ pool.poolList.size < maxAllocSize ∧ pool.getPoolId = none)) ∨
    ∃ id needed displays, pool.getPoolId = some id ∧ pool.poolList.size < maxAllocSize ∧
      (pool.alloc token grallocUsage).1.poolId = id ∧
      (pool.alloc token grallocUsage).1.poolList = pool.poolList.add id (PoolItem.create token needed id displays) ∧
      (pool.alloc token grallocUsage).2 =
        (PoolItem.create token needed id displays).createIndices ++ [allocated id, Effect.returned .noError] := by
  unfold alloc
  split
  · rename_i hfull
    exact .inl ⟨rfl, rfl, .inl ⟨rfl, hfull⟩⟩
  · rename_i hroom
    dsimp only
    -- the display that is added when the list is empty changes neither the list nor the id
    generalize hp : (if pool.poolList.size = 0 then
      { pool with displayList := pool.displayList.add displayPrimary ⟨0, maxHwcDequeuedNum⟩ } else pool) = p
    have hsame : p.poolList = pool.poolList ∧ p.poolId = pool.poolId := by
      rw [← hp]
      split_ifs <;> exact ⟨rfl, rfl⟩
    have hget : p.getPoolId = pool.getPoolId := by rw [getPoolId, getPoolId, hsame.1, hsame.2]
    split
    · rename_i hnone
      exact .inl ⟨hsame.1, hsame.2, .inr ⟨rfl, Nat.lt_of_not_le hroom, hget ▸ hnone⟩⟩
    · rename_i id hsome
      exact .inr ⟨id, _, p.displayList, hget ▸ hsome, Nat.lt_of_not_le hroom, rfl, by rw [hsame.1], rfl⟩

/-- **An item after a step.** It is a new one, or it is what the step has made of the one there was. -/
theorem item_after_step (hnamed : pool.Named) {k : UInt32} {item' : PoolItem}
    (h : (pool.step move).1.poolList.valueFor k = some item') :
    (∃ token grallocUsage needed displays, move = .alloc token grallocUsage ∧ pool.getPoolId = some k ∧
      allocated k ∈ (pool.step move).2 ∧ item' = PoolItem.create token needed k displays) ∨
    ∃ item, pool.poolList.valueFor k = some item ∧ afterMove k move item = some item' := by
  by_cases hmove : ∃ token usage, move = .alloc token usage
  · obtain ⟨token, usage, rfl⟩ := hmove
    rcases alloc_cases pool token usage with ⟨hlist, -⟩ | ⟨id, needed, displays, hget, -, -, hlist, hout⟩
    · rw [step, hlist] at h
      exact .inr ⟨item', h, rfl⟩
    · rw [step, hlist, KeyedVector.valueFor_add] at h
      split_ifs at h with hk
      · subst hk
        refine .inl ⟨token, usage, needed, displays, rfl, hget, ?_, (some.inj h).symm⟩
        rw [step, hout]
        simp
      · exact .inr ⟨item', h, rfl⟩
  · have hnot : ∀ token usage, move ≠ .alloc token usage := fun token usage heq => hmove ⟨token, usage, heq⟩
    rw [(step_treats hnamed hnot k).1] at h
    exact .inr (bind_eq_some_iff.mp h)

theorem removed_of_mem_step (hnamed : pool.Named) {k : UInt32} (h : removed k ∈ (pool.step move).2) :
    (pool.step move).1.poolList.valueFor k = none ∧
      ∃ item, pool.poolList.valueFor k = some item ∧ afterMove k move item = none := by
  by_cases hmove : ∃ token usage, move = .alloc token usage
  · obtain ⟨token, usage, rfl⟩ := hmove
    rw [step] at h
    rcases alloc_cases pool token usage with ⟨-, -, ⟨hout, -⟩ | ⟨hout, -⟩⟩ | ⟨id, needed, displays, -, -, -, -, hout⟩
    · rw [hout] at h
      exact absurd h (by simp)
    · rw [hout] at h
      exact absurd h (by simp)
    · rw [hout] at h
      simp only [createIndices] at h
      split_ifs at h <;> simp at h
  · obtain ⟨hval, hrem⟩ := step_treats hnamed (fun token usage heq => hmove ⟨token, usage, heq⟩) k
    obtain ⟨item, hitem, hdropped⟩ := hrem.mp h
    exact ⟨by rw [hval, hitem, bind_some, hdropped], item, hitem, hdropped⟩

/-- A property of all items survives a step if the moves and `alloc` keep it. -/
theorem forall_items_step {P : PoolItem → Prop} (hnamed : pool.Named)
    (hcreate : ∀ token needed id displays, P (create token needed id displays))
    (hafter : ∀ k move item item', P item → afterMove k move item = some item' → P item')
    (h : ∀ k item, pool.poolList.valueFor k = some item → P item) (move : PoolMove) :
    ∀ k item, (pool.step move).1.poolList.valueFor k = some item → P item := by
  intro k item' hitem'
  rcases item_after_step hnamed hitem' with ⟨token, grallocUsage, needed, displays, -, -, -, rfl⟩ | ⟨item, hitem, hmoved⟩
  · exact hcreate token needed k displays
  · exact hafter k move item item' (h k item hitem) hmoved

/-! ## What a step shows -/

/-- The usage and the display type a call names in its log lines. -/
def named : PoolMove → Option (UInt32 × UInt32)
  | .acquire _ _ usage type _ | .request _ usage type | .release _ _ usage type _ | .disconnect _ _ usage type =>
    some (usage, type)
  | _ => none

/-- What a move can show. -/
inductive Shows (pool : GuiExtPool) : PoolMove → Effect → Prop
  | returned (move : PoolMove) (status : Status) : Shows pool move (.returned status)
  | removed (move : PoolMove) (k : UInt32) : Shows pool move (.removed k)
  | flag (move : PoolMove) {i : Nat} (hi : i < usageMax) : Shows pool move (.index .isDisconnected (UInt32.ofNat i))
  | usageName {move : PoolMove} {usage type : UInt32} (h : named move = some (usage, type)) :
      Shows pool move (.index .usageName usage)
  | displayType {move : PoolMove} {usage type : UInt32} (h : named move = some (usage, type)) :
      Shows pool move (.index .displayType type)
  | created (token : Binder) (grallocUsage : UInt32) {e : Effect}
      (h : e = .index .usageName usageHwc ∨ e = .index .acquiredFormat usageHwc) :
      Shows pool (.alloc token grallocUsage) e
  | allocated (token : Binder) (grallocUsage : UInt32) {id : UInt32} (h : pool.getPoolId = some id) :
      Shows pool (.alloc token grallocUsage) (.allocated id)
  | looping (token : Binder) (grallocUsage : UInt32) (hroom : pool.poolList.size < maxAllocSize)
      (h : pool.getPoolId = none) : Shows pool (.alloc token grallocUsage) .looping
  | acquired (token : Binder) (poolId type : UInt32) (a : Dequeued) {e : Effect}
      (h : e = .index .acquiredFormat usageHwc ∨ e = .index .isDisconnected usageHwc) :
      Shows pool (.acquire token poolId usageHwc type a) e
  | disconnected (who : Binder) (poolId usage type : UInt32) :
      Shows pool (.disconnect who poolId usage type) (.index .isDisconnected usage)
  | counted (who : Binder) {poolId : UInt32} {item : PoolItem} {x : UInt32 × ConsumerSlot}
      (hitem : pool.poolList.valueFor poolId = some item) (hx : x ∈ (item.consumerDied who).consumerList.items) :
      Shows pool (.consumerDied who poolId) (.index .isDisconnected x.2.usage)

theorem Shows.append_returned {pool : GuiExtPool} {out : List Effect} {status : Status} (hout : ∀ e ∈ out, Shows pool move e)
    (h : e ∈ out ++ [.returned status]) : Shows pool move e := by
  rcases mem_append.mp h with h | h
  · exact hout e h
  · rw [mem_singleton.mp h]
    exact .returned _ _

theorem mem_logged {pool : GuiExtPool} {usage type : UInt32} (hmove : named move = some (usage, type))
    (h : e ∈ logged usage type) : Shows pool move e := by
  rcases mem_cons.mp h with rfl | h
  · exact .usageName hmove
  · rw [mem_singleton.mp h]
    exact .displayType hmove

theorem mem_removePoolItemLocked {p : GuiExtPool} (pool : GuiExtPool) (move : PoolMove) {poolId : UInt32}
    (h : e ∈ (p.removePoolItemLocked poolId).2) : Shows pool move e := by
  have hflag : ∀ n, e ∈ ((List.range usageMax).take n).map (fun i => index .isDisconnected (UInt32.ofNat i)) →
      Shows pool move e := by
    intro n hmem
    obtain ⟨i, hi, rfl⟩ := List.mem_map.mp hmem
    exact .flag move (mem_range.mp (mem_of_mem_take hi))
  unfold removePoolItemLocked at h
  split at h
  · cases h
  · dsimp only at h
    split_ifs at h
    · exact hflag _ h
    · rcases mem_append.mp h with h | h
      · exact hflag _ h
      · rw [mem_singleton.mp h]
        exact .removed move poolId
    · exact hflag _ h

theorem mem_producerDiedFrom {p : GuiExtPool} (pool : GuiExtPool) (move : PoolMove) {who : Binder} {i : Nat}
    (h : e ∈ (p.producerDiedFrom who i).2) : Shows pool move e := by
  induction i generalizing p with
  | zero => cases h
  | succ i ih =>
    rw [producerDiedFrom] at h
    split at h
    · split_ifs at h
      · rcases mem_append.mp h with h | h
        · exact mem_removePoolItemLocked pool move h
        · exact ih h
      · exact ih h
    · exact ih h

theorem mem_acquire {token : Binder} {usage type : UInt32} {a : Dequeued} {item : PoolItem}
    (h : e ∈ (item.acquire token usage type a).2.2) :
    usage = usageHwc ∧ (e = .index .acquiredFormat usageHwc ∨ e = .index .isDisconnected usageHwc) := by
  unfold PoolItem.acquire at h
  split_ifs at h with hlacks hproducer hblock
  · cases h
  · cases h
  all_goals
    have husage : usage = usageHwc := by
      simp only [getIGraphicBufferProducer, Bool.not_eq_true', Bool.not_eq_false, Bool.and_eq_true, decide_eq_true_eq]
        at hproducer
      exact hproducer.1.1
    subst husage
    refine ⟨rfl, ?_⟩
  · exact .inl (mem_singleton.mp h)
  · dsimp only at h
    split at h
    · exact .inl (mem_singleton.mp h)
    · simpa using h

/-- **A step shows nothing else.** -/
theorem shows_of_mem_step (h : e ∈ (pool.step move).2) : Shows pool move e := by
  cases move with
  | alloc token grallocUsage =>
    rcases alloc_cases pool token grallocUsage with
      ⟨-, -, ⟨hout, -⟩ | ⟨hout, hroom, hget⟩⟩ | ⟨id, needed, displays, hget, -, -, -, hout⟩
    · rw [step, hout] at h
      rw [mem_singleton.mp h]
      exact .returned _ _
    · rw [step, hout] at h
      rw [mem_singleton.mp h]
      exact .looping token grallocUsage hroom hget
    · rw [step, hout] at h
      rcases mem_append.mp h with h | h
      · apply Shows.created
        unfold createIndices at h
        split_ifs at h
        · rcases mem_cons.mp h with rfl | h
          · exact .inl rfl
          · obtain ⟨x, -, rfl⟩ := List.mem_map.mp h
            exact .inr rfl
        · cases h
      · rcases mem_cons.mp h with rfl | h
        · exact .allocated token grallocUsage hget
        · rw [mem_singleton.mp h]
          exact .returned _ _
  | free who poolId =>
    simp only [step, free] at h
    split at h
    · exact Shows.append_returned (fun _ h => absurd h not_mem_nil) h
    · exact Shows.append_returned (fun _ => mem_removePoolItemLocked pool _) h
  | acquire token poolId usage type a =>
    simp only [step, acquire] at h
    split at h
    · exact Shows.append_returned (fun _ => mem_logged rfl) h
    · refine Shows.append_returned (fun e he => ?_) h
      rcases mem_append.mp he with he | he
      · obtain ⟨rfl, hshown⟩ := mem_acquire he
        exact .acquired token poolId type a hshown
      · exact mem_logged rfl he
  | request poolId usage type =>
    simp only [step, request] at h
    split at h <;> exact Shows.append_returned (fun _ => mem_logged rfl) h
  | release who poolId usage type buf =>
    simp only [step, release] at h
    split at h <;> exact Shows.append_returned (fun _ => mem_logged rfl) h
  | disconnect who poolId usage type =>
    simp only [step, disconnect] at h
    split at h
    · exact Shows.append_returned (fun _ => mem_logged rfl) h
    · refine Shows.append_returned (fun e he => ?_) h
      simp only [mem_append] at he
      rcases he with (he | he) | he
      · unfold PoolItem.disconnect at he
        split_ifs at he
        · cases he
        · rw [mem_singleton.mp he]
          exact .disconnected who poolId usage type
      · exact mem_removePoolItemLocked pool _ he
      · exact mem_logged rfl he
  | configDisplay type enable w height bufNum =>
    simp only [step, configDisplay] at h
    split at h
    · split at h <;> cases h
    · cases h
  | producerDied who => exact mem_producerDiedFrom pool _ h
  | consumerDied who poolId =>
    simp only [step, consumerDied] at h
    split at h
    · cases h
    · rename_i item hitem
      have hcount : e ∈ (item.consumerDied who).recountIndices → Shows pool (.consumerDied who poolId) e := by
        intro hmem
        rcases mem_append.mp hmem with hmem | hmem
        · obtain ⟨i, hi, rfl⟩ := List.mem_map.mp hmem
          exact .flag _ (mem_range.mp hi)
        · obtain ⟨x, hx, rfl⟩ := List.mem_map.mp hmem
          exact .counted who hitem (mem_filter.mp hx).1
      split_ifs at h
      · cases h
      · rcases mem_append.mp h with h | h
        · exact hcount h
        · exact mem_removePoolItemLocked pool _ h
      · exact hcount h

end GuiExtPool

end HuaweiY5.GuiExt
