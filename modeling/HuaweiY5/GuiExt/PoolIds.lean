import HuaweiY5.GuiExt.Items
import Mathlib.Data.List.Perm.Subperm

/-!
# `GuiExt.PoolIds` — the ids of the pool items

`getPoolId` goes round the numbers 0 to 9, with 10 in the place of 0, until it meets one that no item has. In every run
the items have ids between 1 and 10; so if there are fewer than ten of them the loop ends within one turn.
-/

namespace HuaweiY5.GuiExt.GuiExtPool

open Option PoolItem

variable {pool : GuiExtPool}

/-! ## The loop -/

/-- The id the loop looks at when its counter has reached `n`. -/
def roundId (n : Nat) : UInt32 := if n % 10 = 0 then 10 else UInt32.ofNat (n % 10)

theorem roundId_congr {n m : Nat} (h : n % 10 = m % 10) : roundId n = roundId m := by rw [roundId, roundId, h]

theorem toNat_roundId (n : Nat) : (roundId n).toNat = if n % 10 = 0 then 10 else n % 10 := by
  unfold roundId
  split_ifs
  · rfl
  · apply UInt32.toNat_ofNat_of_lt
    exact Nat.lt_of_lt_of_le (Nat.mod_lt n (by decide)) (by decide)

theorem toNat_count {poolId : UInt32} (h : poolId.toNat ≤ 10) : ((poolId + 1) % 10).toNat = (poolId.toNat + 1) % 10 := by
  have hadd : (poolId + 1).toNat = poolId.toNat + 1 := by
    exact Nat.mod_eq_of_lt (Nat.lt_of_le_of_lt (Nat.add_le_add_right h 1) (by decide))
  rw [UInt32.toNat_mod, hadd]
  rfl

theorem count_roundId {poolId : UInt32} (h : poolId.toNat ≤ 10) :
    (if (poolId + 1) % 10 = 0 then 10 else (poolId + 1) % 10) = roundId (poolId.toNat + 1) := by
  apply UInt32.toNat_inj.mp
  rw [toNat_roundId, ← toNat_count h]
  have hzero : (poolId + 1) % 10 = 0 ↔ ((poolId + 1) % 10).toNat = 0 := by rw [← UInt32.toNat_inj]; rfl
  simp only [hzero]
  split_ifs <;> rfl

theorem probe_eq_none {list : KeyedVector UInt32 PoolItem} {fuel : Nat} {poolId : UInt32} (hid : poolId.toNat ≤ 10)
    (h : probe list fuel poolId = none) {j : Nat} (hj : 1 ≤ j) (hj' : j ≤ fuel) :
    (list.valueFor (roundId (poolId.toNat + j))).isSome := by
  induction fuel generalizing poolId j with
  | zero => omega
  | succ fuel ih =>
    rw [probe] at h
    simp only [count_roundId hid] at h
    split at h
    · cases h
    · rename_i item hitem
      rcases Nat.lt_or_ge 1 j with hlt | hge
      · -- a later round, whose counter is the one of this round taken modulo 10
        have hcount : ((poolId + 1) % 10).toNat ≤ 10 := by
          rw [toNat_count hid]
          omega
        have hlater := ih hcount h (j := j - 1) (by omega) (by omega)
        have hround : roundId (((poolId + 1) % 10).toNat + (j - 1)) = roundId (poolId.toNat + j) := by
          apply roundId_congr
          rw [toNat_count hid]
          omega
        rwa [hround] at hlater
      · obtain rfl : j = 1 := by omega
        rw [hitem]
        rfl

/-! ## The ids that are taken -/

/-- The invariant: every item is under its own id, the ids are between 1 and 10, and so is the counter or it is 0. -/
structure Numbered (pool : GuiExtPool) : Prop where
  named : pool.Named
  ids : ∀ k, (pool.poolList.valueFor k).isSome → 1 ≤ k.toNat ∧ k.toNat ≤ 10
  counter : pool.poolId.toNat ≤ 10

def allIds : List UInt32 := [1, 2, 3, 4, 5, 6, 7, 8, 9, 10]

theorem mem_allIds {k : UInt32} (h : 1 ≤ k.toNat) (h' : k.toNat ≤ 10) : k ∈ allIds := by
  have hmap : allIds.map UInt32.toNat = [1, 2, 3, 4, 5, 6, 7, 8, 9, 10] := rfl
  have hmem : k.toNat ∈ allIds.map UInt32.toNat := by
    rw [hmap]
    simp only [List.mem_cons]
    omega
  obtain ⟨k', hk', heq⟩ := List.mem_map.mp hmem
  rwa [← UInt32.toNat_inj.mp heq]

theorem bounds_of_mem_allIds {k : UInt32} (h : k ∈ allIds) : 1 ≤ k.toNat ∧ k.toNat ≤ 10 := by
  have hall : allIds.all (fun k => decide (1 ≤ k.toNat ∧ k.toNat ≤ 10)) = true := rfl
  exact of_decide_eq_true (List.all_eq_true.mp hall k h)

theorem Numbered.size_le (h : Numbered pool) : pool.poolList.size ≤ 10 := by
  have hsub : pool.poolList.items.map Prod.fst ⊆ allIds := by
    intro k hk
    obtain ⟨hlo, hhi⟩ := h.ids k ((mem_keys_iff k).mp hk)
    exact mem_allIds hlo hhi
  have hle := (List.subperm_of_subset (KeyedVector.nodup_keys pool.poolList.ascending) hsub).length_le
  rw [List.length_map] at hle
  exact hle

/-- **With room in the list, the loop ends.** -/
theorem Numbered.getPoolId_isSome (h : Numbered pool) (hroom : pool.poolList.size < maxAllocSize) :
    ∃ id, pool.getPoolId = some id := by
  rcases hget : pool.getPoolId with _ | id
  · -- one turn meets all ten ids, so all of them are in the list
    have hsub : allIds ⊆ pool.poolList.items.map Prod.fst := by
      intro k hk
      rw [mem_keys_iff]
      have hk' : 1 ≤ k.toNat ∧ k.toNat ≤ 10 := bounds_of_mem_allIds hk
      have hmeet := probe_eq_none h.counter hget (j := (k.toNat + 20 - pool.poolId.toNat - 1) % 10 + 1) (by omega)
        (by have := Nat.mod_lt (k.toNat + 20 - pool.poolId.toNat - 1) (show 10 > 0 by decide); unfold maxAllocSize; omega)
      have hcounter := h.counter
      have hround : roundId (pool.poolId.toNat + ((k.toNat + 20 - pool.poolId.toNat - 1) % 10 + 1)) = k := by
        apply UInt32.toNat_inj.mp
        rw [toNat_roundId]
        split_ifs <;> omega
      rwa [hround] at hmeet
    have hnodup : allIds.Nodup := by decide
    have hle := (List.subperm_of_subset hnodup hsub).length_le
    rw [List.length_map] at hle
    exact absurd hroom (Nat.not_lt.mpr hle)
  · exact ⟨id, rfl⟩

theorem removePoolItemLocked_poolId (pool : GuiExtPool) (poolId : UInt32) :
    (pool.removePoolItemLocked poolId).1.poolId = pool.poolId := by
  unfold removePoolItemLocked
  split
  · rfl
  · dsimp only
    split_ifs <;> rfl

theorem producerDiedFrom_poolId (pool : GuiExtPool) (who : Binder) (i : Nat) :
    (pool.producerDiedFrom who i).1.poolId = pool.poolId := by
  induction i generalizing pool with
  | zero => rfl
  | succ i ih =>
    rw [producerDiedFrom]
    split
    · split_ifs
      · exact (ih _).trans (removePoolItemLocked_poolId _ _)
      · exact ih pool
    · exact ih pool

theorem step_poolId (pool : GuiExtPool) {move : PoolMove} (hmove : ∀ token usage, move ≠ .alloc token usage) :
    (pool.step move).1.poolId = pool.poolId := by
  cases move with
  | alloc token usage => exact absurd rfl (hmove token usage)
  | free | acquire | request | release | disconnect =>
    simp only [step, free, acquire, request, release, disconnect]
    split
    · rfl
    · first | rfl | exact removePoolItemLocked_poolId _ _
  | configDisplay type enable w height bufNum =>
    simp only [step, configDisplay]
    split
    · split <;> rfl
    · rfl
  | producerDied who => exact producerDiedFrom_poolId pool who _
  | consumerDied who poolId =>
    simp only [step, consumerDied]
    split
    · rfl
    · split_ifs
      · rfl
      · exact removePoolItemLocked_poolId _ _
      · rfl

theorem Numbered.step (h : Numbered pool) (move : PoolMove) : Numbered (pool.step move).1 := by
  by_cases hmove : ∃ token usage, move = .alloc token usage
  · obtain ⟨token, usage, rfl⟩ := hmove
    show Numbered (pool.alloc token usage).1
    rcases alloc_cases pool token usage with ⟨hlist, hid, -⟩ | ⟨id, needed, displays, hget, -, hid, hlist, -⟩
    · refine ⟨?_, ?_, hid ▸ h.counter⟩
      · rw [Named, hlist]
        exact h.named
      · rw [hlist]
        exact h.ids
    · obtain ⟨-, hlo, hhi⟩ := probe_eq_some hget
      refine ⟨fun k item hitem => ?_, fun k hk => ?_, hid ▸ hhi⟩
      · rw [hlist, KeyedVector.valueFor_add] at hitem
        split_ifs at hitem with hk
        · rw [← some.inj hitem, hk]
          rfl
        · exact h.named k item hitem
      · rw [hlist, KeyedVector.valueFor_add] at hk
        split_ifs at hk with heq
        · rw [heq]
          exact ⟨hlo, hhi⟩
        · exact h.ids k hk
  · have hnot : ∀ token usage, move ≠ .alloc token usage := fun token usage heq => hmove ⟨token, usage, heq⟩
    refine ⟨fun k item hitem => ?_, fun k hk => ?_, ?_⟩
    · rw [(step_treats h.named hnot k).1] at hitem
      obtain ⟨item', hitem', hafter⟩ := bind_eq_some_iff.mp hitem
      rw [afterMove_id hafter]
      exact h.named k item' hitem'
    · rw [(step_treats h.named hnot k).1] at hk
      apply h.ids k
      rcases hv : pool.poolList.valueFor k with _ | item
      · rw [hv] at hk
        exact hk
      · rfl
    · rw [step_poolId pool hnot]
      exact h.counter

theorem Numbered.init : Numbered GuiExtPool.init :=
  ⟨fun _ _ hitem => absurd hitem.symm (some_ne_none _), fun _ hk => absurd hk Bool.false_ne_true, by decide⟩

theorem numbered_run {tr : List (Transducer.Entry GuiExtPool PoolMove Effect)} (h : machine.Run tr pool) : Numbered pool :=
  h.invariant (M := machine) (I := Numbered) Numbered.init fun _ move hs _ => hs.step move

/-! ## Every run -/

/-- What holds of the ids when the pool is `pool`: there are at most ten items; if there is room for one, `getPoolId`
    ends within ten rounds with an id between 1 and 10 that no item has; and an `alloc` leaves every item as it is. -/
def IdsFresh (pool : GuiExtPool) : Prop :=
  pool.poolList.size ≤ 10 ∧
    (pool.poolList.size < maxAllocSize →
      ∃ id, pool.getPoolId = some id ∧ 1 ≤ id.toNat ∧ id.toNat ≤ 10 ∧ pool.poolList.valueFor id = none) ∧
    ∀ token grallocUsage k item, pool.poolList.valueFor k = some item →
      (pool.alloc token grallocUsage).1.poolList.valueFor k = some item

/-- What an entry of a history shows of them: the loop has ended, and the id that was given was free. -/
def AllocFresh (x : Transducer.Entry GuiExtPool PoolMove Effect) : Prop :=
  Effect.looping ∉ x.out ∧
    ∀ id, Effect.allocated id ∈ x.out → 1 ≤ id.toNat ∧ id.toNat ≤ 10 ∧ x.pre.poolList.valueFor id = none

theorem alloc_keeps (pool : GuiExtPool) (token : Binder) (grallocUsage : UInt32) {k : UInt32} {item : PoolItem}
    (h : pool.poolList.valueFor k = some item) :
    (pool.alloc token grallocUsage).1.poolList.valueFor k = some item := by
  rcases alloc_cases pool token grallocUsage with ⟨hlist, -⟩ | ⟨id, needed, displays, hget, -, -, hlist, -⟩
  · rw [hlist]
    exact h
  · have hfree : pool.poolList.valueFor id = none := (probe_eq_some hget).1
    rw [hlist, KeyedVector.valueFor_add, if_neg ?_]
    · exact h
    · rintro rfl
      cases h.symm.trans hfree

theorem valueFor_step_of_afterMove (hnamed : pool.Named) {move : PoolMove} {k : UInt32} {item item' : PoolItem}
    (hitem : pool.poolList.valueFor k = some item) (hafter : afterMove k move item = some item') :
    (pool.step move).1.poolList.valueFor k = some item' := by
  by_cases hmove : ∃ token usage, move = .alloc token usage
  · obtain ⟨token, usage, rfl⟩ := hmove
    rw [← some.inj hafter]
    exact alloc_keeps pool token usage hitem
  · rw [(step_treats hnamed (fun token usage heq => hmove ⟨token, usage, heq⟩) k).1, hitem]
    exact hafter

theorem Numbered.idsFresh (h : Numbered pool) : IdsFresh pool := by
  refine ⟨h.size_le, fun hroom => ?_, fun token grallocUsage k item hitem => alloc_keeps pool token grallocUsage hitem⟩
  obtain ⟨id, hget⟩ := h.getPoolId_isSome hroom
  obtain ⟨hfree, hlo, hhi⟩ := probe_eq_some hget
  exact ⟨id, hget, hlo, hhi, hfree⟩

theorem Numbered.allocFresh (h : Numbered pool) (move : PoolMove) : AllocFresh (machine.entry pool move) := by
  refine ⟨fun hloop => ?_, fun id hid => ?_⟩
  · cases shows_of_mem_step hloop with
    | created _ _ he | acquired _ _ _ _ he => rcases he with he | he <;> exact absurd he (by simp)
    | looping token grallocUsage hroom hnone =>
      -- with room in the list the loop ends
      obtain ⟨id, hget⟩ := h.getPoolId_isSome hroom
      cases hget.symm.trans hnone
  · cases shows_of_mem_step hid with
    | created _ _ he | acquired _ _ _ _ he => rcases he with he | he <;> exact absurd he (by simp)
    | allocated token grallocUsage hget =>
      obtain ⟨hfree, hlo, hhi⟩ := probe_eq_some hget
      exact ⟨hlo, hhi, hfree⟩

/-- **The ids of pool items are fresh.** In every run of calls and death notifications, with any answers of the buffer
    queues, `getPoolId` ends whenever `alloc` calls it and gives an id between 1 and 10 that no item has; so an `alloc`
    never replaces an item, and there are never more than ten. -/
theorem pool_ids_fresh {tr : List (Transducer.Entry GuiExtPool PoolMove Effect)} (h : machine.Run tr pool) :
    IdsFresh pool ∧ ∀ x ∈ tr, AllocFresh x := by
  refine ⟨(numbered_run h).idsFresh, fun x hx => ?_⟩
  obtain ⟨⟨tr', hrun⟩, -, hout⟩ := h.mem hx
  have hfresh := (numbered_run hrun).allocFresh x.event
  rwa [show x = machine.entry x.pre x.event from by rw [Transducer.entry, ← hout]]

/-- Two producers and a consumer, and another producer when they are gone. -/
theorem pool_ids_fresh_later :
    let r := machine.exec [.alloc 1 0x800, .alloc 2 0, .acquire 3 1 1 0 ⟨false, 0⟩, .free 2 2, .producerDied 1,
      .consumerDied 3 1, .alloc 4 0x800]
    r.2.poolList.items.map Prod.fst = [3] ∧ IdsFresh r.2 ∧ ∀ x ∈ r.1, AllocFresh x :=
  ⟨by decide +kernel, pool_ids_fresh (machine.run_exec (.of_forall (fun _ _ => trivial) _ _))⟩

end HuaweiY5.GuiExt.GuiExtPool
