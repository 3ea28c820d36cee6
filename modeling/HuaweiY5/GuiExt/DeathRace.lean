import HuaweiY5.GuiExt.Accesses

/-!
# `GuiExt.DeathRace` — a death notification beside a call

The observers go through the lists without the lock, so a call on another thread can change them under their feet. What
a call does not change is safe: the slots and flags of an item are not looked at by the observer of a producer, and the
other items and new ones not by the observer of a consumer. In these cases every index is in range and the two are as
good as one after the other.
-/

namespace HuaweiY5.GuiExt

open Option Critical GuiExtPool PoolItem
open KeyedVector (removeItem_comm size_modify valueFor_removeItem)

def Call.item : Call → Option UInt32
  | .alloc _ _ => none
  | .free poolId | .acquire _ poolId _ _ _ | .release poolId _ _ _ | .disconnect poolId _ _ => some poolId

/-- The call changes the slots and flags of an item only. -/
def Call.slotsOnly : Call → Bool
  | .acquire _ _ _ _ _ | .release _ _ _ _ => true
  | _ => false

/-- The call changes nothing that the observer looks at: the producers and the list, or the item of the consumer. -/
def Harmless (call : Call) : Death → Prop
  | .producer _ => call.slotsOnly = true
  | .consumer _ k => call.item ≠ some k

instance instDecidableHarmless (call : Call) : (death : Death) → Decidable (Harmless call death)
  | .producer _ => inferInstanceAs (Decidable (_ = _))
  | .consumer _ _ => inferInstanceAs (Decidable (_ ≠ _))

/-- The observer of a consumer belongs to an item of the pool. -/
def Death.Live (pool : GuiExtPool) : Death → Prop
  | .producer _ => True
  | .consumer _ k => pool.alive k = true

/-- In every run of the two threads no index is past the end of its list, and the pool ends up as after one of the two
    orders. -/
def Atomic (death : Death) (call : Call) (pool : GuiExtPool) : Prop :=
  ∀ ts c, (beside death.prog call.body pool).run ts = some c →
    ¬c.Wrong ∧ (c.Finished → c.mem = death.alone (call.alone pool) ∨ c.mem = call.alone (death.alone pool))

/-! ## The observer of a producer -/

/-- A change of the slots and the flags of an item. -/
structure SlotsOnly (F : PoolItem → PoolItem) : Prop where
  id : ∀ item, (F item).id = item.id
  token : ∀ item, (F item).producerToken = item.producerToken
  orphan : ∀ item, F item.orphan = (F item).orphan

section Producer

variable {k : UInt32} {F : PoolItem → PoolItem} {pool : GuiExtPool}

variable (who : Binder) (i : Nat)

theorem inPool_onItem : inPool i (onItem k F pool) = inPool i pool := by
  simp [inPool, onItem]

theorem producerAt_onItem (hF : SlotsOnly F) (i : Nat) : producerAt i (onItem k F pool) = producerAt i pool := by
  simp only [producerAt, getElem?_onItem]
  rcases pool.poolList.items[i]? with _ | x
  · rfl
  · simp only [map_some]
    split_ifs
    · exact hF.token x.2
    · rfl

theorem idAt_onItem (hF : SlotsOnly F) (i : Nat) : idAt i (onItem k F pool) = idAt i pool := by
  simp only [idAt, getElem?_onItem]
  rcases pool.poolList.items[i]? with _ | x
  · rfl
  · simp only [map_some]
    split_ifs
    · exact hF.id x.2
    · rfl

theorem onItem_comm {j : UInt32} (h : j ≠ k) (G : PoolItem → PoolItem) :
    onItem j G (onItem k F pool) = onItem k F (onItem j G pool) := by
  simp [onItem, KeyedVector.modify_comm h.symm]

theorem orphanAt_onItem (hF : SlotsOnly F) (i : Nat) : orphanAt i (onItem k F pool) = onItem k F (orphanAt i pool) := by
  rcases hx : pool.poolList.items[i]? with _ | x
  · simp [orphanAt, getElem?_onItem, hx]
  · have hkey : (onItem k F pool).poolList.items[i]? = some (x.1, if x.1 = k then F x.2 else x.2) := by
      rw [getElem?_onItem, hx, map_some]
      split <;> rfl
    simp only [orphanAt, hkey, hx]
    by_cases hk : x.1 = k
    · rw [hk, onItem_comp, onItem_comp]
      exact congrArg (onItem k · pool) (funext fun item => (hF.orphan item).symm)
    · exact onItem_comm hk orphan

theorem valueFor_orphanAt :
    (orphanAt i pool).poolList.valueFor k = pool.poolList.valueFor k ∨
      (orphanAt i pool).poolList.valueFor k = (pool.poolList.valueFor k).map orphan := by
  unfold orphanAt
  split
  · rw [valueFor_onItem]
    split_ifs
    · exact .inr rfl
    · exact .inl rfl
  · exact .inl rfl

/-- An access that does not look at slots and flags and clears producers only. -/
structure Unslotted (ok : GuiExtPool → Bool) (f : GuiExtPool → GuiExtPool) (next : GuiExtPool → Prog GuiExtPool) : Prop where
  guard : ∀ {k F pool}, SlotsOnly F → ok (onItem k F pool) = ok pool
  write : ∀ {k F pool}, SlotsOnly F → f (onItem k F pool) = onItem k F (f pool)
  read : ∀ {k F pool}, SlotsOnly F → next (onItem k F pool) = next pool
  clears : ∀ {k} pool, (f pool).poolList.valueFor k = pool.poolList.valueFor k ∨
    (f pool).poolList.valueFor k = (pool.poolList.valueFor k).map orphan

def Removes (b : Body GuiExtPool) (_ : Prog GuiExtPool) : Prop := ∃ j, b = removal j

theorem Unslotted.look {next : GuiExtPool → Prog GuiExtPool}
    (h : ∀ {k F pool}, SlotsOnly F → next (onItem k F pool) = next pool) : Unslotted (inPool i) id next where
  guard := fun _ => inPool_onItem i
  write := fun _ => rfl
  read := h
  clears := fun _ => .inl rfl

theorem producerLoop_each : (producerLoop who i).Each (fun _ => True) Unslotted Removes := by
  induction i with
  | zero => trivial
  | succ i ih =>
    refine ⟨.look i fun hF => ?_, fun pool _ => ?_⟩
    · simp [producerAt_onItem hF]
    · dsimp only
      split_ifs
      · refine ⟨.look i fun _ => rfl, fun _ _ => ?_⟩
        refine ⟨⟨fun _ => inPool_onItem i, fun hF => orphanAt_onItem hF i, fun _ => rfl, fun _ => valueFor_orphanAt i⟩,
          fun _ _ => ?_⟩
        refine ⟨.look i fun _ => rfl, fun _ _ => ?_⟩
        refine ⟨.look i fun hF => ?_, fun pool _ => ⟨⟨_, rfl⟩, ih⟩⟩
        simp [idAt_onItem hF]
      · exact ih

theorem producer_each : (Death.producer who).prog.Each (fun _ => True) Unslotted Removes := by
  refine ⟨⟨fun _ => rfl, fun _ => rfl, fun _ => ?_, fun _ => .inl rfl⟩, fun pool _ => producerLoop_each who _⟩
  simp [onItem]

/-! ### Its safety -/

theorem size_orphanAt : (orphanAt i pool).poolList.size = pool.poolList.size := by
  unfold orphanAt
  split
  · exact size_modify _ _ _
  · rfl

theorem size_le_removal (pool : GuiExtPool) (j : UInt32) :
    pool.poolList.size ≤ ((removal j).exec pool).poolList.size + 1 := by
  rw [exec_removal]
  unfold GuiExtPool.removePoolItemLocked
  split
  · exact Nat.le_succ _
  · dsimp only
    split_ifs
    · exact Nat.le_succ _
    · exact KeyedVector.size_le_removeItem _ _
    · exact Nat.le_succ _

theorem producerLoop_safe (hi : i ≤ pool.poolList.size) : Safe (producerLoop who i) pool := by
  induction i generalizing pool with
  | zero => exact safe_done pool
  | succ i ih =>
    have hin : inPool i pool = true := decide_eq_true hi
    apply Safe.access hin
    split_ifs
    · have hin' : inPool i (orphanAt i pool) = true := decide_eq_true (by rw [size_orphanAt]; exact hi)
      apply Safe.access hin
      apply Safe.access hin
      apply Safe.access hin'
      apply Safe.access hin'
      apply Safe.locked
      apply ih
      have hsize := size_le_removal (orphanAt i pool) (idAt i (orphanAt i pool))
      rw [size_orphanAt] at hsize
      exact Nat.le_of_succ_le_succ (Nat.le_trans hi hsize)
    · exact ih (Nat.le_of_succ_le hi)

theorem producer_safe : Safe (Death.producer who).prog pool :=
  Safe.access rfl (producerLoop_safe who _ (Nat.le_refl _))

/-! ### A call moved over it -/

/-- What a call does to an item: it changes slots and flags, and does not make it abandoned. -/
structure Gentle (F : PoolItem → PoolItem) : Prop extends SlotsOnly F where
  kept : ∀ item, ¬item.Abandoned → ¬(F item).Abandoned

theorem removal_comm (hF : Gentle F) (k j : UInt32) (pool : GuiExtPool) :
    (removal j).exec (onItem k F pool) = onItem k F ((removal j).exec pool) ∨
      ((removal j).exec pool).poolList.valueFor k = none := by
  rw [exec_removal, exec_removal]
  by_cases hgone : ∃ item, pool.poolList.valueFor j = some item ∧ item.Abandoned
  · obtain ⟨item, hitem, habandoned⟩ := hgone
    rw [removePoolItemLocked_drops pool j hitem habandoned]
    by_cases hj : j = k
    · right
      rw [hj]
      show (pool.poolList.removeItem k).valueFor k = none
      rw [valueFor_removeItem, if_pos rfl]
    · left
      have hitem' : (onItem k F pool).poolList.valueFor j = some item := by rw [valueFor_onItem, if_neg hj, hitem]
      rw [removePoolItemLocked_drops _ j hitem' habandoned]
      simp [dropItem, onItem, removeItem_comm (Ne.symm hj)]
  · left
    have hkept : ∀ item, pool.poolList.valueFor j = some item → ¬item.Abandoned :=
      fun item hitem habandoned => hgone ⟨item, hitem, habandoned⟩
    have hkept' : ∀ item, (onItem k F pool).poolList.valueFor j = some item → ¬item.Abandoned := by
      intro item hitem
      rw [valueFor_onItem] at hitem
      split_ifs at hitem
      · obtain ⟨item₀, hitem₀, rfl⟩ := map_eq_some_iff.mp hitem
        exact hF.kept item₀ (hkept item₀ hitem₀)
      · exact hkept item hitem
    rw [removePoolItemLocked_keeps pool j hkept, removePoolItemLocked_keeps _ j hkept']

/-- Every point of a program is a point of its run after the call, unless the item is gone there. -/
def Replays (k : UInt32) (F : PoolItem → PoolItem) (p : Prog GuiExtPool) (pool : GuiExtPool) : Prop :=
  ∀ p' pool', Reaches p pool p' pool' →
    Reaches p (onItem k F pool) p' (onItem k F pool') ∨ pool'.poolList.valueFor k = none

theorem absent_of_clears {f : GuiExtPool → GuiExtPool}
    (h : (f pool).poolList.valueFor k = pool.poolList.valueFor k ∨
      (f pool).poolList.valueFor k = (pool.poolList.valueFor k).map orphan)
    (habsent : pool.poolList.valueFor k = none) : (f pool).poolList.valueFor k = none := by
  rcases h with heq | heq
  · rw [heq, habsent]
  · rw [heq, habsent]
    rfl

theorem absent_of_removal {b : Body GuiExtPool} {rest : Prog GuiExtPool} (h : Removes b rest)
    (habsent : pool.poolList.valueFor k = none) : (b.exec pool).poolList.valueFor k = none := by
  obtain ⟨j, rfl⟩ := h
  rw [exec_removal, removePoolItemLocked_valueFor, habsent]
  exact ite_self _

variable {pool' : GuiExtPool} {body : Body GuiExtPool}

theorem absent_of_reaches {p p' : Prog GuiExtPool} (hp : p.Each (fun _ => True) Unslotted Removes)
    (hr : Reaches p pool p' pool') (habsent : pool.poolList.valueFor k = none) : pool'.poolList.valueFor k = none :=
  hr.keeps (J := fun pool => pool.poolList.valueFor k = none) (fun _ => trivial)
    (fun hP => absent_of_clears (hP.clears _)) (fun hR => absent_of_removal hR) hp habsent

/-- **The observer of a producer can be replayed.** -/
theorem replays_of_each (hF : Gentle F) {p : Prog GuiExtPool} (hp : p.Each (fun _ => True) Unslotted Removes) :
    Replays k F p pool := by
  intro p' pool' hr
  induction hr with
  | refl => exact .inl (.refl _ _)
  | @access ok f next pool pool' p' hr ih =>
    rcases ih (hp.2 pool trivial) with hreplay | habsent
    · left
      apply Reaches.access
      rw [hp.1.write hF.toSlotsOnly, hp.1.read hF.toSlotsOnly]
      exact hreplay
    · exact .inr habsent
  | @locked b next pool pool' p' hr ih =>
    obtain ⟨j, rfl⟩ := hp.1
    rcases removal_comm hF k j pool with hcomm | hgone
    · rcases ih hp.2 with hreplay | habsent
      · left
        apply Reaches.locked
        rw [hcomm]
        exact hreplay
      · exact .inr habsent
    · exact .inr (absent_of_reaches hp.2 hr hgone)

theorem producer_movable (hF : Gentle F) (hbody : ∀ pool, body.exec pool = onItem k F pool) (who : Binder) :
    Movable (Death.producer who).prog body pool := by
  intro p' pool' hr
  rw [hbody, hbody, hbody]
  rcases replays_of_each hF (producer_each who) p' pool' hr with hreplay | habsent
  · exact .inl hreplay
  · -- the call finds no item, here and at the end
    have hend : ((Death.producer who).prog.exec pool).poolList.valueFor k = none := by
      rw [← hr.exec_eq]
      exact absent_of_reaches (hr.each (fun _ => trivial) (producer_each who)) (reaches_exec p' pool') habsent
    rw [onItem_of_none _ k habsent, onItem_of_none _ k hend]
    exact .inr ⟨(producer_safe who).of_reaches hr, hr.exec_eq⟩

/-! ### The calls beside it -/

/-- The two pools have the same item `k`, up to its producer. -/
def Alike (k : UInt32) (pool' pool : GuiExtPool) : Prop :=
  pool'.poolList.valueFor k = pool.poolList.valueFor k ∨
    pool'.poolList.valueFor k = (pool.poolList.valueFor k).map orphan

/-- An access to the slots and flags of the item `k`, which does not look at its producer. -/
structure Slotted (k : UInt32) (g : GuiExtPool → GuiExtPool) (next : GuiExtPool → Body GuiExtPool) : Prop where
  write : (∀ pool, g pool = pool) ∨ ∃ F, SlotsOnly F ∧ g = onItem k F
  read : ∀ {pool' pool}, Alike k pool' pool → next pool' = next pool

theorem Slotted.ofWrite (hF : SlotsOnly F) (b : Body GuiExtPool) : Slotted k (onItem k F) fun _ => b :=
  ⟨.inr ⟨F, hF, rfl⟩, fun _ => rfl⟩

theorem Slotted.ofRead {next : GuiExtPool → Body GuiExtPool}
    (h : ∀ {pool' pool}, Alike k pool' pool → next pool' = next pool) : Slotted k (fun pool => pool) next :=
  ⟨.inl fun _ => rfl, h⟩

theorem Alike.alive (h : Alike k pool' pool) : pool'.alive k = pool.alive k := by
  rcases h with heq | heq
  · rw [GuiExtPool.alive, heq, GuiExtPool.alive]
  · rw [GuiExtPool.alive, heq, isSome_map, GuiExtPool.alive]

theorem Alike.serves (h : Alike k pool' pool) (usage type : UInt32) :
    (pool'.poolList.valueFor k).any (PoolItem.serves usage type) =
      (pool.poolList.valueFor k).any (PoolItem.serves usage type) := by
  rcases h with heq | heq
  · rw [heq]
  · rw [heq, any_map]
    rfl

theorem Alike.slotOf (h : Alike k pool' pool) (key : UInt32) :
    GuiExt.slotOf k key pool' = GuiExt.slotOf k key pool := by
  rcases h with heq | heq
  · rw [GuiExt.slotOf, heq, GuiExt.slotOf]
  · rw [GuiExt.slotOf, heq, bind_map]
    rfl

theorem slotsOnly_onSlot (key : UInt32) (G : ConsumerSlot → ConsumerSlot) : SlotsOnly (onSlot key G) :=
  ⟨fun _ => rfl, fun _ => rfl, fun _ => rfl⟩

theorem slotsOnly_setFlag (usage : Nat) (value : Bool) : SlotsOnly (setFlag usage value) :=
  ⟨fun _ => rfl, fun _ => rfl, fun _ => rfl⟩

variable (usage type buf : UInt32) (token : Binder)

theorem slotsOnly_grant (usage type : UInt32) (a : Dequeued) : SlotsOnly (grant token usage type a) :=
  ⟨fun _ => rfl, fun _ => rfl, fun _ => rfl⟩

theorem releaseItem_each : (releaseItem k usage type buf).Each (fun _ => True) (Slotted k) := by
  refine .branch (.ofRead fun h => ?_) (.branch (.ofRead fun h => ?_) ?_ trivial) trivial
  · simp [h.serves]
  · simp [h.slotOf]
  · exact ⟨.ofWrite (slotsOnly_onSlot _ _) _, fun _ _ => ⟨.ofWrite (slotsOnly_onSlot _ _) _, fun _ _ => trivial⟩⟩

theorem acquireItem_each (usage type : UInt32) (a : Dequeued) :
    (acquireItem token k usage type a).Each (fun _ => True) (Slotted k) := by
  have hflag : Body.Each (fun _ => True) (Slotted k) (.access (onItem k (setFlag usage.toNat false)) fun _ => .done) :=
    ⟨.ofWrite (slotsOnly_setFlag _ _) _, fun _ _ => trivial⟩
  refine .branch (.ofRead fun h => ?_) (.branch (.ofRead fun h => ?_) (.branch (.ofRead fun h => ?_) ?_ hflag) trivial)
    trivial
  · simp [h.serves]
  · simp [h.slotOf]
  · simp [h.slotOf]
  · exact ⟨.ofWrite (slotsOnly_grant _ _ _ _) _, fun _ _ => hflag⟩

theorem producer_independent (who : Binder) (hbody : body.Each (fun _ => True) (Slotted k)) :
    Independent (fun _ => True) Unslotted Removes (Slotted k) (Death.producer who).prog body pool where
  start := trivial
  outside := producer_each who
  inside := hbody
  keepL := fun _ _ => trivial
  keepR := fun _ _ => trivial
  keepS := fun _ => .inr fun _ _ => trivial
  comm := by
    intro ok f next g h w hP hQ _
    have hsame : h (f w) = h w := hQ.read (hP.clears w)
    rcases hQ.write with hid | ⟨F, hF, rfl⟩
    · rw [hid, hid]
      exact ⟨rfl, rfl, rfl, hsame⟩
    · exact ⟨hP.guard hF, hP.write hF, hP.read hF, hsame⟩

theorem acquire_orphan (usage type : UInt32) (a : Dequeued) (item : PoolItem) :
    (item.orphan.acquire token usage type a).1 = (item.acquire token usage type a).1.orphan := by
  rcases hgranted : item.serves usage type && !(a.wouldBlock || decide (a.buf < 0))
  · rw [acquire_of_refused hgranted]
    exact acquire_of_refused hgranted
  · have horphan : (item.orphan.serves usage type && !(a.wouldBlock || decide (a.buf < 0))) = true := hgranted
    rw [acquire_of_granted token hgranted, acquire_of_granted token horphan]
    rw [show item.orphan.consumerList = item.consumerList from rfl]
    rcases item.consumerList.valueFor (poolCombinedId usage type a.buf.toUInt32) with _ | slot
    · rfl
    · dsimp only
      split_ifs <;> rfl

theorem release_orphan (item : PoolItem) :
    (item.orphan.release usage type buf).1 = (item.release usage type buf).1.orphan := by
  rcases hserves : item.serves usage type
  · rw [release_of_not_serves hserves]
    exact release_of_not_serves hserves
  · rw [release_of_serves hserves]
    exact release_of_serves hserves

theorem gentle_acquire (usage type : UInt32) (a : Dequeued) :
    Gentle fun item => (item.acquire token usage type a).1 where
  id := fun item => acquire_id token usage type a item
  token := by
    intro item
    rcases acquire_cases token usage type a item with ⟨heq, -⟩ | ⟨-, -, -, slot, -, heq⟩ <;> rw [heq]
  orphan := fun item => acquire_orphan token usage type a item
  kept := by
    intro item hkept
    rcases acquire_cases token usage type a item with ⟨heq, -⟩ | ⟨rfl, -, -, slot, -, heq⟩
    · rw [heq]
      exact hkept
    · -- the usage is connected now
      rw [heq, abandoned_iff]
      rintro ⟨-, hidle, -⟩
      have hflag : (item.isDisconnected.setIfInBounds 1 false)[1] = true := hidle
      exact absurd hflag (by simp)

theorem gentle_release : Gentle fun item => (item.release usage type buf).1 where
  id := fun item => release_id usage type buf item
  token := by
    intro item
    rcases release_cases usage type buf item with ⟨heq, -⟩ | ⟨-, -, heq⟩ <;> rw [heq]
  orphan := fun item => release_orphan usage type buf item
  kept := by
    intro item hkept
    rcases release_cases usage type buf item with ⟨heq, -⟩ | ⟨-, -, heq⟩
    · rw [heq]
      exact hkept
    · rw [heq]
      exact hkept

theorem exec_lookup (hbody : ∀ pool, body.exec pool = onItem k F pool) (pool : GuiExtPool) :
    (Body.access (fun pool => pool) fun pool => if pool.alive k then body else .done).exec pool = onItem k F pool := by
  refine (exec_ifAlive pool k body).trans ?_
  split_ifs with halive
  · exact hbody pool
  · exact (onItem_of_none pool k (not_isSome_iff_eq_none.mp halive)).symm

theorem lookup_each (hbody : body.Each (fun _ => True) (Slotted k)) :
    (Body.access (fun pool => pool) fun pool => if pool.alive k then body else .done).Each (fun _ => True) (Slotted k) := by
  refine .branch (.ofRead fun h => ?_) hbody trivial
  simp [h.alive]

/-- **The observer of a producer beside a call on slots.** -/
theorem producer_atomic (who : Binder) {call : Call} (hcall : call.slotsOnly = true) :
    Atomic (.producer who) call pool := by
  have hserial : ∀ (k : UInt32) (F : PoolItem → PoolItem) (body : Body GuiExtPool), Gentle F →
      body.Each (fun _ => True) (Slotted k) → (∀ pool, body.exec pool = onItem k F pool) →
      call.body = Body.access (fun pool => pool) (fun pool => if pool.alive k then body else .done) →
      Atomic (.producer who) call pool := by
    intro k F body hF heach hexec hcall ts c hrun
    rw [← Call.exec_body, ← Death.exec_prog, ← Death.exec_prog, ← Call.exec_body]
    rw [hcall] at hrun ⊢
    exact (producer_independent who (lookup_each heach)).serial
      (producer_movable hF (exec_lookup hexec) who) (producer_safe who) (producer_safe who) hrun
  cases call with
  | alloc | free | disconnect => exact absurd hcall (by simp [Call.slotsOnly])
  | acquire token k usage type a =>
    exact hserial k _ _ (gentle_acquire token usage type a) (acquireItem_each token usage type a)
      (fun pool => exec_acquireItem pool k token usage type a) rfl
  | release k usage type buf =>
    exact hserial k _ _ (gentle_release usage type buf) (releaseItem_each usage type buf)
      (fun pool => exec_releaseItem pool k usage type buf) rfl

end Producer

/-! ## The observer of a consumer -/

section Consumer

variable {k : UInt32} {n : Nat}

/-- The item `k` is there, with `n` slots. -/
def HasSlots (k : UInt32) (n : Nat) (pool : GuiExtPool) : Prop :=
  ∃ item, pool.poolList.valueFor k = some item ∧ item.consumerList.size = n

variable {pool : GuiExtPool} {f : GuiExtPool → GuiExtPool}

theorem HasSlots.alive (h : HasSlots k n pool) : pool.alive k = true := by
  obtain ⟨item, hitem, -⟩ := h
  rw [GuiExtPool.alive, hitem]
  rfl

theorem HasSlots.inSlotsOf (h : HasSlots k n pool) {i : Nat} (hi : i < n) : GuiExt.inSlotsOf k i pool = true := by
  obtain ⟨item, hitem, rfl⟩ := h
  rw [GuiExt.inSlotsOf, hitem]
  exact decide_eq_true hi

/-- A write to the item `k` that keeps its number of slots, or none. -/
def Within (k : UInt32) (f : GuiExtPool → GuiExtPool) : Prop :=
  (∀ pool, f pool = pool) ∨
    ∃ F : PoolItem → PoolItem, (∀ item, (F item).consumerList.size = item.consumerList.size) ∧ f = onItem k F

theorem Within.hasSlots (hf : Within k f) (h : HasSlots k n pool) : HasSlots k n (f pool) := by
  rcases hf with hid | ⟨F, hF, rfl⟩
  · rw [hid]
    exact h
  · obtain ⟨item, hitem, hsize⟩ := h
    refine ⟨F item, ?_, (hF item).trans hsize⟩
    rw [valueFor_onItem_self, hitem]
    rfl

/-- An access of the observer: it is allowed while the item is there, and reads and writes the item only. -/
structure OnItem (k : UInt32) (n : Nat) (ok : GuiExtPool → Bool) (f : GuiExtPool → GuiExtPool)
    (next : GuiExtPool → Prog GuiExtPool) : Prop where
  guard : ∀ {pool}, HasSlots k n pool → ok pool = true
  write : Within k f
  read : ∀ {pool' pool}, pool'.poolList.valueFor k = pool.poolList.valueFor k → next pool' = next pool

def Last (_ : Body GuiExtPool) (rest : Prog GuiExtPool) : Prop := rest = .done

/-- An access of the call: it leaves the item `k` alone and does not look into it. -/
structure Apart (k : UInt32) (g : GuiExtPool → GuiExtPool) (next : GuiExtPool → Body GuiExtPool) : Prop where
  same : ∀ {pool}, pool.alive k = true → (g pool).poolList.valueFor k = pool.poolList.valueFor k
  comm : ∀ {F pool}, pool.alive k = true → g (onItem k F pool) = onItem k F (g pool)
  blind : ∀ {F pool}, next (onItem k F pool) = next pool

theorem OnItem.comm {ok : GuiExtPool → Bool} {next : GuiExtPool → Prog GuiExtPool} {g : GuiExtPool → GuiExtPool}
    {next' : GuiExtPool → Body GuiExtPool} (hf : OnItem k n ok f next) (hg : Apart k g next') (h : HasSlots k n pool) :
    ok (g pool) = ok pool ∧ f (g pool) = g (f pool) ∧ next (g pool) = next pool ∧ next' (f pool) = next' pool := by
  have hsame := hg.same h.alive
  have hg' : HasSlots k n (g pool) := by
    obtain ⟨item, hitem, hsize⟩ := h
    exact ⟨item, hsame.trans hitem, hsize⟩
  refine ⟨(hf.guard hg').trans (hf.guard h).symm, ?_, hf.read hsame, ?_⟩
  · rcases hf.write with hid | ⟨F, -, rfl⟩
    · rw [hid, hid]
    · exact (hg.comm h.alive).symm
  · rcases hf.write with hid | ⟨F, -, rfl⟩
    · rw [hid]
    · exact hg.blind

/-! ### The accesses of the observer -/

theorem within_onSlot (key : UInt32) (G : ConsumerSlot → ConsumerSlot) : Within k (onItem k (onSlot key G)) :=
  .inr ⟨_, fun item => size_modify item.consumerList key G, rfl⟩

theorem within_onSlotAt (i : Nat) (G : ConsumerSlot → ConsumerSlot) : Within k (onItem k (onSlotAt i G)) := by
  refine .inr ⟨_, fun item => ?_, rfl⟩
  unfold onSlotAt
  split
  · exact size_modify _ _ _
  · rfl

theorem within_setFlag (usage : Nat) (value : Bool) : Within k (onItem k (setFlag usage value)) :=
  .inr ⟨setFlag usage value, fun _ => rfl, rfl⟩

theorem within_connectAt (i : Nat) : Within k (onItem k (connectAt i)) := by
  refine .inr ⟨_, fun item => ?_, rfl⟩
  unfold connectAt
  split <;> rfl

theorem OnItem.slot {i : Nat} (hi : i < n) (hf : Within k f) {next : GuiExtPool → Prog GuiExtPool}
    (hread : ∀ {pool' pool}, pool'.poolList.valueFor k = pool.poolList.valueFor k → next pool' = next pool) :
    OnItem k n (GuiExt.inSlotsOf k i) f next :=
  ⟨fun h => h.inSlotsOf hi, hf, hread⟩

theorem within_id : Within k fun pool => pool := .inl fun _ => rfl

theorem releaseItem_within (I : GuiExtPool → Prop) (usage type buf : UInt32) :
    (releaseItem k usage type buf).Each I fun g next =>
      Within k g ∧ ∀ {pool' pool}, pool'.poolList.valueFor k = pool.poolList.valueFor k → next pool' = next pool := by
  refine .branch ⟨within_id, fun h => ?_⟩ (.branch ⟨within_id, fun h => ?_⟩ ?_ trivial) trivial
  · simp [h]
  · simp [Alike.slotOf (.inl h)]
  · exact ⟨⟨within_onSlot _ _, fun _ => rfl⟩, fun _ _ => ⟨⟨within_onSlot _ _, fun _ => rfl⟩, fun _ _ => trivial⟩⟩

theorem consumerFirst_each (who : Binder) {rest : Prog GuiExtPool}
    (hrest : rest.Each (HasSlots k n) (OnItem k n) Last) (is : List Nat) (his : ∀ i ∈ is, i < n) :
    (consumerFirst who k rest is).Each (HasSlots k n) (OnItem k n) Last := by
  induction is with
  | nil => exact hrest
  | cons i is ih =>
    obtain ⟨hi, htail⟩ := List.forall_mem_cons.mp his
    refine ⟨.slot hi within_id fun h => ?_, fun pool _ => ?_⟩
    · simp [h]
    · dsimp only
      split_ifs
      · refine ⟨.slot hi within_id fun h => ?_, fun pool _ => ?_⟩
        · simp [h]
        · dsimp only
          split
          · exact ih htail
          · refine each_unlocked ?_ ?_ (releaseItem_within _ _ _ _)
            · intro f next hQ
              refine ⟨fun h => h.alive, hQ.1, fun h => ?_⟩
              rw [hQ.2 h]
            · refine ⟨.slot hi (within_onSlotAt _ _) fun _ => rfl, fun _ _ => ?_⟩
              refine ⟨.slot hi within_id fun _ => rfl, fun _ _ => ?_⟩
              exact ⟨.slot hi (within_onSlotAt _ _) fun _ => rfl, fun _ _ => ih htail⟩
      · exact ih htail

theorem consumerFlags_each {rest : Prog GuiExtPool} (hrest : rest.Each (HasSlots k n) (OnItem k n) Last)
    (usages : List Nat) : (consumerFlags k rest usages).Each (HasSlots k n) (OnItem k n) Last := by
  induction usages with
  | nil => exact hrest
  | cons usage usages ih => exact ⟨⟨fun h => h.alive, within_setFlag _ _, fun _ => rfl⟩, fun _ _ => ih⟩

theorem consumerSecond_each (vacant : Bool) (is : List Nat) (his : ∀ i ∈ is, i < n) :
    (consumerSecond k vacant is).Each (HasSlots k n) (OnItem k n) Last := by
  induction is generalizing vacant with
  | nil =>
    unfold consumerSecond
    split_ifs
    · refine ⟨⟨fun h => h.alive, within_id, fun h => ?_⟩, fun _ _ => ⟨rfl, trivial⟩⟩
      simp [h]
    · trivial
  | cons i is ih =>
    obtain ⟨hi, htail⟩ := List.forall_mem_cons.mp his
    refine ⟨.slot hi within_id fun h => ?_, fun pool _ => ?_⟩
    · simp [h]
    · dsimp only
      split_ifs
      · exact ih vacant htail
      · exact ⟨.slot hi (within_connectAt i) fun _ => rfl, fun _ _ => ih false htail⟩

theorem consumer_each (who : Binder) : (Death.consumer who k).prog.Each (HasSlots k n) (OnItem k n) Last := by
  refine ⟨⟨fun h => h.alive, within_id, fun h => ?_⟩, fun pool hpool => ?_⟩
  · simp [h]
  · obtain ⟨item, hitem, hsize⟩ := hpool
    dsimp only
    rw [hitem, map_some, hsize]
    split_ifs
    · trivial
    · have hin : ∀ i ∈ List.range n, i < n := fun i hi => List.mem_range.mp hi
      exact consumerFirst_each who (consumerFlags_each (consumerSecond_each true _ hin) _) _ hin

/-! ### The calls beside it -/

section Calls

variable {j : UInt32} {next : GuiExtPool → Body GuiExtPool} {I : GuiExtPool → Prop}

theorem valueFor_onItem_of_ne (h : j ≠ k) (F : PoolItem → PoolItem) (pool : GuiExtPool) :
    (onItem k F pool).poolList.valueFor j = pool.poolList.valueFor j := by
  rw [valueFor_onItem, if_neg h]

theorem alive_onItem (F : PoolItem → PoolItem) (pool : GuiExtPool) : (onItem k F pool).alive j = pool.alive j := by
  rw [GuiExtPool.alive, valueFor_onItem]
  split_ifs
  · exact isSome_map
  · rfl

theorem Apart.look (h : ∀ {F pool}, next (onItem k F pool) = next pool) : Apart k (fun pool => pool) next :=
  ⟨fun _ => rfl, fun _ => rfl, h⟩

theorem Apart.change (hj : j ≠ k) (G : PoolItem → PoolItem) (b : Body GuiExtPool) : Apart k (onItem j G) fun _ => b :=
  ⟨fun _ => valueFor_onItem_of_ne hj.symm G _, fun _ => onItem_comm hj G, rfl⟩

theorem Apart.drop (hj : j ≠ k) (b : Body GuiExtPool) : Apart k (dropItem j) fun _ => b := by
  refine ⟨fun {pool} _ => ?_, fun {F pool} _ => ?_, rfl⟩
  · show (pool.poolList.removeItem j).valueFor k = _
    rw [valueFor_removeItem, if_neg hj.symm]
  · simp [dropItem, onItem, removeItem_comm hj.symm]

theorem removeFrom_apart (hj : j ≠ k) (m : Nat) : (removeFrom j m).Each I (Apart k) := by
  induction m with
  | zero =>
    refine .branch (.look fun {F pool} => ?_) ⟨.drop hj _, fun _ _ => trivial⟩ trivial
    simp [valueFor_onItem_of_ne hj F pool]
  | succ m ih =>
    refine .branch (.look fun {F pool} => ?_) ih trivial
    simp [valueFor_onItem_of_ne hj F pool]

theorem removal_apart (hj : j ≠ k) : (removal j).Each I (Apart k) := by
  refine .branch (.look fun {F pool} => ?_) (removeFrom_apart hj _) trivial
  simp [alive_onItem]

theorem Slotted.apart {g : GuiExtPool → GuiExtPool} (hj : j ≠ k) (h : Slotted j g next) : Apart k g next := by
  have hblind : ∀ {F pool}, next (onItem k F pool) = next pool := h.read (.inl (valueFor_onItem_of_ne hj _ _))
  rcases h.write with hid | ⟨G, -, rfl⟩
  · refine ⟨fun _ => ?_, fun _ => ?_, hblind⟩
    · rw [hid]
    · rw [hid, hid]
  · exact ⟨fun _ => valueFor_onItem_of_ne hj.symm G _, fun _ => onItem_comm hj G, hblind⟩

theorem allocFrom_apart (token : Binder) (grallocUsage : UInt32) (fuel : Nat) (poolId : UInt32) :
    (allocFrom token grallocUsage fuel poolId).Each (HasSlots k n) (Apart k) := by
  induction fuel generalizing poolId with
  | zero => trivial
  | succ fuel ih =>
    unfold allocFrom
    dsimp only
    generalize (if (poolId + 1) % 10 = 0 then 10 else (poolId + 1) % 10) = j
    refine ⟨.look fun {F pool} => ?_, fun pool hpool => ?_⟩
    · simp [alive_onItem]
    · dsimp only
      split_ifs with halive
      · exact ih _
      · have hj : j ≠ k := by
          rintro rfl
          exact halive hpool.alive
        refine ⟨⟨fun _ => rfl, fun _ => rfl, rfl⟩, fun _ _ => ?_⟩
        refine ⟨⟨fun {pool} _ => ?_, fun {F pool} _ => ?_, rfl⟩, fun _ _ => trivial⟩
        · rw [KeyedVector.valueFor_add, if_neg hj.symm]
        · simp [onItem, KeyedVector.add_comm_modify hj.symm]

theorem body_apart {call : Call} (hcall : call.item ≠ some k) : call.body.Each (HasSlots k n) (Apart k) := by
  have hne : ∀ {j}, call.item = some j → j ≠ k := fun h heq => hcall (heq ▸ h)
  cases call with
  | alloc token grallocUsage =>
    refine ⟨.look fun {F pool} => ?_, fun pool _ => ?_⟩
    · simp [onItem]
    · dsimp only
      split_ifs
      · trivial
      · refine ⟨⟨fun {pool} _ => ?_, fun {F pool} _ => ?_, rfl⟩, fun _ _ => ?_⟩
        · split_ifs <;> rfl
        · simp only [onItem, size_modify]
          split_ifs <;> rfl
        · exact ⟨.look rfl, fun _ _ => allocFrom_apart token grallocUsage _ _⟩
  | free j =>
    refine .branch (.look fun {F pool} => ?_) ⟨.change (hne rfl) _ _, fun _ _ => removal_apart (hne rfl)⟩ trivial
    simp [alive_onItem]
  | acquire token j usage type a =>
    exact (lookup_each (acquireItem_each token usage type a)).mono fun h => h.apart (hne rfl)
  | release j usage type buf => exact (lookup_each (releaseItem_each usage type buf)).mono fun h => h.apart (hne rfl)
  | disconnect j usage type =>
    refine ⟨.look fun {F pool} => ?_, fun pool _ => ?_⟩
    · simp [valueFor_onItem_of_ne (hne rfl) F pool]
    · dsimp only
      split
      · trivial
      · split_ifs
        · exact removal_apart (hne rfl)
        · exact ⟨.change (hne rfl) _ _, fun _ _ => removal_apart (hne rfl)⟩

end Calls

theorem consumer_independent (who : Binder) {body : Body GuiExtPool} (hpool : HasSlots k n pool)
    (hbody : body.Each (HasSlots k n) (Apart k)) :
    Independent (HasSlots k n) (OnItem k n) Last (Apart k) (Death.consumer who k).prog body pool where
  start := hpool
  outside := consumer_each who
  inside := hbody
  keepL := fun hP h => hP.write.hasSlots h
  keepR := by
    intro g next pool hQ h
    have hsame := hQ.same h.alive
    obtain ⟨item, hitem, hsize⟩ := h
    exact ⟨item, hsame.trans hitem, hsize⟩
  keepS := fun hR => .inl hR
  comm := fun hP hQ h => hP.comm hQ h

/-- **The observer of a consumer beside a call on another item.** -/
theorem consumer_atomic (who : Binder) {call : Call} (hlive : pool.alive k = true) (hcall : call.item ≠ some k) :
    Atomic (.consumer who k) call pool := by
  intro ts c hrun
  obtain ⟨item, hitem⟩ := isSome_iff_exists.mp hlive
  have hpool : HasSlots k item.consumerList.size pool := ⟨item, hitem, rfl⟩
  have hindep := consumer_independent who hpool (body_apart hcall)
  rw [← Call.exec_body, ← Death.exec_prog, ← Death.exec_prog, ← Call.exec_body]
  apply hindep.serial (hindep.movable id)
  · exact hindep.safe fun hP => hP.guard
  · exact hindep.after.safe fun hP => hP.guard
  · exact hrun

end Consumer

/-! ## Both -/

/-- **A death notification is atomic beside a harmless call.** In every interleaving of the two threads each index is
    below the size of its list at that moment, and the pool ends up as if one had come after the other. -/
theorem deaths_atomic {death : Death} {call : Call} {pool : GuiExtPool} (hlive : death.Live pool)
    (hharmless : Harmless call death) : Atomic death call pool := by
  cases death with
  | producer who => exact producer_atomic who hharmless
  | consumer who k => exact consumer_atomic who hlive hharmless

def twoItems : GuiExtPool := ((GuiExtPool.init.alloc 1 grallocUsageHwComposer).1.alloc 2 grallocUsageHwComposer).1

/-- The third binder holds the first buffer of item 1. -/
def heldItem : GuiExtPool := (twoItems.acquire 3 1 usageHwc 0 ⟨false, 0⟩).1

/-- A producer dies beside an `acquire`, and a consumer that holds a slot beside a `free` of another item. -/
theorem deaths_atomic_two :
    Atomic (.producer 1) (.acquire 3 1 usageHwc 0 ⟨false, 0⟩) twoItems ∧
      (heldItem.poolList.valueFor 1).any (fun item => item.consumerList.items.any fun x => x.2.token = some 3) = true ∧
      Atomic (.consumer 3 1) (.free 2) heldItem :=
  ⟨deaths_atomic trivial rfl, by decide +kernel, deaths_atomic (show heldItem.alive 1 = true by decide +kernel) (by decide)⟩

/-- The second producer frees its item while the death of the first one is handled: the observer has read the size two,
    and uses the index one of a list with one item. -/
theorem index_past_end : ¬Atomic (.producer 1) (.free 2) twoItems := by
  intro h
  have hrun : ((beside (Death.producer 1).prog (Call.free 2).body twoItems).run
      (.left :: List.replicate 9 .right)).any (fun c => decide c.Wrong) = true := by
    decide +kernel
  obtain ⟨c, hc, hwrong⟩ := (any_eq_true _ _).mp hrun
  exact (h _ c hc).1 (of_decide_eq_true hwrong)

end HuaweiY5.GuiExt
