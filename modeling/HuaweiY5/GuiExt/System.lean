import HuaweiY5.GuiExt.Slots

/-!
# `GuiExt.System` — the pool with its clients

The pool knows of its clients only what is in its items. Beside it stands what has happened: who has died, who the
producer of an item is and whether it has freed it, which buffers are held and who has not disconnected. A dead client
makes no calls, and its death is notified by an observer that an item still holds: the one of a producer is in the item,
the one of a consumer in the slot of a buffer.
-/

namespace HuaweiY5.GuiExt

open List Option GuiExtPool PoolItem

/-- A buffer that a consumer has acquired and not released. -/
structure Holding where
  token : Binder
  poolId : UInt32
  usage : UInt32
  type : UInt32
  buf : UInt32
  deriving DecidableEq

def Holding.key (h : Holding) : UInt32 := poolCombinedId h.usage h.type h.buf

/-- A consumer that has acquired from an item and not disconnected. -/
structure Joined where
  token : Binder
  poolId : UInt32
  usage : UInt32
  deriving DecidableEq

/-- The pool and what has happened. -/
structure System where
  pool : GuiExtPool
  dead : List Binder
  producers : KeyedVector UInt32 Binder
  freed : List UInt32
  held : List Holding
  joined : List Joined
  noticed : List Binder
  told : List (Binder × UInt32)
  deriving DecidableEq

inductive SystemMove
  | call (move : PoolMove)
  | died (who : Binder)
  deriving DecidableEq

namespace System

def init : System := ⟨GuiExtPool.init, [], .empty, [], [], [], [], []⟩

def Accepted (out : List Effect) : Prop := Effect.returned .noError ∈ out
  deriving Decidable

def allocatedId : List Effect → Option UInt32
  | [] => none
  | .allocated poolId :: _ => some poolId
  | _ :: out => allocatedId out

/-- There is a new item with an id: what happened to the last one with it is forgotten. -/
def renew (id : UInt32) (token : Binder) (s : System) : System :=
  { s with
    producers := s.producers.add id token
    freed := s.freed.filter fun k => decide (k ≠ id)
    held := s.held.filter fun h => decide (h.poolId ≠ id)
    joined := s.joined.filter fun j => decide (j.poolId ≠ id)
    told := s.told.filter fun x => decide (x.2 ≠ id) }

/-- What has happened after a call, by what it has shown. -/
def note (out : List Effect) (s : System) : PoolMove → System
  | .alloc token _ =>
    match allocatedId out with
    | some poolId => s.renew poolId token
    | none => s
  | .free who poolId =>
    if Accepted out ∧ s.producers.valueFor poolId = some who then { s with freed := poolId :: s.freed } else s
  | .acquire token poolId usage type a =>
    if Accepted out then
      { s with
        held := ⟨token, poolId, usage, type, a.buf.toUInt32⟩ :: s.held
        joined := ⟨token, poolId, usage⟩ :: s.joined }
    else s
  | .request _ _ _ => s
  | .release who poolId usage type buf =>
    if Accepted out then { s with held := s.held.filter fun h => decide (h ≠ ⟨who, poolId, usage, type, buf⟩) } else s
  | .disconnect who poolId usage _ =>
    if Accepted out then { s with joined := s.joined.filter fun j => decide (j ≠ ⟨who, poolId, usage⟩) } else s
  | .configDisplay _ _ _ _ _ => s
  | .producerDied who => { s with noticed := who :: s.noticed }
  | .consumerDied who poolId => { s with told := (who, poolId) :: s.told }

def step (s : System) : SystemMove → System × List Effect
  | .call move => ({ note (s.pool.step move).2 s move with pool := (s.pool.step move).1 }, (s.pool.step move).2)
  | .died who => ({ s with dead := who :: s.dead }, [])

/-- A call is made by a client that is alive; the observer of a dead one is in an item or in a slot of it. -/
def Enabled (s : System) : SystemMove → Prop
  | .call (.alloc token _) => token ∉ s.dead
  | .call (.free who _) => who ∉ s.dead
  | .call (.acquire token _ _ _ _) => token ∉ s.dead
  | .call (.request _ _ _) => True
  | .call (.release who _ _ _ _) | .call (.disconnect who _ _ _) => who ∉ s.dead
  | .call (.configDisplay _ _ _ _ _) => True
  | .call (.producerDied who) => who ∈ s.dead ∧ ∃ x ∈ s.pool.poolList.items, s.producers.valueFor x.1 = some who
  | .call (.consumerDied who poolId) =>
    who ∈ s.dead ∧ ∃ x ∈ s.pool.poolList.items, x.1 = poolId ∧ ∃ y ∈ x.2.consumerList.items, y.2.observer = some who
  | .died who => who ∉ s.dead

instance instDecidableEnabled (s : System) : (move : SystemMove) → Decidable (Enabled s move)
  | .call (.alloc _ _) | .call (.free _ _) | .call (.acquire _ _ _ _ _) | .call (.release _ _ _ _ _)
  | .call (.disconnect _ _ _ _) | .died _ => inferInstanceAs (Decidable (_ ∉ s.dead))
  | .call (.request _ _ _) | .call (.configDisplay _ _ _ _ _) => isTrue trivial
  | .call (.producerDied _) | .call (.consumerDied _ _) => inferInstanceAs (Decidable (_ ∧ _))

def machine : Transducer System SystemMove Effect where
  init := init
  enabled := Enabled
  step := step

instance instDecidableMachineEnabled (s : System) (move : SystemMove) : Decidable (machine.enabled s move) :=
  instDecidableEnabled s move

def Gone (s : System) (k : UInt32) : Prop := k ∈ s.freed ∨ ∃ p, s.producers.valueFor k = some p ∧ p ∈ s.dead

/-! ## When a call succeeds -/

section Accepted

variable (pool : GuiExtPool)

variable {poolId : UInt32}

theorem accepted_free : Accepted (pool.free poolId).2 ↔ ∃ item, pool.poolList.valueFor poolId = some item := by
  unfold GuiExtPool.free Accepted
  rcases pool.poolList.valueFor poolId with _ | item <;> simp

theorem accepted_acquire {token : Binder} {usage type : UInt32} {a : Dequeued} :
    Accepted (pool.acquire token poolId usage type a).2 ↔
      ∃ item, pool.poolList.valueFor poolId = some item ∧ (item.acquire token usage type a).2.1 = .noError := by
  unfold GuiExtPool.acquire Accepted
  rcases pool.poolList.valueFor poolId with _ | item
  · simp [logged]
  · have hquiet : Effect.returned .noError ∉ (item.acquire token usage type a).2.2 := by
      intro hmem
      obtain ⟨-, h | h⟩ := mem_acquire hmem <;> exact absurd h (by simp)
    simp [logged, hquiet, eq_comm]

theorem accepted_release {usage type buf : UInt32} :
    Accepted (pool.release poolId usage type buf).2 ↔
      ∃ item, pool.poolList.valueFor poolId = some item ∧ (item.release usage type buf).2 = .noError := by
  unfold GuiExtPool.release Accepted
  rcases pool.poolList.valueFor poolId with _ | item <;> simp [logged, eq_comm]

theorem returned_notMem_removePoolItemLocked (poolId : UInt32) (status : Status) :
    Effect.returned status ∉ (pool.removePoolItemLocked poolId).2 := by
  unfold removePoolItemLocked
  split
  · exact not_mem_nil
  · dsimp only
    split_ifs <;> simp

theorem accepted_disconnect {usage type : UInt32} :
    Accepted (pool.disconnect poolId usage type).2 ↔
      ∃ item, pool.poolList.valueFor poolId = some item ∧ (item.disconnect usage).2.1 = .noError := by
  unfold GuiExtPool.disconnect Accepted
  rcases pool.poolList.valueFor poolId with _ | item
  · simp [logged]
  · have hquiet : Effect.returned .noError ∉ (item.disconnect usage).2.2 := by
      unfold PoolItem.disconnect
      split_ifs <;> simp
    simp [logged, hquiet, returned_notMem_removePoolItemLocked, eq_comm]

end Accepted

/-! ## What an `alloc` leads to -/

theorem allocatedId_append {l r : List Effect} (h : ∀ poolId, Effect.allocated poolId ∉ l) :
    allocatedId (l ++ r) = allocatedId r := by
  induction l with
  | nil => rfl
  | cons e l ih =>
    obtain ⟨he, hl⟩ : (∀ poolId, e ≠ .allocated poolId) ∧ ∀ poolId, Effect.allocated poolId ∉ l :=
      ⟨fun poolId heq => h poolId (heq ▸ mem_cons_self), fun poolId hmem => h poolId (mem_cons_of_mem _ hmem)⟩
    cases e with
    | allocated poolId => exact absurd rfl (he poolId)
    | index | returned | removed | looping => exact ih hl

/-- **An `alloc` of the system.** No item changes and nothing else has happened, or there is a new item. -/
theorem alloc_step_cases (s : System) (token : Binder) (grallocUsage : UInt32) :
    ((s.pool.step (.alloc token grallocUsage)).1.poolList = s.pool.poolList ∧
      note (s.pool.step (.alloc token grallocUsage)).2 s (.alloc token grallocUsage) = s) ∨
    ∃ poolId needed displays, s.pool.poolList.valueFor poolId = none ∧
      (s.pool.step (.alloc token grallocUsage)).1.poolList =
        s.pool.poolList.add poolId (create token needed poolId displays) ∧
      note (s.pool.step (.alloc token grallocUsage)).2 s (.alloc token grallocUsage) = s.renew poolId token := by
  rw [GuiExtPool.step]
  rcases alloc_cases s.pool token grallocUsage with
    ⟨hlist, -, ⟨hout, -⟩ | ⟨hout, -⟩⟩ | ⟨poolId, needed, displays, hget, -, -, hlist, hout⟩
  · refine .inl ⟨hlist, ?_⟩
    rw [hout]
    rfl
  · refine .inl ⟨hlist, ?_⟩
    rw [hout]
    rfl
  · refine .inr ⟨poolId, needed, displays, (probe_eq_some hget).1, hlist, ?_⟩
    have hquiet : ∀ k, Effect.allocated k ∉ (create token needed poolId displays).createIndices := by
      intro k
      unfold createIndices
      split_ifs <;> simp
    rw [hout, note, allocatedId_append hquiet]
    rfl

/-! ## The producers -/

/-- What ties the pool and what has happened together: the producer in an item is the one that allocated it, and an item
    that its producer has freed has none. -/
structure Base (s : System) : Prop where
  served : Served s.pool
  producer : ∀ k item p, s.pool.poolList.valueFor k = some item → item.producerToken = some p →
    s.producers.valueFor k = some p
  freed : ∀ k item, k ∈ s.freed → s.pool.poolList.valueFor k = some item → item.producerToken = none

theorem acquire_producerToken (token : Binder) (usage type : UInt32) (a : Dequeued) (item : PoolItem) :
    (item.acquire token usage type a).1.producerToken = item.producerToken := by
  rcases acquire_cases token usage type a item with ⟨h, -⟩ | ⟨-, -, -, slot, -, h⟩ <;> rw [h]

theorem release_producerToken (usage type buf : UInt32) (item : PoolItem) :
    (item.release usage type buf).1.producerToken = item.producerToken := by
  rcases release_cases usage type buf item with ⟨h, -⟩ | ⟨-, -, h⟩ <;> rw [h]

theorem disconnect_producerToken (usage : UInt32) (item : PoolItem) :
    (item.disconnect usage).1.producerToken = item.producerToken := by
  rcases disconnect_cases usage item with ⟨h, -⟩ | ⟨-, h⟩ <;> rw [h]

variable {k : UInt32} {move : PoolMove} {item : PoolItem}

theorem afterMove_producerToken {item' : PoolItem} (h : afterMove k move item = some item') :
    item'.producerToken = item.producerToken ∨ item'.producerToken = none := by
  refine afterMove_rule (P := fun i => i.producerToken = item.producerToken ∨ i.producerToken = none)
    ?_ ?_ ?_ ?_ ?_ (.inl rfl) h
  · exact fun _ _ => .inr rfl
  · exact fun i token usage type a hi => by rwa [acquire_producerToken]
  · exact fun i usage type buf hi => by rwa [release_producerToken]
  · exact fun i usage hi => by rwa [disconnect_producerToken]
  · exact fun i who hi => by rwa [consumerDied_producerToken]

theorem afterMove_free {who : Binder} {item' : PoolItem} (h : afterMove k (.free who k) item = some item') :
    item'.producerToken = none := by
  simp only [afterMove] at h
  rw [(settle_eq_some h).1]
  rfl

def Orphans (k : UInt32) (item : PoolItem) (move : PoolMove) : Prop :=
  (∃ who, move = .free who k) ∨ ∃ who, move = .producerDied who ∧ item.producerToken = some who

/-- **How an item loses its producer.** If it has none after a move, or has gone with it, it had none before or the move
    has taken it. -/
theorem lost_of_afterMove (h : ∀ item', afterMove k move item = some item' → item'.producerToken = none) :
    item.producerToken = none ∨ Orphans k item move := by
  have hsettle : ∀ i : PoolItem, (∀ item', i.settle = some item' → item'.producerToken = none) → i.producerToken = none := by
    intro i hi
    by_cases hab : i.Abandoned
    · exact hab.2
    · exact hi i (by rw [settle, if_neg hab])
  cases move with
  | alloc | request | configDisplay => exact .inl (h item rfl)
  | free who poolId =>
    simp only [afterMove] at h
    split_ifs at h with hk
    · exact .inr (.inl ⟨who, by rw [hk]⟩)
    · exact .inl (h item rfl)
  | acquire token poolId usage type a =>
    simp only [afterMove] at h
    split_ifs at h
    · exact .inl ((acquire_producerToken token usage type a item).symm.trans (h _ rfl))
    · exact .inl (h item rfl)
  | release who poolId usage type buf =>
    simp only [afterMove] at h
    split_ifs at h
    · exact .inl ((release_producerToken usage type buf item).symm.trans (h _ rfl))
    · exact .inl (h item rfl)
  | disconnect who poolId usage type =>
    simp only [afterMove] at h
    split_ifs at h
    · exact .inl ((disconnect_producerToken usage item).symm.trans (hsettle _ h))
    · exact .inl (h item rfl)
  | producerDied who =>
    simp only [afterMove] at h
    split_ifs at h with htok
    · exact .inr (.inr ⟨who, rfl, htok⟩)
    · exact .inl (h item rfl)
  | consumerDied who poolId =>
    simp only [afterMove] at h
    split_ifs at h
    · exact .inl (h item rfl)
    · exact .inl ((consumerDied_producerToken who item).symm.trans (hsettle _ h))
    · exact .inl ((consumerDied_producerToken who item).symm.trans (h _ rfl))
    · exact .inl (h item rfl)

variable (out : List Effect)

theorem note_producers (s : System) (hmove : ∀ token usage, move ≠ .alloc token usage) :
    (note out s move).producers = s.producers := by
  cases move with
  | alloc token usage => exact absurd rfl (hmove token usage)
  | request | configDisplay | producerDied | consumerDied => rfl
  | free | acquire | release | disconnect =>
    simp only [note]
    split_ifs <;> rfl

theorem mem_freed_note {out : List Effect} {s : System} (hmove : ∀ token usage, move ≠ .alloc token usage)
    (h : k ∈ (note out s move).freed) : k ∈ s.freed ∨ ∃ who, move = .free who k := by
  cases move with
  | alloc token usage => exact absurd rfl (hmove token usage)
  | request | configDisplay | producerDied | consumerDied => exact .inl h
  | acquire | release | disconnect =>
    simp only [note] at h
    split_ifs at h <;> exact .inl h
  | free who poolId =>
    simp only [note] at h
    split_ifs at h
    · rcases mem_cons.mp h with rfl | h
      · exact .inr ⟨who, rfl⟩
      · exact .inl h
    · exact .inl h

theorem note_dead (s : System) (move : PoolMove) : (note out s move).dead = s.dead := by
  cases move <;> simp only [note] <;> first | rfl | (split <;> rfl)

theorem freed_note (s : System) (hmove : ∀ token usage, move ≠ .alloc token usage)
    (h : k ∈ s.freed) : k ∈ (note out s move).freed := by
  cases move with
  | alloc token usage => exact absurd rfl (hmove token usage)
  | request | configDisplay | producerDied | consumerDied => exact h
  | free | acquire | release | disconnect =>
    simp only [note]
    split_ifs <;> first | exact h | exact mem_cons_of_mem _ h

theorem mem_joined_note {s : System} {j : Joined} (hj : j ∈ s.joined) (hitem : s.pool.poolList.valueFor j.poolId = some item) :
    j ∈ (note (s.pool.step move).2 s move).joined ∨
      ∃ type, move = .disconnect j.token j.poolId j.usage type ∧ Accepted (s.pool.step move).2 := by
  cases move with
  | alloc token usage =>
    left
    rcases alloc_step_cases s token usage with ⟨-, hnote⟩ | ⟨poolId, needed, displays, hfree, -, hnote⟩
    · rwa [hnote]
    · rw [hnote]
      refine mem_filter.mpr ⟨hj, decide_eq_true ?_⟩
      rintro rfl
      cases hitem.symm.trans hfree
  | request | configDisplay | producerDied | consumerDied => exact .inl hj
  | free | acquire | release =>
    simp only [note]
    split_ifs <;> first | exact .inl hj | exact .inl (mem_cons_of_mem _ hj)
  | disconnect who poolId usage type =>
    simp only [note]
    split_ifs with hacc
    · by_cases heq : j = ⟨who, poolId, usage⟩
      · rw [heq]
        exact .inr ⟨type, rfl, hacc⟩
      · exact .inl (mem_filter.mpr ⟨hj, decide_eq_true heq⟩)
    · exact .inl hj

theorem Gone.step {s : System} (h : Gone s k) (hitem : s.pool.poolList.valueFor k = some item) (move : SystemMove) :
    Gone (machine.next s move) k := by
  rcases move with move | who
  · show k ∈ (note _ s move).freed ∨ ∃ p, (note _ s move).producers.valueFor k = some p ∧ p ∈ (note _ s move).dead
    rw [note_dead]
    by_cases hmove : ∃ token usage, move = .alloc token usage
    · obtain ⟨token, usage, rfl⟩ := hmove
      rcases alloc_step_cases s token usage with ⟨-, hnote⟩ | ⟨poolId, needed, displays, hfree, -, hnote⟩
      · rw [hnote]
        exact h
      · have hne : k ≠ poolId := by
          rintro rfl
          cases hitem.symm.trans hfree
        rw [hnote]
        rcases h with h | ⟨p, hp, hdead⟩
        · exact .inl (mem_filter.mpr ⟨h, decide_eq_true hne⟩)
        · refine .inr ⟨p, ?_, hdead⟩
          show (s.producers.add poolId token).valueFor k = some p
          rw [KeyedVector.valueFor_add, if_neg hne]
          exact hp
    · have hnot : ∀ token usage, move ≠ .alloc token usage := fun token usage heq => hmove ⟨token, usage, heq⟩
      rw [note_producers _ _ hnot]
      exact h.imp (freed_note _ s hnot) id
  · refine h.imp_right ?_
    rintro ⟨p, hp, hdead⟩
    exact ⟨p, hp, mem_cons_of_mem _ hdead⟩

theorem Base.init : Base System.init :=
  ⟨Served.init, fun _ _ _ hitem => absurd hitem.symm (some_ne_none _), fun _ _ hk => absurd hk not_mem_nil⟩

/-- **A step keeps the two together.** -/
theorem Base.step {s : System} (h : Base s) (move : SystemMove) : Base (machine.next s move) := by
  rcases move with move | who
  · by_cases hmove : ∃ token usage, move = .alloc token usage
    · obtain ⟨token, usage, rfl⟩ := hmove
      have hserved : Served (s.pool.step (.alloc token usage)).1 := h.served.step _
      rcases alloc_step_cases s token usage with ⟨hlist, hnote⟩ | ⟨poolId, needed, displays, hfree, hlist, hnote⟩
      · refine ⟨hserved, fun k item p hitem htok => ?_, fun k item hk hitem => ?_⟩
        · show (note _ _ _).producers.valueFor k = some p
          rw [hnote]
          exact h.producer k item p (hlist ▸ hitem) htok
        · have hk' : k ∈ (note _ _ _).freed := hk
          rw [hnote] at hk'
          exact h.freed k item hk' (hlist ▸ hitem)
      · refine ⟨hserved, fun k item p hitem htok => ?_, fun k item hk hitem => ?_⟩
        · show (note _ _ _).producers.valueFor k = some p
          have hitem' : (s.pool.step (.alloc token usage)).1.poolList.valueFor k = some item := hitem
          rw [hlist, KeyedVector.valueFor_add] at hitem'
          rw [hnote]
          show (s.producers.add poolId token).valueFor k = some p
          rw [KeyedVector.valueFor_add]
          split_ifs at hitem' ⊢
          · rw [← some.inj hitem'] at htok
            exact htok
          · exact h.producer k item p hitem' htok
        · have hk' : k ∈ (note _ _ _).freed := hk
          rw [hnote] at hk'
          obtain ⟨hfreed, hne⟩ := mem_filter.mp hk'
          have hitem' : (s.pool.step (.alloc token usage)).1.poolList.valueFor k = some item := hitem
          rw [hlist, KeyedVector.valueFor_add, if_neg (of_decide_eq_true hne)] at hitem'
          exact h.freed k item hfreed hitem'
    · have hnot : ∀ token usage, move ≠ .alloc token usage := fun token usage heq => hmove ⟨token, usage, heq⟩
      have hback : ∀ {k item'}, (s.pool.step move).1.poolList.valueFor k = some item' →
          ∃ item, s.pool.poolList.valueFor k = some item ∧ afterMove k move item = some item' := by
        intro k item' hitem'
        rw [(step_treats h.served.1.named hnot k).1] at hitem'
        exact bind_eq_some_iff.mp hitem'
      refine ⟨h.served.step move, fun k item' p hitem' htok => ?_, fun k item' hk hitem' => ?_⟩
      · show (note _ _ _).producers.valueFor k = some p
        rw [note_producers _ _ hnot]
        obtain ⟨item, hitem, hafter⟩ := hback hitem'
        rcases afterMove_producerToken hafter with heq | heq
        · exact h.producer k item p hitem (heq ▸ htok)
        · cases htok.symm.trans heq
      · obtain ⟨item, hitem, hafter⟩ := hback hitem'
        rcases mem_freed_note hnot hk with hfreed | ⟨who, rfl⟩
        · rcases afterMove_producerToken hafter with heq | heq
          · exact heq.trans (h.freed k item hfreed hitem)
          · exact heq
        · exact afterMove_free hafter
  · exact ⟨h.served, h.producer, h.freed⟩

end System

end HuaweiY5.GuiExt
