import HuaweiY5.GuiExt.Slots

/-!
# `GuiExt.Service` — transactions of any client

`onTransact` takes the arguments of a call from the parcel as they are and hands them to the pool. `acquire`, `request`,
`release` and `disconnect` use the usage and the display type as indices, at least in the names they log, and no one
checks them.
-/

namespace HuaweiY5.GuiExt

open Option GuiExtPool PoolItem
open Effect (index)

inductive Code
  | alloc
  | free
  | acquire
  | request
  | release
  | disconnect
  | configDisplay
  | regDump
  | unregDump
  | other
  deriving DecidableEq

/-- A transaction: who sends it, whether its interface token is that of the service, and what the parcel holds. -/
structure Transaction where
  code : Code
  sender : Binder
  interfaceOk : Bool
  token : Binder
  args : List UInt32
  deriving DecidableEq

/-- `readInt32`: it gives 0 behind the end of the parcel. -/
def Transaction.readInt32 (t : Transaction) (n : Nat) : UInt32 := t.args.getD n 0

/-- `BnGuiExtService::onTransact`: the call of the pool that a transaction is, with what a queue answers to it. -/
def onTransact (t : Transaction) (a : Dequeued) : Option PoolMove :=
  if t.interfaceOk then
    match t.code with
    | .alloc => some (.alloc t.token (t.readInt32 0))
    | .free => some (.free t.sender (t.readInt32 0))
    | .acquire => some (.acquire t.token (t.readInt32 0) (t.readInt32 1) (t.readInt32 2) a)
    | .request => some (.request (t.readInt32 0) (t.readInt32 1) (t.readInt32 2))
    | .release => some (.release t.sender (t.readInt32 0) (t.readInt32 1) (t.readInt32 2) (t.readInt32 3))
    | .disconnect => some (.disconnect t.sender (t.readInt32 0) (t.readInt32 1) (t.readInt32 2))
    | .configDisplay =>
      some (.configDisplay (t.readInt32 0) (decide (t.readInt32 1 ≠ 0)) (t.readInt32 2) (t.readInt32 3)
        (t.readInt32 4))
    | .regDump | .unregDump | .other => none
  else none

inductive ServiceEvent
  | transact (t : Transaction) (a : Dequeued)
  | producerDied (who : Binder)
  | consumerDied (who : Binder) (poolId : UInt32)
  deriving DecidableEq

def ServiceEvent.move : ServiceEvent → Option PoolMove
  | .transact t a => onTransact t a
  | .producerDied who => some (.producerDied who)
  | .consumerDied who poolId => some (.consumerDied who poolId)

def serve (pool : GuiExtPool) (event : ServiceEvent) : GuiExtPool × List Effect :=
  match event.move with
  | some move => pool.step move
  | none => (pool, [])

/-- Transactions and death notifications in any order. -/
def service : Transducer GuiExtPool ServiceEvent Effect where
  init := GuiExtPool.init
  enabled := fun _ _ => True
  step := serve

/-! ## The indices -/

def InRange (x : Transducer.Entry GuiExtPool ServiceEvent Effect) : Prop :=
  ∀ table i, index table i ∈ x.out → i.toNat < table.size

/-- The call of a transaction, if it is one of those, names a usage and a display type that there are. -/
def Sane (event : ServiceEvent) : Prop :=
  ∀ usage type, event.move.bind named = some (usage, type) → usage.toNat < usageMax ∧ type.toNat < numDisplayTypes

variable {pool : GuiExtPool}

theorem Served.serve (h : Served pool) (event : ServiceEvent) : Served (service.next pool event) := by
  show Served (GuiExt.serve pool event).1
  unfold GuiExt.serve
  split
  · exact h.step _
  · exact h

theorem logged_mem_step (pool : GuiExtPool) {move : PoolMove} {usage type : UInt32} (h : named move = some (usage, type)) :
    index .usageName usage ∈ (pool.step move).2 ∧ index .displayType type ∈ (pool.step move).2 := by
  have hlogged : ∀ l r : List Effect, index .usageName usage ∈ l ++ logged usage type ++ r ∧
      index .displayType type ∈ l ++ logged usage type ++ r := by
    intro l r
    simp [logged]
  cases move with
  | acquire token poolId usage' type' a =>
    obtain ⟨rfl, rfl⟩ := Prod.mk.inj (some.inj h)
    show _ ∈ (pool.acquire _ _ _ _ _).2 ∧ _ ∈ (pool.acquire _ _ _ _ _).2
    unfold GuiExtPool.acquire
    split
    · exact hlogged [] _
    · exact hlogged _ _
  | request poolId usage' type' =>
    obtain ⟨rfl, rfl⟩ := Prod.mk.inj (some.inj h)
    show _ ∈ (pool.request _ _ _).2 ∧ _ ∈ (pool.request _ _ _).2
    unfold GuiExtPool.request
    split <;> exact hlogged [] _
  | release who poolId usage' type' buf =>
    obtain ⟨rfl, rfl⟩ := Prod.mk.inj (some.inj h)
    show _ ∈ (pool.release _ _ _ _).2 ∧ _ ∈ (pool.release _ _ _ _).2
    unfold GuiExtPool.release
    split <;> exact hlogged [] _
  | disconnect who poolId usage' type' =>
    obtain ⟨rfl, rfl⟩ := Prod.mk.inj (some.inj h)
    show _ ∈ (pool.disconnect _ _ _).2 ∧ _ ∈ (pool.disconnect _ _ _).2
    unfold GuiExtPool.disconnect
    split
    · exact hlogged [] _
    · exact hlogged _ _
  | alloc | free | configDisplay | producerDied | consumerDied => cases h

theorem shows_inRange (h : Served pool) {move : PoolMove}
    (hsane : ∀ usage type, named move = some (usage, type) → usage.toNat < usageMax ∧ type.toNat < numDisplayTypes)
    {table : Table} {i : UInt32} (hmem : index table i ∈ (pool.step move).2) : i.toNat < table.size := by
  generalize he : index table i = e at hmem
  cases shows_of_mem_step hmem with
  | returned | removed | allocated | looping => exact absurd he (by simp)
  | flag _ hi =>
    obtain ⟨rfl, rfl⟩ := index.inj he
    rw [UInt32.toNat_ofNat', Nat.mod_eq_of_lt (Nat.lt_of_lt_of_le hi (by decide))]
    exact hi
  | usageName hm =>
    obtain ⟨rfl, rfl⟩ := index.inj he
    exact (hsane _ _ hm).1
  | displayType hm =>
    obtain ⟨rfl, rfl⟩ := index.inj he
    exact (hsane _ _ hm).2
  | created _ _ hcases | acquired _ _ _ _ hcases =>
    subst he
    rcases hcases with heq | heq <;> obtain ⟨rfl, rfl⟩ := index.inj heq <;> decide
  | disconnected who poolId usage type =>
    obtain ⟨rfl, rfl⟩ := index.inj he
    exact (hsane _ _ rfl).1
  | counted who hitem hx =>
    -- the slots of an item are all for the hardware composer
    obtain ⟨rfl, rfl⟩ := index.inj he
    rw [(consumerDied_wellSlotted (h.2 _ _ hitem).slots who _ _ (KeyedVector.mem_items_iff.mp hx)).1]
    decide

theorem inRange_iff (h : Served pool) (event : ServiceEvent) : InRange (service.entry pool event) ↔ Sane event := by
  show (∀ table i, index table i ∈ (GuiExt.serve pool event).2 → i.toNat < table.size) ↔ _
  unfold Sane GuiExt.serve
  rcases event.move with _ | move
  · simp
  · refine ⟨fun hrange usage type hnamed => ?_, fun hsane table i hmem => shows_inRange h hsane hmem⟩
    obtain ⟨husage, htype⟩ := logged_mem_step pool hnamed
    exact ⟨hrange _ _ husage, hrange _ _ htype⟩

/-- **No index leaves its array exactly if every call names a usage and a display type that there are.** -/
theorem indices_in_range_iff {tr : List (Transducer.Entry GuiExtPool ServiceEvent Effect)} {pool : GuiExtPool}
    (h : service.Run tr pool) : (∀ x ∈ tr, InRange x) ↔ ∀ x ∈ tr, Sane x.event := by
  refine h.outputs_iff (M := service) (I := Served) (C := fun x => Sane x.event) (O := InRange) ?_ ?_ ?_
  · exact Served.init
  · exact fun _ event hs _ => inRange_iff hs event
  · exact fun _ event hs _ _ => hs.serve event

/-- A client that keeps to the usages and displays there are. -/
theorem indices_in_range_acquired :
    let r := service.exec [.transact ⟨.alloc, 1, true, 1, [0x800, 64, 64]⟩ ⟨false, 0⟩,
      .transact ⟨.acquire, 2, true, 2, [1, 1, 0]⟩ ⟨false, 0⟩, .transact ⟨.disconnect, 2, true, 2, [1, 1, 0]⟩ ⟨false, 0⟩]
    (∀ x ∈ r.1, InRange x) ∧ r.2.poolList.size = 1 := by
  intro r
  refine ⟨(indices_in_range_iff (service.run_exec (.of_forall (fun _ _ => trivial) _ _))).mpr ?_, by decide +kernel⟩
  refine Transducer.exec_along service (C := fun _ event => Sane event) ?_
  refine ⟨fun _ _ h => absurd h.symm (some_ne_none _), fun usage type h => ?_, fun usage type h => ?_, trivial⟩
  all_goals
    obtain ⟨rfl, rfl⟩ := Prod.mk.inj (some.inj h)
    decide

/-- A transaction of any client that disconnects the usage 7 writes behind the end of `mIsDisconnected`. -/
theorem index_out_of_range :
    let r := service.exec [.transact ⟨.alloc, 1, true, 1, [0x800, 64, 64]⟩ ⟨false, 0⟩,
      .transact ⟨.disconnect, 2, true, 2, [1, 7, 0]⟩ ⟨false, 0⟩]
    service.Run r.1 r.2 ∧ index .isDisconnected 7 ∈ Transducer.outs r.1 ∧ ¬∀ x ∈ r.1, InRange x := by
  intro r
  have hmem : index .isDisconnected 7 ∈ Transducer.outs r.1 := by decide +kernel
  refine ⟨service.run_exec (.of_forall (fun _ _ => trivial) _ _), hmem, fun hall => ?_⟩
  obtain ⟨x, hx, hindex⟩ := List.mem_flatMap.mp hmem
  exact absurd (hall x hx .isDisconnected 7 hindex) (by decide)

end HuaweiY5.GuiExt
