import HuaweiY5.GuiExt.PoolIds

/-!
# `GuiExt.Slots` — the slots and the flags of an item

Only buffers for the hardware composer are ever handed out, so all slots are of that usage, each under the key that its
usage, type and index make, and the observer in a slot is that of its holder. The loop of a consumer's observer goes
over the slots while it changes them; what it leaves is `bury` at every slot.
-/

namespace HuaweiY5.GuiExt

open Option
open KeyedVector (mem_items_iff valueFor_add valueFor_modify)

namespace PoolItem

/-! ## The slots -/

/-- A slot under its key: it is one for the hardware composer, and the observer is that of the holder. -/
def SlotOk (key : UInt32) (slot : ConsumerSlot) : Prop :=
  slot.usage = usageHwc ∧ key = poolCombinedId slot.usage slot.type slot.idx ∧ slot.observer = slot.token

def WellSlotted (item : PoolItem) : Prop := ∀ key slot, item.consumerList.valueFor key = some slot → SlotOk key slot

variable {key : UInt32} {slot : ConsumerSlot} {slots : KeyedVector UInt32 ConsumerSlot} {item : PoolItem}

theorem SlotOk.vacate (h : SlotOk key slot) : SlotOk key (vacate slot) := ⟨h.1, h.2.1, rfl⟩

def SlotsOk (slots : KeyedVector UInt32 ConsumerSlot) : Prop := ∀ key slot, slots.valueFor key = some slot → SlotOk key slot

theorem SlotsOk.add (h : SlotsOk slots) (hslot : SlotOk key slot) : SlotsOk (slots.add key slot) := by
  intro key' slot' hfind
  rw [valueFor_add] at hfind
  split_ifs at hfind with heq
  · rw [heq, ← some.inj hfind]
    exact hslot
  · exact h key' slot' hfind

theorem SlotsOk.vacate (h : SlotsOk slots) (key : UInt32) : SlotsOk (slots.modify key PoolItem.vacate) := by
  intro key' slot' hfind
  rw [valueFor_modify] at hfind
  split_ifs at hfind with heq
  · obtain ⟨slot, hslot, rfl⟩ := map_eq_some_iff.mp hfind
    exact (h key' slot hslot).vacate
  · exact h key' slot' hfind

theorem create_slots {P : UInt32 → ConsumerSlot → Prop}
    (hnew : ∀ type idx, P (poolCombinedId usageHwc type idx) ⟨usageHwc, type, idx, none, none⟩) (token : Binder)
    (needed : Bool) (id : UInt32) (displays : KeyedVector UInt32 DispInfo) :
    ∀ key slot, (create token needed id displays).consumerList.valueFor key = some slot → P key slot := by
  have hslots : ∀ (type bufNum : UInt32) (slots : KeyedVector UInt32 ConsumerSlot),
      (∀ key slot, slots.valueFor key = some slot → P key slot) →
      ∀ key slot, (prepareSlots usageHwc type bufNum slots).valueFor key = some slot → P key slot := by
    intro type bufNum
    unfold prepareSlots
    induction List.range bufNum.toNat with
    | nil => exact fun _ h => h
    | cons i is ih =>
      intro slots h
      apply ih
      dsimp only
      split
      · exact h
      · intro key slot hslot
        rw [valueFor_add] at hslot
        split_ifs at hslot with hkey
        · rw [hkey, ← some.inj hslot]
          exact hnew type _
        · exact h key slot hslot
  have hqueues : ∀ (queues : List (UInt32 × HwcBqSlot)) (slots : KeyedVector UInt32 ConsumerSlot),
      (∀ key slot, slots.valueFor key = some slot → P key slot) → ∀ key slot,
        (queues.foldl (fun slots x => prepareSlots usageHwc x.2.type x.2.bufNum slots) slots).valueFor key = some slot →
          P key slot := by
    intro queues
    induction queues with
    | nil => exact fun _ h => h
    | cons x queues ih => exact fun slots h => ih _ (hslots x.2.type x.2.bufNum slots h)
  exact hqueues _ .empty fun _ _ h => absurd h.symm (some_ne_none _)

theorem usage_of_producer {usage type : UInt32} (h : item.getIGraphicBufferProducer usage type = true) :
    usage = usageHwc := by
  unfold getIGraphicBufferProducer at h
  rw [Bool.and_eq_true, decide_eq_true_eq] at h
  exact h.1.1

/-- **What `acquire` does to an item.** It leaves it as it is, or it gives the buffer out: then it notes the holder, if
    the slot has none, and that the usage is connected. -/
theorem acquire_cases (token : Binder) (usage type : UInt32) (a : Dequeued) (item : PoolItem) :
    ((item.acquire token usage type a).1 = item ∧ (item.acquire token usage type a).2.1 ≠ .noError) ∨
    (usage = usageHwc ∧ a.wouldBlock = false ∧ (item.acquire token usage type a).2.1 = .noError ∧
      ∃ slot, item.consumerList.valueFor (poolCombinedId usage type a.buf.toUInt32) = some slot ∧
        (item.acquire token usage type a).1 =
          { item with
            consumerList :=
              if slot.token = none then
                item.consumerList.add (poolCombinedId usage type a.buf.toUInt32)
                  ⟨usage, type, a.buf.toUInt32, some token, some token⟩
              else item.consumerList
            isDisconnected := item.isDisconnected.setIfInBounds usage.toNat false }) := by
  unfold acquire
  split_ifs with hlacks hproducer hblock
  · exact .inl ⟨rfl, by simp⟩
  · exact .inl ⟨rfl, by simp⟩
  · exact .inl ⟨rfl, by simp⟩
  · have husage : usage = usageHwc := usage_of_producer (by simpa using hproducer)
    dsimp only
    rcases hslot : item.consumerList.valueFor (poolCombinedId usage type a.buf.toUInt32) with _ | slot
    · exact .inl ⟨rfl, by simp⟩
    · have hgiven : a.wouldBlock = false := by
        rw [Bool.or_eq_true, not_or, Bool.not_eq_true] at hblock
        exact hblock.1
      exact .inr ⟨husage, hgiven, rfl, slot, rfl, rfl⟩

/-- **What `release` does.** It leaves the item as it is, or it clears the slot. -/
theorem release_cases (usage type buf : UInt32) (item : PoolItem) :
    ((item.release usage type buf).1 = item ∧ (item.release usage type buf).2 ≠ .noError) ∨
    (usage = usageHwc ∧ (item.release usage type buf).2 = .noError ∧
      (item.release usage type buf).1 =
        { item with consumerList := item.consumerList.modify (poolCombinedId usage type buf) vacate }) := by
  unfold release
  split_ifs with hlacks hproducer
  · exact .inl ⟨rfl, by simp⟩
  · exact .inl ⟨rfl, by simp⟩
  · exact .inr ⟨usage_of_producer (by simpa using hproducer), rfl, rfl⟩

/-- **What `disconnect` does.** It leaves the item as it is, or it notes that the usage is disconnected. -/
theorem disconnect_cases (usage : UInt32) (item : PoolItem) :
    ((item.disconnect usage).1 = item ∧ (item.disconnect usage).2.1 ≠ .noError) ∨
    ((item.disconnect usage).2.1 = .noError ∧
      (item.disconnect usage).1 = { item with isDisconnected := item.isDisconnected.setIfInBounds usage.toNat true }) := by
  unfold disconnect
  split_ifs
  · exact .inl ⟨rfl, by simp⟩
  · exact .inr ⟨rfl, rfl⟩

/-! ## The death of a consumer -/

variable (who : Binder)

def bury (slot : ConsumerSlot) : ConsumerSlot := if slot.token = some who then vacate slot else slot

theorem SlotOk.bury (h : SlotOk key slot) (who : Binder) : SlotOk key (bury who slot) := by
  unfold PoolItem.bury
  split_ifs
  · exact h.vacate
  · exact h

theorem token_bury (slot : ConsumerSlot) :
    (bury who slot).token = if slot.token = some who then none else slot.token := by
  unfold bury
  split_ifs <;> rfl

theorem releaseAt_eq (item : PoolItem) (i : Nat) :
    releaseAt who item i = { item with consumerList := (releaseAt who item i).consumerList } := by
  unfold releaseAt
  split
  · split
    · rename_i key slot _ _
      rcases release_cases slot.usage slot.type slot.idx item with ⟨h, -⟩ | ⟨-, -, h⟩ <;> simp only [h]
    · rfl
  · rfl

/-- A round of the loop at a slot of the dead consumer: `release` and the code after it clear the same slot. -/
theorem releaseAt_consumerList (h : WellSlotted item) {who : Binder} {i : Nat}
    (hx : item.consumerList.items[i]? = some (key, slot)) (htok : slot.token = some who) :
    (releaseAt who item i).consumerList = item.consumerList.modify key vacate := by
  have hkey : poolCombinedId slot.usage slot.type slot.idx = key :=
    (h key slot (mem_items_iff.mp (List.mem_of_getElem? hx))).2.1.symm
  unfold releaseAt
  simp only [hx, htok, if_true]
  rcases release_cases slot.usage slot.type slot.idx item with ⟨hrel, -⟩ | ⟨-, -, hrel⟩
  · rw [hrel]
  · rw [hrel, hkey]
    exact KeyedVector.modify_modify _ _ _ fun _ => rfl

theorem releaseAt_getElem? (h : WellSlotted item) (who : Binder) (i j : Nat) :
    (releaseAt who item i).consumerList.items[j]? =
      if i = j then (item.consumerList.items[j]?).map fun x => (x.1, bury who x.2) else item.consumerList.items[j]? := by
  rcases hx : item.consumerList.items[i]? with _ | ⟨key, slot⟩
  · have hsame : releaseAt who item i = item := by simp [releaseAt, hx]
    rw [hsame]
    split_ifs with hij
    · rw [← hij, hx]
      rfl
    · rfl
  · by_cases htok : slot.token = some who
    · rw [releaseAt_consumerList h hx htok]
      refine (KeyedVector.getElem?_update vacate item.consumerList.ascending hx j).trans ?_
      split_ifs with hij
      · rw [← hij, hx]
        simp [bury, htok]
      · rfl
    · have hsame : releaseAt who item i = item := by simp [releaseAt, hx, htok]
      rw [hsame]
      split_ifs with hij
      · rw [← hij, hx]
        simp [bury, htok]
      · rfl

theorem releaseAt_wellSlotted (h : WellSlotted item) (who : Binder) (i : Nat) : WellSlotted (releaseAt who item i) := by
  intro key slot hslot
  obtain ⟨j, hj⟩ := List.mem_iff_getElem?.mp (mem_items_iff.mpr hslot)
  rw [releaseAt_getElem? h] at hj
  split_ifs at hj
  · obtain ⟨⟨key', slot'⟩, hx, heq⟩ := map_eq_some_iff.mp hj
    obtain ⟨rfl, rfl⟩ := Prod.mk.inj heq
    exact (h key' slot' (mem_items_iff.mp (List.mem_of_getElem? hx))).bury who
  · exact h key slot (mem_items_iff.mp (List.mem_of_getElem? hj))

theorem foldl_releaseAt_getElem? (h : WellSlotted item) (who : Binder) (n : Nat) :
    WellSlotted ((List.range n).foldl (releaseAt who) item) ∧
      ∀ j, ((List.range n).foldl (releaseAt who) item).consumerList.items[j]? =
        if j < n then (item.consumerList.items[j]?).map fun x => (x.1, bury who x.2) else item.consumerList.items[j]? := by
  induction n with
  | zero => exact ⟨h, fun j => rfl⟩
  | succ n ih =>
    obtain ⟨hok, hitems⟩ := ih
    rw [List.range_succ, List.foldl_append, List.foldl_cons, List.foldl_nil]
    refine ⟨releaseAt_wellSlotted hok who n, fun j => ?_⟩
    rw [releaseAt_getElem? hok, hitems j]
    rcases Nat.lt_trichotomy n j with hlt | heq | hgt
    · rw [if_neg (Nat.ne_of_lt hlt), if_neg (by omega), if_neg (by omega)]
    · subst heq
      rw [if_pos rfl, if_neg (by omega), if_pos (by omega)]
    · rw [if_neg (by omega), if_pos hgt, if_pos (by omega)]

/-- **The slots after the death of a consumer.** -/
theorem consumerDied_items (h : WellSlotted item) (who : Binder) :
    (item.consumerDied who).consumerList.items = item.consumerList.items.map fun x => (x.1, bury who x.2) := by
  apply List.ext_getElem?
  intro j
  show ((List.range item.consumerList.size).foldl (releaseAt who) item).consumerList.items[j]? = _
  rw [(foldl_releaseAt_getElem? h who _).2, List.getElem?_map]
  split_ifs with hj
  · rfl
  · rw [List.getElem?_eq_none (Nat.le_of_not_lt hj)]
    rfl

theorem consumerDied_valueFor (h : WellSlotted item) (who : Binder) (key : UInt32) :
    (item.consumerDied who).consumerList.valueFor key = (item.consumerList.valueFor key).map (bury who) := by
  have hiff : ∀ slot, (item.consumerDied who).consumerList.valueFor key = some slot ↔
      (item.consumerList.valueFor key).map (bury who) = some slot := by
    intro slot
    rw [← mem_items_iff, consumerDied_items h, List.mem_map, map_eq_some_iff]
    constructor
    · rintro ⟨⟨key', slot'⟩, hmem, heq⟩
      obtain ⟨rfl, rfl⟩ := Prod.mk.inj heq
      exact ⟨slot', mem_items_iff.mp hmem, rfl⟩
    · rintro ⟨slot', hfind, rfl⟩
      exact ⟨(key, slot'), mem_items_iff.mpr hfind, rfl⟩
  exact ext hiff

theorem consumerDied_producerToken (item : PoolItem) : (item.consumerDied who).producerToken = item.producerToken :=
  foldl_releaseAt (P := fun item' => item'.producerToken = item.producerToken)
    (fun item' i h => by rw [releaseAt_eq]; exact h) _ rfl

theorem consumerDied_wellSlotted (h : WellSlotted item) (who : Binder) : WellSlotted (item.consumerDied who) :=
  (foldl_releaseAt_getElem? h who _).1

/-! ## A step keeps the slots in order -/

theorem acquire_wellSlotted (h : WellSlotted item) (token : Binder) (usage type : UInt32) (a : Dequeued) :
    WellSlotted (item.acquire token usage type a).1 := by
  rcases acquire_cases token usage type a item with ⟨heq, -⟩ | ⟨rfl, -, -, slot, -, heq⟩
  · rw [heq]
    exact h
  · rw [heq]
    split_ifs
    · exact SlotsOk.add h ⟨rfl, rfl, rfl⟩
    · exact h

theorem release_wellSlotted (h : WellSlotted item) (usage type buf : UInt32) :
    WellSlotted (item.release usage type buf).1 := by
  rcases release_cases usage type buf item with ⟨heq, -⟩ | ⟨-, -, heq⟩
  · rw [heq]
    exact h
  · rw [heq]
    exact SlotsOk.vacate h _

theorem disconnect_wellSlotted (h : WellSlotted item) (usage : UInt32) : WellSlotted (item.disconnect usage).1 := by
  rcases disconnect_cases usage item with ⟨heq, -⟩ | ⟨-, heq⟩
  · rw [heq]
    exact h
  · rw [heq]
    exact h

/-! ## Who holds a slot -/

def TokenAt (item : PoolItem) (key : UInt32) (t : Binder) : Prop :=
  ∃ slot, item.consumerList.valueFor key = some slot ∧ slot.token = some t

section TokenAt

variable {item : PoolItem} {key : UInt32} {t : Binder}

theorem TokenAt.acquire (h : TokenAt item key t) (token : Binder) (usage type : UInt32) (a : Dequeued) :
    TokenAt (item.acquire token usage type a).1 key t := by
  obtain ⟨held, hheld, htok⟩ := h
  rcases acquire_cases token usage type a item with ⟨heq, -⟩ | ⟨-, -, -, slot, hslot, heq⟩
  · rw [heq]
    exact ⟨held, hheld, htok⟩
  · rw [heq]
    refine ⟨held, ?_, htok⟩
    split_ifs with hvacant
    · -- the slot that gets a holder had none, so it is another one
      rw [valueFor_add, if_neg]
      · exact hheld
      · intro hkey
        rw [hkey, hslot] at hheld
        rw [some.inj hheld, htok] at hvacant
        cases hvacant
    · exact hheld

variable {usage : UInt32}

theorem TokenAt.of_acquire {token : Binder} {type : UInt32} {a : Dequeued}
    (h : TokenAt (item.acquire token usage type a).1 key t) :
    TokenAt item key t ∨ t = token ∧ (item.acquire token usage type a).2.1 = .noError := by
  rcases acquire_cases token usage type a item with ⟨heq, -⟩ | ⟨-, -, hok, slot, hslot, heq⟩
  · rw [heq] at h
    exact .inl h
  · rw [heq] at h
    obtain ⟨held, hheld, htok⟩ := h
    have hheld' : (if slot.token = none then item.consumerList.add (poolCombinedId usage type a.buf.toUInt32)
        ⟨usage, type, a.buf.toUInt32, some token, some token⟩ else item.consumerList).valueFor key = some held := hheld
    split_ifs at hheld'
    · rw [valueFor_add] at hheld'
      split_ifs at hheld'
      · rw [← some.inj hheld'] at htok
        exact .inr ⟨(some.inj htok).symm, hok⟩
      · exact .inl ⟨held, hheld', htok⟩
    · exact .inl ⟨held, hheld', htok⟩

theorem TokenAt.release (h : TokenAt item key t) {type buf : UInt32}
    (hother : key = poolCombinedId usage type buf → (item.release usage type buf).2 ≠ .noError) :
    TokenAt (item.release usage type buf).1 key t := by
  obtain ⟨held, hheld, htok⟩ := h
  rcases release_cases usage type buf item with ⟨heq, -⟩ | ⟨-, hok, heq⟩
  · rw [heq]
    exact ⟨held, hheld, htok⟩
  · rw [heq]
    refine ⟨held, ?_, htok⟩
    rw [valueFor_modify, if_neg fun hkey => hother hkey hok]
    exact hheld

theorem TokenAt.of_release {type buf : UInt32} (h : TokenAt (item.release usage type buf).1 key t) :
    TokenAt item key t := by
  rcases release_cases usage type buf item with ⟨heq, -⟩ | ⟨-, -, heq⟩
  · rwa [heq] at h
  · rw [heq] at h
    obtain ⟨held, hheld, htok⟩ := h
    have hheld' : (item.consumerList.modify (poolCombinedId usage type buf) vacate).valueFor key = some held := hheld
    rw [valueFor_modify] at hheld'
    split_ifs at hheld'
    · obtain ⟨slot, -, rfl⟩ := map_eq_some_iff.mp hheld'
      cases htok
    · exact ⟨held, hheld', htok⟩

theorem tokenAt_disconnect : TokenAt (item.disconnect usage).1 key t ↔ TokenAt item key t := by
  rcases disconnect_cases usage item with ⟨heq, -⟩ | ⟨-, heq⟩
  · rw [heq]
  · rw [heq]
    exact Iff.rfl

theorem tokenAt_consumerDied (h : WellSlotted item) {who : Binder} :
    TokenAt (item.consumerDied who) key t ↔ TokenAt item key t ∧ t ≠ who := by
  unfold TokenAt
  rw [consumerDied_valueFor h]
  constructor
  · rintro ⟨slot', hslot', htok⟩
    obtain ⟨slot, hslot, rfl⟩ := map_eq_some_iff.mp hslot'
    rw [token_bury] at htok
    split_ifs at htok with hwho
    refine ⟨⟨slot, hslot, htok⟩, ?_⟩
    rintro rfl
    exact hwho htok
  · rintro ⟨⟨slot, hslot, htok⟩, hne⟩
    refine ⟨bury who slot, by rw [hslot]; rfl, ?_⟩
    rw [token_bury, htok, if_neg fun heq => hne (some.inj heq)]

theorem vacant_iff : item.Vacant ↔ ∀ key t, ¬TokenAt item key t := by
  constructor
  · rintro h key t ⟨slot, hslot, htok⟩
    exact absurd (htok.symm.trans (h (key, slot) (mem_items_iff.mpr hslot))) (some_ne_none t)
  · intro h x hx
    rcases htok : x.2.token with _ | t
    · rfl
    · exact absurd ⟨x.2, mem_items_iff.mp hx, htok⟩ (h x.1 t)

/-- **Who holds a slot after a move** held it before, and has not died in it, or has just acquired it. -/
theorem TokenAt.of_afterMove {k : UInt32} {move : PoolMove} {item' : PoolItem} (hs : WellSlotted item)
    (hmove : afterMove k move item = some item') (h : TokenAt item' key t) :
    TokenAt item key t ∧ move ≠ .consumerDied t k ∨
      ∃ usage type a, move = .acquire t k usage type a ∧ (item.acquire t usage type a).2.1 = .noError := by
  cases moved_of_afterMove hmove with
  | other hother => exact .inl ⟨h, fun heq => hother (by rw [heq]; rfl)⟩
  | freed | orphaned => exact .inl ⟨h, by simp⟩
  | acquired token usage type a =>
    rcases h.of_acquire with h | ⟨rfl, hok⟩
    · exact .inl ⟨h, by simp⟩
    · exact .inr ⟨usage, type, a, rfl, hok⟩
  | released => exact .inl ⟨h.of_release, by simp⟩
  | disconnected => exact .inl ⟨tokenAt_disconnect.mp h, by simp⟩
  | slotless who hsize =>
    -- an item without slots has no holder
    obtain ⟨slot, hslot, -⟩ := h
    have hmem := mem_items_iff.mpr hslot
    rw [List.eq_nil_of_length_eq_zero hsize] at hmem
    cases hmem
  | buried who =>
    obtain ⟨h, hne⟩ := (tokenAt_consumerDied hs).mp h
    exact .inl ⟨h, fun heq => hne (PoolMove.consumerDied.inj heq).1.symm⟩

end TokenAt

/-! ## The flags -/

def GpuIdle (item : PoolItem) : Prop := item.isDisconnected[0] = true

def HwcIdle (item : PoolItem) : Prop := item.isDisconnected[1] = true

theorem findIdx_lt_iff (flags : Vector Bool 2) :
    (flags.toList.findIdx fun flag => !flag) < 2 ↔ ¬(flags[0] = true ∧ flags[1] = true) := by
  obtain ⟨⟨l⟩, hl⟩ := flags
  match l, hl with
  | [x, y], _ => cases x <;> cases y <;> simp [List.findIdx_cons]

theorem abandoned_iff : item.Abandoned ↔ item.GpuIdle ∧ item.HwcIdle ∧ item.producerToken = none := by
  unfold Abandoned connected
  rw [findIdx_lt_iff, Classical.not_not, and_assoc]
  exact Iff.rfl

theorem acquire_gpuIdle (h : item.GpuIdle) (token : Binder) (usage type : UInt32) (a : Dequeued) :
    (item.acquire token usage type a).1.GpuIdle := by
  rcases acquire_cases token usage type a item with ⟨heq, -⟩ | ⟨rfl, -, -, slot, -, heq⟩
  · rw [heq]
    exact h
  · rw [heq]
    show (item.isDisconnected.setIfInBounds 1 false)[0] = true
    rw [Vector.getElem_setIfInBounds]
    exact h

theorem disconnect_gpuIdle (h : item.GpuIdle) (usage : UInt32) : (item.disconnect usage).1.GpuIdle := by
  rcases disconnect_cases usage item with ⟨heq, -⟩ | ⟨-, heq⟩
  · rw [heq]
    exact h
  · rw [heq]
    show (item.isDisconnected.setIfInBounds usage.toNat true)[0] = true
    rw [Vector.getElem_setIfInBounds]
    split_ifs
    · rfl
    · exact h

theorem release_flags (usage type buf : UInt32) (item : PoolItem) :
    (item.release usage type buf).1.isDisconnected = item.isDisconnected := by
  rcases release_cases usage type buf item with ⟨heq, -⟩ | ⟨-, -, heq⟩ <;> rw [heq]

theorem foldl_flags (slots : List (UInt32 × ConsumerSlot)) (husage : ∀ x ∈ slots, x.2.usage = usageHwc)
    (flags : Vector Bool usageMax) :
    (slots.foldl (fun flags x => if x.2.token = none then flags else flags.setIfInBounds x.2.usage.toNat false)
        flags)[0] = flags[0] ∧
      ((slots.foldl (fun flags x => if x.2.token = none then flags else flags.setIfInBounds x.2.usage.toNat false)
        flags)[1] = true ↔ flags[1] = true ∧ ∀ x ∈ slots, x.2.token = none) := by
  induction slots generalizing flags with
  | nil => simp
  | cons x slots ih =>
    obtain ⟨hx, htail⟩ := List.forall_mem_cons.mp husage
    obtain ⟨h0, h1⟩ := ih htail (if x.2.token = none then flags else flags.setIfInBounds x.2.usage.toNat false)
    rw [List.foldl_cons, h0, h1, List.forall_mem_cons, hx]
    by_cases htok : x.2.token = none
    · simp [htok]
    · simp only [htok, false_and, and_false, iff_false]
      show (flags.setIfInBounds 1 false)[0] = flags[0] ∧ ¬((flags.setIfInBounds 1 false)[1] = true ∧ _)
      simp

theorem consumerDied_gpuIdle (h : WellSlotted item) (who : Binder) : (item.consumerDied who).GpuIdle := by
  have hok := (foldl_releaseAt_getElem? h who item.consumerList.size).1
  refine ((foldl_flags _ (fun x hx => ?_) _).1).trans rfl
  exact (hok x.1 x.2 (mem_items_iff.mp hx)).1

theorem consumerDied_hwcIdle_iff (h : WellSlotted item) (who : Binder) :
    (item.consumerDied who).HwcIdle ↔ (item.consumerDied who).Vacant := by
  have hok := (foldl_releaseAt_getElem? h who item.consumerList.size).1
  refine ((foldl_flags _ (fun x hx => ?_) _).2).trans ?_
  · exact (hok x.1 x.2 (mem_items_iff.mp hx)).1
  · exact ⟨fun h => h.2, fun h => ⟨rfl, h⟩⟩

/-! ## Every item -/

/-- What holds of every item: its slots are in order, and the GPU is not connected. -/
structure Sound (item : PoolItem) : Prop where
  slots : WellSlotted item
  gpuIdle : item.GpuIdle

theorem create_sound (token : Binder) (needed : Bool) (id : UInt32) (displays : KeyedVector UInt32 DispInfo) :
    Sound (create token needed id displays) :=
  ⟨create_slots (fun _ _ => ⟨rfl, rfl, rfl⟩) token needed id displays, rfl⟩

/-- **A step keeps the items sound.** -/
theorem afterMove_sound {k : UInt32} {move : PoolMove} {item' : PoolItem} (hitem : Sound item)
    (h : afterMove k move item = some item') : Sound item' := by
  refine afterMove_rule (P := Sound) ?_ ?_ ?_ ?_ ?_ hitem h
  · exact fun _ hs => ⟨hs.slots, hs.gpuIdle⟩
  · exact fun _ token usage type a hs =>
      ⟨acquire_wellSlotted hs.slots token usage type a, acquire_gpuIdle hs.gpuIdle token usage type a⟩
  · intro item usage type buf hs
    refine ⟨release_wellSlotted hs.slots usage type buf, ?_⟩
    rw [GpuIdle, release_flags]
    exact hs.gpuIdle
  · exact fun _ usage hs => ⟨disconnect_wellSlotted hs.slots usage, disconnect_gpuIdle hs.gpuIdle usage⟩
  · exact fun _ who hs => ⟨consumerDied_wellSlotted hs.slots who, consumerDied_gpuIdle hs.slots who⟩

end PoolItem

open GuiExtPool PoolItem

def Served (pool : GuiExtPool) : Prop := Numbered pool ∧ ∀ k item, pool.poolList.valueFor k = some item → Sound item

theorem Served.step {pool : GuiExtPool} (h : Served pool) (move : PoolMove) : Served (pool.step move).1 :=
  ⟨h.1.step move, forall_items_step h.1.named create_sound (fun _ _ _ _ => afterMove_sound) h.2 move⟩

theorem Served.init : Served GuiExtPool.init := ⟨Numbered.init, fun _ _ hitem => absurd hitem.symm (some_ne_none _)⟩

end HuaweiY5.GuiExt
