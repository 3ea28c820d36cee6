import HuaweiY5.GuiExt.System

/-!
# `GuiExt.Leaks` — items that no one needs go away

An item without producer goes when the flag of its usage is reset: by a consumer that disconnects, or when a death makes
the flags be counted anew. The death of a consumer is noticed by the observer in a slot it holds. So a consumer that has
given all its buffers back and dies without a `disconnect` leaves the flag down for ever.
-/

namespace HuaweiY5.GuiExt

open List Option GuiExtPool PoolItem
open KeyedVector (mem_items_iff)

variable {k : UInt32} {item item' : PoolItem} {move : PoolMove}

/-! ## One item -/

theorem acquire_hwcIdle {token : Binder} {usage type : UInt32} {a : Dequeued}
    (h : (item.acquire token usage type a).2.1 = .noError) : ¬(item.acquire token usage type a).1.HwcIdle := by
  rcases acquire_cases token usage type a item with ⟨-, herr⟩ | ⟨rfl, -, -, slot, -, heq⟩
  · exact absurd h herr
  · rw [heq]
    show ¬(item.isDisconnected.setIfInBounds 1 false)[1] = true
    simp

theorem acquire_of_error {token : Binder} {usage type : UInt32} {a : Dequeued}
    (h : (item.acquire token usage type a).2.1 ≠ .noError) : (item.acquire token usage type a).1 = item := by
  rcases acquire_cases token usage type a item with ⟨heq, -⟩ | ⟨-, -, hok, -⟩
  · exact heq
  · exact absurd hok h

/-- **An item that is still there is not abandoned.** -/
theorem settled_afterMove (hs : Sound item) (h : ¬item.Abandoned) (hmove : afterMove k move item = some item') :
    ¬item'.Abandoned := by
  cases moved_of_afterMove hmove with
  | other | slotless => exact h
  | freed _ hkept | orphaned _ hkept | disconnected _ _ _ hkept => exact hkept
  | acquired token usage type a =>
    by_cases hok : (item.acquire token usage type a).2.1 = .noError
    · exact fun hab => acquire_hwcIdle hok (abandoned_iff.mp hab).2.1
    · rwa [acquire_of_error hok]
  | released who usage type buf =>
    rw [abandoned_iff, GpuIdle, HwcIdle, release_flags, System.release_producerToken]
    exact fun hab => h (abandoned_iff.mpr hab)
  | buried who hkept =>
    exact fun hab => hkept ((consumerDied_hwcIdle_iff hs.slots who).mp (abandoned_iff.mp hab).2.1) hab

theorem create_vacant (token : Binder) (needed : Bool) (poolId : UInt32) (displays : KeyedVector UInt32 DispInfo) :
    ∀ key t, ¬TokenAt (create token needed poolId displays) key t := by
  rintro key t ⟨slot, hslot, htok⟩
  have hnone : slot.token = none :=
    create_slots (P := fun _ slot => slot.token = none) (fun _ _ => rfl) token needed poolId displays key slot hslot
  cases htok.symm.trans hnone

/-! ## Runs -/

namespace System

/-- A tidy step: a consumer disconnects a usage there is, and has no slot of it left; what is released is not the slot of
    a dead consumer; and a consumer that dies without having disconnected has a slot. -/
def Tidy (s : System) : SystemMove → Prop
  | .call (.release _ poolId usage type buf) =>
    ∀ x ∈ s.pool.poolList.items, x.1 = poolId → ∀ y ∈ x.2.consumerList.items,
      y.1 = poolCombinedId usage type buf → ∀ t ∈ s.dead, y.2.token ≠ some t
  | .call (.disconnect who poolId usage _) =>
    usage.toNat < usageMax ∧ ∀ x ∈ s.pool.poolList.items, x.1 = poolId → ∀ y ∈ x.2.consumerList.items,
      y.2.usage = usage → y.2.token ≠ some who
  | .died who =>
    ∀ j ∈ s.joined, j.token = who → ∀ x ∈ s.pool.poolList.items, x.1 = j.poolId →
      ∃ y ∈ x.2.consumerList.items, y.2.observer = some who
  | _ => True

/-- All deaths have been notified that an observer could notice. -/
def Delivered (s : System) : Prop :=
  ∀ k item, s.pool.poolList.valueFor k = some item → ∀ t ∈ s.dead,
    (s.producers.valueFor k = some t → t ∈ s.noticed) ∧
      ((∃ y ∈ item.consumerList.items, y.2.observer = some t) → (t, k) ∈ s.told)

/-- The law: when the deaths have been notified, an item whose producer has freed it or died has a living consumer that
    has acquired from it and not disconnected. -/
def NoLeak (s : System) : Prop :=
  Delivered s → ∀ k item, s.pool.poolList.valueFor k = some item → Gone s k →
    ∃ j ∈ s.joined, j.poolId = k ∧ j.token ∉ s.dead

/-- The flag of an item is accounted for: there is a living consumer, or a dead one whose observer is still there. -/
def Accounted (joined : List Joined) (dead : List Binder) (k : UInt32) (item : PoolItem) : Prop :=
  (∃ j ∈ joined, j.poolId = k ∧ j.token ∉ dead) ∨ ∃ key t, TokenAt item key t ∧ t ∈ dead

structure Tracked (s : System) : Prop where
  base : Base s
  settled : ∀ k item, s.pool.poolList.valueFor k = some item → ¬item.Abandoned
  usage : ∀ j ∈ s.joined, j.usage = usageHwc
  slots : ∀ k item key t, s.pool.poolList.valueFor k = some item → TokenAt item key t → t ∉ s.dead →
    ⟨t, k, usageHwc⟩ ∈ s.joined
  flag : ∀ k item, s.pool.poolList.valueFor k = some item → ¬item.HwcIdle → Accounted s.joined s.dead k item
  noticed : ∀ t ∈ s.noticed, t ∈ s.dead ∧ ∀ k item, s.pool.poolList.valueFor k = some item → item.producerToken ≠ some t
  told : ∀ t k, (t, k) ∈ s.told → t ∈ s.dead ∧ ∀ item key, s.pool.poolList.valueFor k = some item → ¬TokenAt item key t

variable {s : System}

theorem Tracked.noLeak (h : Tracked s) : NoLeak s := by
  intro hdelivered k item hitem hgone
  have hsound := h.base.served.2 k item hitem
  -- the producer is noticed to be gone
  have htok : item.producerToken = none := by
    rcases htok : item.producerToken with _ | p
    · rfl
    · have hp := h.base.producer k item p hitem htok
      rcases hgone with hfreed | ⟨p', hp', hdead⟩
      · exact absurd (htok.symm.trans (h.base.freed k item hfreed hitem)) (some_ne_none p)
      · obtain rfl : p = p' := some.inj (hp.symm.trans hp')
        have hnoticed := (hdelivered k item hitem p hdead).1 hp
        exact absurd htok ((h.noticed p hnoticed).2 k item hitem)
  have hdown : ¬item.HwcIdle := fun hidle => h.settled k item hitem (abandoned_iff.mpr ⟨hsound.gpuIdle, hidle, htok⟩)
  rcases h.flag k item hitem hdown with hlive | ⟨key, t, ⟨slot, hslot, hslottok⟩, hdead⟩
  · exact hlive
  · have hobserver : slot.observer = some t := (hsound.slots key slot hslot).2.2.trans hslottok
    have htold := (hdelivered k item hitem t hdead).2 ⟨(key, slot), mem_items_iff.mpr hslot, hobserver⟩
    exact absurd ⟨slot, hslot, hslottok⟩ ((h.told t k htold).2 item key hitem)

theorem Accounted.mono {joined joined' : List Joined} {dead : List Binder} (h : Accounted joined dead k item)
    (hjoined : ∀ j ∈ joined, j.poolId = k → j ∈ joined')
    (hslots : ∀ key t, TokenAt item key t → t ∈ dead → TokenAt item' key t) : Accounted joined' dead k item' := by
  rcases h with ⟨j, hj, hpool, hlive⟩ | ⟨key, t, htok, hdead⟩
  · exact .inl ⟨j, hjoined j hj hpool, hpool, hlive⟩
  · exact .inr ⟨key, t, hslots key t htok hdead, hdead⟩

/-- **The flag is accounted for after a move.** -/
theorem Tracked.flag_step (h : Tracked s) (hen : Enabled s (.call move)) (hc : Tidy s (.call move))
    (hitem : s.pool.poolList.valueFor k = some item) (hmove : afterMove k move item = some item')
    (hdown : ¬item'.HwcIdle) : Accounted (note (s.pool.step move).2 s move).joined s.dead k item' := by
  -- the flag was down before, and no one has disconnected
  have hsame : ¬item.HwcIdle →
      (∀ who usage type, move = .disconnect who k usage type → Accepted (s.pool.step move).2 → usage ≠ usageHwc) →
      (∀ key t, TokenAt item key t → t ∈ s.dead → TokenAt item' key t) →
      Accounted (note (s.pool.step move).2 s move).joined s.dead k item' := by
    intro hd hjoined hslots
    refine (h.flag k item hitem hd).mono (fun j hj hpool => ?_) hslots
    subst hpool
    refine (mem_joined_note hj hitem).resolve_right ?_
    rintro ⟨type, heq, hacc⟩
    exact hjoined _ _ _ heq hacc (h.usage j hj)
  cases moved_of_afterMove hmove with
  | other hother => exact hsame hdown (fun _ _ _ heq => absurd (by rw [heq]; rfl) hother) fun _ _ ht _ => ht
  | freed | orphaned | slotless => exact hsame hdown (by simp) fun _ _ ht _ => ht
  | acquired token usage type a =>
    by_cases hok : (item.acquire token usage type a).2.1 = .noError
    · -- the consumer that has just acquired is alive
      have hacc : Accepted (s.pool.step (.acquire token k usage type a)).2 :=
        (accepted_acquire s.pool).mpr ⟨item, hitem, hok⟩
      refine .inl ⟨⟨token, k, usage⟩, ?_, rfl, hen⟩
      rw [note, if_pos hacc]
      exact mem_cons_self
    · rw [acquire_of_error hok] at hdown hsame ⊢
      exact hsame hdown (by simp) fun _ _ ht _ => ht
  | released who usage type buf =>
    rw [HwcIdle, release_flags] at hdown
    refine hsame hdown (by simp) fun key t ht hdead => ht.release fun hkey _ => ?_
    obtain ⟨slot, hslot, htok⟩ := ht
    exact hc (k, item) (mem_items_iff.mpr hitem) rfl (key, slot) (mem_items_iff.mpr hslot)
      hkey t hdead htok
  | disconnected who usage type =>
    rcases disconnect_cases usage item with ⟨heq, herr⟩ | ⟨hok, heq⟩
    · rw [heq] at hdown hsame ⊢
      refine hsame hdown (fun _ _ _ _ hacc => ?_) fun _ _ ht _ => ht
      obtain ⟨i, hi, hok⟩ := (accepted_disconnect s.pool).mp hacc
      obtain rfl := some.inj (hitem.symm.trans hi)
      exact absurd hok herr
    · have hdown' : ¬(item.isDisconnected.setIfInBounds usage.toNat true)[1] = true := by rwa [heq] at hdown
      -- had the usage of the hardware composer been disconnected, its flag would not be down
      have husage : usage ≠ usageHwc := by
        rintro rfl
        exact hdown' (by show (item.isDisconnected.setIfInBounds 1 true)[1] = true; simp)
      refine hsame ?_ (fun _ _ _ heq _ => ?_) fun key t ht _ => tokenAt_disconnect.mpr ht
      · have hne : usage.toNat ≠ 1 := fun h1 => husage (UInt32.toNat_inj.mp h1)
        rwa [Vector.getElem_setIfInBounds, if_neg hne] at hdown'
      · cases heq
        exact husage
  | buried who =>
    -- the flags are counted anew, and the flag is down because of a holder
    have hsound := h.base.served.2 k item hitem
    rw [consumerDied_hwcIdle_iff hsound.slots, vacant_iff] at hdown
    simp only [not_forall, Classical.not_not] at hdown
    obtain ⟨key, t, ht⟩ := hdown
    by_cases hdead : t ∈ s.dead
    · exact .inr ⟨key, t, ht, hdead⟩
    · have hbefore := ((tokenAt_consumerDied hsound.slots).mp ht).1
      exact .inl ⟨_, h.slots k item key t hitem hbefore hdead, rfl, hdead⟩

theorem Tracked.slots_step (h : Tracked s) (hc : Tidy s (.call move)) (hitem : s.pool.poolList.valueFor k = some item)
    (hmove : afterMove k move item = some item') {key : UInt32} {t : Binder} (ht : TokenAt item' key t)
    (hlive : t ∉ s.dead) : ⟨t, k, usageHwc⟩ ∈ (note (s.pool.step move).2 s move).joined := by
  have hsound := h.base.served.2 k item hitem
  rcases ht.of_afterMove hsound.slots hmove with ⟨hbefore, -⟩ | ⟨usage, type, a, rfl, hok⟩
  · refine (mem_joined_note (h.slots k item key t hitem hbefore hlive) hitem).resolve_right ?_
    rintro ⟨type, rfl, -⟩
    -- who disconnects has no slot left
    obtain ⟨slot, hslot, htok⟩ := hbefore
    exact hc.2 (k, item) (mem_items_iff.mpr hitem) rfl (key, slot)
      (mem_items_iff.mpr hslot) (hsound.slots key slot hslot).1 htok
  · have hacc : Accepted (s.pool.step (.acquire t k usage type a)).2 := (accepted_acquire s.pool).mpr ⟨item, hitem, hok⟩
    have husage : usage = usageHwc := by
      rcases acquire_cases t usage type a item with ⟨-, herr⟩ | ⟨husage, -⟩
      · exact absurd hok herr
      · exact husage
    rw [note, if_pos hacc, husage]
    exact mem_cons_self

theorem Tracked.usage_step (h : Tracked s) {j : Joined} (hj : j ∈ (note (s.pool.step move).2 s move).joined) :
    j.usage = usageHwc := by
  cases move with
  | alloc token usage =>
    simp only [note] at hj
    split at hj
    · exact h.usage j (mem_filter.mp hj).1
    · exact h.usage j hj
  | request | configDisplay | producerDied | consumerDied => exact h.usage j hj
  | free | release =>
    simp only [note] at hj
    split_ifs at hj <;> exact h.usage j hj
  | acquire token poolId usage type a =>
    simp only [note] at hj
    split_ifs at hj with hacc
    · rcases mem_cons.mp hj with rfl | hj
      · obtain ⟨item, -, hok⟩ := (accepted_acquire s.pool).mp hacc
        rcases acquire_cases token usage type a item with ⟨-, herr⟩ | ⟨husage, -⟩
        · exact absurd hok herr
        · exact husage
      · exact h.usage j hj
    · exact h.usage j hj
  | disconnect =>
    simp only [note] at hj
    split_ifs at hj
    · exact h.usage j (mem_filter.mp hj).1
    · exact h.usage j hj

theorem Tracked.noticed_step (h : Tracked s) (hen : Enabled s (.call move)) {t : Binder}
    (ht : t ∈ (note (s.pool.step move).2 s move).noticed) :
    t ∈ s.dead ∧ ∀ k item', (s.pool.step move).1.poolList.valueFor k = some item' → item'.producerToken ≠ some t := by
  -- it was notified before, or it is now
  have hcases : t ∈ s.noticed ∨ move = .producerDied t := by
    cases move with
    | request | configDisplay | consumerDied => exact .inl ht
    | alloc | free | acquire | release | disconnect =>
      simp only [note] at ht
      split at ht <;> exact .inl ht
    | producerDied who =>
      rcases mem_cons.mp ht with rfl | ht
      · exact .inr rfl
      · exact .inl ht
  have hdead : t ∈ s.dead := by
    rcases hcases with hold | rfl
    · exact (h.noticed t hold).1
    · exact hen.1
  refine ⟨hdead, fun k item' hitem' htok => ?_⟩
  rcases item_after_step h.base.served.1.named hitem' with
    ⟨token, grallocUsage, needed, displays, rfl, -, -, rfl⟩ | ⟨item, hitem, hmoved⟩
  · exact hen (some.inj htok ▸ hdead)
  · rcases hcases with hold | rfl
    · rcases afterMove_producerToken hmoved with heq | heq
      · exact (h.noticed t hold).2 k item hitem (heq ▸ htok)
      · cases htok.symm.trans heq
    · simp only [afterMove] at hmoved
      split_ifs at hmoved with hprod
      · rw [(settle_eq_some hmoved).1] at htok
        cases htok
      · exact hprod (some.inj hmoved ▸ htok)

theorem Tracked.told_step (h : Tracked s) (hen : Enabled s (.call move)) {t : Binder}
    (ht : (t, k) ∈ (note (s.pool.step move).2 s move).told) :
    t ∈ s.dead ∧ ∀ item' key, (s.pool.step move).1.poolList.valueFor k = some item' → ¬TokenAt item' key t := by
  have hcases : (t, k) ∈ s.told ∨ move = .consumerDied t k := by
    cases move with
    | alloc =>
      simp only [note] at ht
      split at ht
      · exact .inl (mem_filter.mp ht).1
      · exact .inl ht
    | request | configDisplay | producerDied => exact .inl ht
    | free | acquire | release | disconnect =>
      simp only [note] at ht
      split_ifs at ht <;> exact .inl ht
    | consumerDied who poolId =>
      rcases mem_cons.mp ht with heq | ht
      · obtain ⟨rfl, rfl⟩ := Prod.mk.inj heq
        exact .inr rfl
      · exact .inl ht
  have hdead : t ∈ s.dead := by
    rcases hcases with hold | rfl
    · exact (h.told t k hold).1
    · exact hen.1
  refine ⟨hdead, fun item' key hitem' htok => ?_⟩
  rcases item_after_step h.base.served.1.named hitem' with
    ⟨token, grallocUsage, needed, displays, -, -, -, rfl⟩ | ⟨item, hitem, hmoved⟩
  · exact create_vacant token needed k displays key t htok
  · rcases htok.of_afterMove (h.base.served.2 k item hitem).slots hmoved with ⟨hbefore, hne⟩ | ⟨usage, type, a, rfl, -⟩
    · rcases hcases with hold | rfl
      · exact (h.told t k hold).2 item key hitem hbefore
      · exact hne rfl
    · -- the dead do not acquire
      exact hen hdead

/-- **One step.** -/
theorem Tracked.step (h : Tracked s) {move : SystemMove} (hen : Enabled s move) (hc : Tidy s move) :
    Tracked (machine.next s move) := by
  rcases move with move | who
  · have hnamed := h.base.served.1.named
    have hdead : (machine.next s (.call move)).dead = s.dead := note_dead _ s move
    refine ⟨h.base.step _, fun k item' hitem' => ?_, fun j hj => h.usage_step hj, fun k item' key t hitem' ht hlive => ?_,
      fun k item' hitem' hdown => ?_, fun t ht => ?_, fun t k ht => ?_⟩
    · rcases item_after_step hnamed hitem' with ⟨token, grallocUsage, needed, displays, -, -, -, rfl⟩ | ⟨item, hitem, hmoved⟩
      · exact fun hab => absurd (abandoned_iff.mp hab).2.2 (some_ne_none token)
      · exact settled_afterMove (h.base.served.2 k item hitem) (h.settled k item hitem) hmoved
    · rcases item_after_step hnamed hitem' with ⟨token, grallocUsage, needed, displays, -, -, -, rfl⟩ | ⟨item, hitem, hmoved⟩
      · exact absurd ht (create_vacant token needed k displays key t)
      · exact h.slots_step hc hitem hmoved ht (hdead ▸ hlive)
    · rw [hdead]
      rcases item_after_step hnamed hitem' with ⟨token, grallocUsage, needed, displays, -, -, -, rfl⟩ | ⟨item, hitem, hmoved⟩
      · exact absurd rfl hdown
      · exact h.flag_step hen hc hitem hmoved hdown
    · rw [hdead]
      exact h.noticed_step hen ht
    · rw [hdead]
      exact h.told_step hen ht
  · -- who dies without having disconnected has a slot, with an observer
    refine ⟨h.base.step _, h.settled, h.usage, fun k item key t hitem ht hlive => ?_, fun k item hitem hdown => ?_,
      fun t ht => ?_, fun t k ht => ?_⟩
    · exact h.slots k item key t hitem ht fun hdead => hlive (mem_cons_of_mem _ hdead)
    · rcases h.flag k item hitem hdown with ⟨j, hj, rfl, hlive⟩ | ⟨key, t, ht, hdead⟩
      · by_cases hwho : j.token = who
        · obtain ⟨⟨key, slot⟩, hy, hobserver⟩ := hc j hj hwho (j.poolId, item) (mem_items_iff.mpr hitem) rfl
          have hslot := mem_items_iff.mp hy
          have htok := ((h.base.served.2 _ _ hitem).slots key slot hslot).2.2.symm.trans hobserver
          exact .inr ⟨key, who, ⟨slot, hslot, htok⟩, mem_cons_self⟩
        · refine .inl ⟨j, hj, rfl, fun hdead => ?_⟩
          rcases mem_cons.mp hdead with heq | hdead
          · exact hwho heq
          · exact hlive hdead
      · exact .inr ⟨key, t, ht, mem_cons_of_mem _ hdead⟩
    · exact ⟨mem_cons_of_mem _ (h.noticed t ht).1, (h.noticed t ht).2⟩
    · exact ⟨mem_cons_of_mem _ (h.told t k ht).1, (h.told t k ht).2⟩

theorem Tracked.init : Tracked System.init where
  base := Base.init
  settled := fun _ _ hitem => absurd hitem.symm (some_ne_none _)
  usage := fun _ hj => absurd hj not_mem_nil
  slots := fun _ _ _ _ hitem => absurd hitem.symm (some_ne_none _)
  flag := fun _ _ hitem => absurd hitem.symm (some_ne_none _)
  noticed := fun _ ht => absurd ht not_mem_nil
  told := fun _ _ ht => absurd ht not_mem_nil

/-- **Items do not leak.** After every run of tidy steps, when the deaths have been notified that an observer could
    notice: an item whose producer has freed it or died is in the list only if a living consumer has acquired from it and
    not disconnected. -/
theorem items_do_not_leak {tr : List (Transducer.Entry System SystemMove Effect)} {s : System} (h : machine.Run tr s)
    (hc : ∀ x ∈ tr, Tidy x.pre x.event) : NoLeak s :=
  (h.invariant_along (M := machine) (I := fun _ s => Tracked s) (C := fun x => Tidy x.pre x.event) Tracked.init
    (fun _ _ _ hs hen htidy => hs.step hen htidy) hc).noLeak

instance instDecidableTidy (s : System) : (move : SystemMove) → Decidable (Tidy s move)
  | .call (.release _ _ _ _ _) => inferInstanceAs (Decidable (∀ x ∈ s.pool.poolList.items, _))
  | .call (.disconnect _ _ _ _) => inferInstanceAs (Decidable (_ ∧ _))
  | .died _ => inferInstanceAs (Decidable (∀ j ∈ s.joined, _))
  | .call (.alloc _ _) | .call (.free _ _) | .call (.acquire _ _ _ _ _) | .call (.request _ _ _)
  | .call (.configDisplay _ _ _ _ _) | .call (.producerDied _) | .call (.consumerDied _ _) => isTrue trivial

/-- A consumer dies with a buffer, another gives its own back and disconnects, and the producer dies. -/
theorem items_do_not_leak_two :
    let moves : List SystemMove := [.call (.alloc 1 0x800), .call (.acquire 2 1 1 0 ⟨false, 0⟩),
      .call (.acquire 3 1 1 0 ⟨false, 1⟩), .died 2, .call (.release 3 1 1 0 1), .call (.disconnect 3 1 1 0), .died 1,
      .call (.consumerDied 2 1), .call (.producerDied 1)]
    (machine.exec moves).2.pool.poolList.size = 0 ∧ NoLeak (machine.exec moves).2 :=
  ⟨by decide +kernel,
    items_do_not_leak (machine.run_exec (of_decide_eq_true rfl)) (machine.exec_along (of_decide_eq_true rfl))⟩

/-- A consumer gives its buffer back, and with it its observer, and dies without a `disconnect`. No one notices, and the
    item stays for ever after its producer has freed it. -/
theorem item_leaked :
    let moves : List SystemMove := [.call (.alloc 1 0x800), .call (.acquire 2 1 1 0 ⟨false, 0⟩),
      .call (.release 2 1 1 0 0), .call (.free 1 1), .died 2]
    machine.Run (machine.exec moves).1 (machine.exec moves).2 ∧ (machine.exec moves).2.dead = [2] ∧
      (machine.exec moves).2.freed = [1] ∧ (machine.exec moves).2.joined = [⟨2, 1, 1⟩] ∧
      (machine.exec moves).2.pool.poolList.items.map Prod.fst = [1] ∧ ¬NoLeak (machine.exec moves).2 := by
  intro moves
  refine ⟨machine.run_exec (of_decide_eq_true rfl), by decide +kernel, by decide +kernel, by decide +kernel,
    by decide +kernel, fun hleak => ?_⟩
  have hitems : ∀ x ∈ (machine.exec moves).2.pool.poolList.items, ∀ t ∈ (machine.exec moves).2.dead,
      ((machine.exec moves).2.producers.valueFor x.1 = some t → t ∈ (machine.exec moves).2.noticed) ∧
        ((∃ y ∈ x.2.consumerList.items, y.2.observer = some t) → (t, x.1) ∈ (machine.exec moves).2.told) := by
    decide +kernel
  have hdelivered : Delivered (machine.exec moves).2 := fun k item hitem => hitems (k, item) (mem_items_iff.mpr hitem)
  obtain ⟨item, hitem⟩ := isSome_iff_exists.mp
    (show ((machine.exec moves).2.pool.poolList.valueFor 1).isSome from by decide +kernel)
  obtain ⟨j, hj, -, hlive⟩ := hleak hdelivered 1 item hitem (.inl (by decide +kernel))
  have hdead : ∀ j ∈ (machine.exec moves).2.joined, j.token ∈ (machine.exec moves).2.dead := by decide +kernel
  exact hlive (hdead j hj)

end System

end HuaweiY5.GuiExt
