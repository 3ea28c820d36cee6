import HuaweiY5.GuiExt.System

/-!
# `GuiExt.Holders` — items are not destroyed under a holder

An item goes when its producer is gone and its flags say that no usage is connected. The flag of a usage is one for all
consumers and all displays: whoever disconnects resets it for everybody, and a slot that someone else has cleared no
longer counts when a death makes the flags be counted anew. As long as no call does that, a living holder keeps its
item: its slot shows it, and the flag is down.
-/

namespace HuaweiY5.GuiExt

open List Option GuiExtPool PoolItem

/-! ## One item -/

/-- The item knows of a holding: its slot has the holder, and the hardware composer is connected. -/
def Holds (g : Holding) (item : PoolItem) : Prop := TokenAt item g.key g.token ∧ ¬item.HwcIdle

/-- A move can take a holding from what its item knows. -/
def Disturbs (g : Holding) (item : PoolItem) : PoolMove → Prop
  | .release _ poolId usage type buf =>
    g.poolId = poolId ∧ g.key = poolCombinedId usage type buf ∧ (item.release usage type buf).2 = .noError
  | .disconnect _ poolId usage _ => g.poolId = poolId ∧ usage = usageHwc
  | .consumerDied who poolId => g.poolId = poolId ∧ g.token = who
  | _ => False

variable {g : Holding} {item : PoolItem}

theorem Holds.not_abandoned (h : Holds g item) : ¬item.Abandoned := fun hab => h.2 (abandoned_iff.mp hab).2.1

theorem Holds.settle (h : Holds g item) : ∃ item', item.settle = some item' ∧ Holds g item' := by
  refine ⟨item, ?_, h⟩
  rw [PoolItem.settle, if_neg h.not_abandoned]

theorem Holds.orphan (h : Holds g item) : Holds g item.orphan := h

theorem Holds.acquire (h : Holds g item) (token : Binder) (usage type : UInt32) (a : Dequeued) :
    Holds g (item.acquire token usage type a).1 := by
  refine ⟨h.1.acquire token usage type a, ?_⟩
  rcases acquire_cases token usage type a item with ⟨heq, -⟩ | ⟨rfl, -, -, slot, -, heq⟩
  · rw [heq]
    exact h.2
  · rw [heq]
    show ¬(item.isDisconnected.setIfInBounds 1 false)[1] = true
    simp

theorem Holds.release (h : Holds g item) {usage type buf : UInt32}
    (hother : g.key = poolCombinedId usage type buf → (item.release usage type buf).2 ≠ .noError) :
    Holds g (item.release usage type buf).1 := by
  refine ⟨h.1.release hother, ?_⟩
  rw [HwcIdle, release_flags]
  exact h.2

theorem Holds.disconnect (h : Holds g item) {usage : UInt32} (husage : usage ≠ usageHwc) :
    Holds g (item.disconnect usage).1 := by
  rcases disconnect_cases usage item with ⟨heq, -⟩ | ⟨-, heq⟩
  · rw [heq]
    exact h
  · rw [heq]
    refine ⟨h.1, ?_⟩
    have hne : usage.toNat ≠ 1 := fun h1 => husage (UInt32.toNat_inj.mp h1)
    show ¬(item.isDisconnected.setIfInBounds usage.toNat true)[1] = true
    rw [Vector.getElem_setIfInBounds, if_neg hne]
    exact h.2

theorem Holds.consumerDied (h : Holds g item) (hs : Sound item) {who : Binder} (hwho : g.token ≠ who) :
    Holds g (item.consumerDied who) ∧ ¬(item.consumerDied who).Vacant := by
  have hslot : TokenAt (item.consumerDied who) g.key g.token := (tokenAt_consumerDied hs.slots).mpr ⟨h.1, hwho⟩
  have hvacant : ¬(item.consumerDied who).Vacant := fun hvacant => vacant_iff.mp hvacant g.key g.token hslot
  exact ⟨⟨hslot, fun hidle => hvacant ((consumerDied_hwcIdle_iff hs.slots who).mp hidle)⟩, hvacant⟩

/-- **A move that does not disturb a holding leaves its item**, and the item knows of it. -/
theorem Holds.afterMove (h : Holds g item) (hs : Sound item) {move : PoolMove} (hmove : ¬Disturbs g item move) :
    ∃ item', afterMove g.poolId move item = some item' ∧ Holds g item' := by
  cases move with
  | alloc | request | configDisplay => exact ⟨item, rfl, h⟩
  | free who poolId | producerDied who =>
    simp only [PoolItem.afterMove]
    split_ifs
    · exact h.orphan.settle
    · exact ⟨item, rfl, h⟩
  | acquire token poolId usage type a =>
    simp only [PoolItem.afterMove]
    split_ifs
    · exact ⟨_, rfl, h.acquire token usage type a⟩
    · exact ⟨item, rfl, h⟩
  | release who poolId usage type buf =>
    simp only [PoolItem.afterMove]
    split_ifs with hk
    · exact ⟨_, rfl, h.release fun hkey hok => hmove ⟨hk, hkey, hok⟩⟩
    · exact ⟨item, rfl, h⟩
  | disconnect who poolId usage type =>
    simp only [PoolItem.afterMove]
    split_ifs with hk
    · exact (h.disconnect fun husage => hmove ⟨hk, husage⟩).settle
    · exact ⟨item, rfl, h⟩
  | consumerDied who poolId =>
    simp only [PoolItem.afterMove]
    split_ifs with hk hsize hvacant
    · exact ⟨item, rfl, h⟩
    · exact absurd hvacant (h.consumerDied hs fun heq => hmove ⟨hk, heq⟩).2
    · exact ⟨_, rfl, (h.consumerDied hs fun heq => hmove ⟨hk, heq⟩).1⟩
    · exact ⟨item, rfl, h⟩

/-! ## Runs -/

namespace System

/-- A call that disturbs no living holder: an item is freed by its producer, a buffer is handed out whose slot has no
    holder, a consumer releases what it holds itself, and a usage that there is is disconnected when no one holds a
    buffer for it. -/
def Considerate (s : System) : SystemMove → Prop
  | .call (.free who poolId) => s.producers.valueFor poolId = none ∨ s.producers.valueFor poolId = some who
  | .call (.acquire _ poolId usage type a) =>
    a.wouldBlock = false → ∀ x ∈ s.pool.poolList.items, x.1 = poolId →
      ∀ y ∈ x.2.consumerList.items, y.1 = poolCombinedId usage type a.buf.toUInt32 → y.2.token = none
  | .call (.release who poolId usage type buf) =>
    ∀ g ∈ s.held, g.poolId = poolId → g.token ∉ s.dead → g.key = poolCombinedId usage type buf →
      g = ⟨who, poolId, usage, type, buf⟩
  | .call (.disconnect _ poolId usage _) =>
    usage.toNat < usageMax ∧ ∀ g ∈ s.held, g.poolId = poolId → g.usage = usage → g.token ∈ s.dead
  | _ => True

/-- Every living holder's item is there and knows of it. -/
structure Kept (s : System) : Prop where
  base : Base s
  holds : ∀ g ∈ s.held, g.token ∉ s.dead → g.usage = usageHwc ∧
    ∃ item, s.pool.poolList.valueFor g.poolId = some item ∧ Holds g item
  gone : ∀ k item, s.pool.poolList.valueFor k = some item → item.producerToken = none → Gone s k

/-- The law of a step: an item that is removed has lost its producer, and no living consumer holds a buffer of it. -/
def HoldersSafe (x : Transducer.Entry System SystemMove Effect) : Prop :=
  ∀ k, Effect.removed k ∈ x.out → Gone (machine.next x.pre x.event) k ∧
    ∀ g ∈ (machine.next x.pre x.event).held, g.poolId = k → g.token ∈ (machine.next x.pre x.event).dead

variable {s : System}

theorem Kept.held_note (h : Kept s) {move : PoolMove} (hen : Enabled s (.call move)) (hc : Considerate s (.call move))
    (hg : g ∈ (note (s.pool.step move).2 s move).held) (hlive : g.token ∉ s.dead) :
    (g ∈ s.held ∧ ∃ item, s.pool.poolList.valueFor g.poolId = some item ∧ Holds g item ∧ ¬Disturbs g item move) ∨
    ∃ token poolId usage type a, move = .acquire token poolId usage type a ∧
      g = ⟨token, poolId, usage, type, a.buf.toUInt32⟩ ∧ Accepted (s.pool.step move).2 := by
  have hold : g ∈ s.held → (∀ item, s.pool.poolList.valueFor g.poolId = some item → ¬Disturbs g item move) →
      g ∈ s.held ∧ ∃ item, s.pool.poolList.valueFor g.poolId = some item ∧ Holds g item ∧ ¬Disturbs g item move := by
    intro hmem hnot
    obtain ⟨-, item, hitem, hholds⟩ := h.holds g hmem hlive
    exact ⟨hmem, item, hitem, hholds, hnot item hitem⟩
  cases move with
  | alloc token usage =>
    refine .inl (hold ?_ fun _ _ hd => hd)
    simp only [note] at hg
    split at hg
    · exact (mem_filter.mp hg).1
    · exact hg
  | free who poolId =>
    refine .inl (hold ?_ fun _ _ hd => hd)
    simp only [note] at hg
    split_ifs at hg <;> exact hg
  | acquire token poolId usage type a =>
    simp only [note] at hg
    split_ifs at hg with hacc
    · rcases mem_cons.mp hg with rfl | hmem
      · exact .inr ⟨token, poolId, usage, type, a, rfl, rfl, hacc⟩
      · exact .inl (hold hmem fun _ _ hd => hd)
    · exact .inl (hold hg fun _ _ hd => hd)
  | request | configDisplay | producerDied => exact .inl (hold hg fun _ _ hd => hd)
  | release who poolId usage type buf =>
    simp only [note] at hg
    split_ifs at hg with hacc
    · obtain ⟨hmem, hne⟩ := mem_filter.mp hg
      refine .inl (hold hmem fun item _ hd => of_decide_eq_true hne ?_)
      exact hc g hmem hd.1 hlive hd.2.1
    · refine .inl (hold hg fun item hitem hd => hacc ?_)
      exact (accepted_release s.pool).mpr ⟨item, hd.1 ▸ hitem, hd.2.2⟩
  | disconnect who poolId usage type =>
    have hmem : g ∈ s.held := by
      simp only [note] at hg
      split_ifs at hg <;> exact hg
    refine .inl (hold hmem fun item _ hd => hlive ?_)
    exact hc.2 g hmem hd.1 ((h.holds g hmem hlive).1.trans hd.2.symm)
  | consumerDied who poolId => exact .inl (hold hg fun _ _ hd => hlive (hd.2 ▸ hen.1))

theorem Kept.granted (h : Kept s) {token : Binder} {poolId usage type : UInt32} {a : Dequeued}
    (hc : Considerate s (.call (.acquire token poolId usage type a)))
    (hacc : Accepted (s.pool.step (.acquire token poolId usage type a)).2) :
    usage = usageHwc ∧ ∃ item', (s.pool.step (.acquire token poolId usage type a)).1.poolList.valueFor poolId = some item' ∧
      Holds ⟨token, poolId, usage, type, a.buf.toUInt32⟩ item' := by
  obtain ⟨item, hitem, hok⟩ := (accepted_acquire s.pool).mp hacc
  rcases acquire_cases token usage type a item with ⟨-, herr⟩ | ⟨husage, hgiven, -, slot, hslot, heq⟩
  · exact absurd hok herr
  · have hvacant : slot.token = none :=
      hc hgiven (poolId, item) (KeyedVector.mem_items_iff.mpr hitem) rfl (_, slot)
        (KeyedVector.mem_items_iff.mpr hslot) rfl
    rw [if_pos hvacant] at heq
    refine ⟨husage, _, valueFor_step_of_afterMove h.base.served.1.named hitem (if_pos rfl), ?_⟩
    rw [heq]
    subst husage
    refine ⟨⟨⟨usageHwc, type, a.buf.toUInt32, some token, some token⟩, ?_, rfl⟩, ?_⟩
    · show (item.consumerList.add (poolCombinedId usageHwc type a.buf.toUInt32) _).valueFor
        (poolCombinedId usageHwc type a.buf.toUInt32) = _
      rw [KeyedVector.valueFor_add, if_pos rfl]
    · show ¬(item.isDisconnected.setIfInBounds 1 false)[1] = true
      simp

theorem Kept.gone_after (h : Kept s) {move : PoolMove} (hen : Enabled s (.call move)) (hc : Considerate s (.call move))
    {k : UInt32} (hitem : s.pool.poolList.valueFor k = some item)
    (hlost : item.producerToken = none ∨ Orphans k item move) : Gone (machine.next s (.call move)) k := by
  rcases htok : item.producerToken with _ | p
  · exact (h.gone k item hitem htok).step hitem _
  · have hp : s.producers.valueFor k = some p := h.base.producer k item p hitem htok
    rcases hlost with hlost | ⟨who, rfl⟩ | ⟨who, rfl, hwho⟩
    · cases htok.symm.trans hlost
    · -- the producer itself has freed the item
      obtain rfl : p = who := by
        rcases hc with hnone | hsome
        · cases hp.symm.trans hnone
        · exact some.inj (hp.symm.trans hsome)
      left
      show k ∈ (note _ s (.free p k)).freed
      rw [note, if_pos ⟨(accepted_free s.pool).mpr ⟨item, hitem⟩, hp⟩]
      exact mem_cons_self
    · obtain rfl : p = who := some.inj (htok.symm.trans hwho)
      exact .inr ⟨p, hp, hen.1⟩

/-- **One step.** -/
theorem Kept.step (h : Kept s) {move : SystemMove} (hen : Enabled s move) (hc : Considerate s move) :
    Kept (machine.next s move) ∧ HoldersSafe (machine.entry s move) := by
  rcases move with move | who
  · have hnamed := h.base.served.1.named
    -- a living holder's item is there after the step and knows of it
    have hafter : ∀ g ∈ (note (s.pool.step move).2 s move).held, g.token ∉ s.dead → g.usage = usageHwc ∧
        ∃ item', (s.pool.step move).1.poolList.valueFor g.poolId = some item' ∧ Holds g item' := by
      intro g hg hlive
      rcases h.held_note hen hc hg hlive with
        ⟨hmem, item, hitem, hholds, hnot⟩ | ⟨token, poolId, usage, type, a, rfl, rfl, hacc⟩
      · obtain ⟨item', hitem', hholds'⟩ := hholds.afterMove (h.base.served.2 _ _ hitem) hnot
        exact ⟨(h.holds g hmem hlive).1, item', valueFor_step_of_afterMove hnamed hitem hitem', hholds'⟩
      · exact h.granted hc hacc
    refine ⟨⟨h.base.step _, fun g hg hlive => ?_, fun k item' hitem' htok => ?_⟩, fun k hk => ⟨?_, fun g hg hpool => ?_⟩⟩
    · exact hafter g hg (note_dead _ s move ▸ hlive)
    · rcases item_after_step hnamed hitem' with ⟨token, grallocUsage, needed, displays, -, -, -, rfl⟩ | ⟨item, hitem, hmoved⟩
      · cases htok
      · refine h.gone_after hen hc hitem (lost_of_afterMove fun i hi => ?_)
        rwa [← some.inj (hmoved.symm.trans hi)]
    · obtain ⟨-, item, hitem, hdropped⟩ := removed_of_mem_step hnamed hk
      refine h.gone_after hen hc hitem (lost_of_afterMove fun i hi => ?_)
      cases hi.symm.trans hdropped
    · by_contra hlive
      have hlive' : g.token ∉ s.dead := by
        rw [← note_dead (s.pool.step move).2 s move]
        exact hlive
      obtain ⟨-, item', hitem', -⟩ := hafter g hg hlive'
      exact absurd (hitem'.symm.trans (hpool ▸ (removed_of_mem_step hnamed hk).1)) (some_ne_none item')
  · refine ⟨⟨h.base.step _, fun g hg hlive => ?_, fun k item hitem htok => ?_⟩, fun k hk => absurd hk not_mem_nil⟩
    · exact h.holds g hg fun hdead => hlive (mem_cons_of_mem _ hdead)
    · exact (h.gone k item hitem htok).step hitem _

theorem Kept.init : Kept System.init :=
  ⟨Base.init, fun _ hg => absurd hg not_mem_nil, fun _ _ hitem => absurd hitem.symm (some_ne_none _)⟩

/-- **Items are not destroyed under a holder.** In every run whose calls are all considerate, an item leaves the list only
    when its producer has freed it or died and no living consumer holds a buffer of it. -/
theorem holders_keep_items {tr : List (Transducer.Entry System SystemMove Effect)} {s : System} (h : machine.Run tr s)
    (hc : ∀ x ∈ tr, Considerate x.pre x.event) : ∀ x ∈ tr, HoldersSafe x :=
  (h.outputs_along (M := machine) (I := Kept) (C := fun x => Considerate x.pre x.event) (O := HoldersSafe) Kept.init
    (fun _ _ hs hen hcons => hs.step hen hcons) hc).2

instance instDecidableConsiderate (s : System) : (move : SystemMove) → Decidable (Considerate s move)
  | .call (.free _ _) => inferInstanceAs (Decidable (_ ∨ _))
  | .call (.acquire _ _ _ _ a) => inferInstanceAs (Decidable (a.wouldBlock = false → _))
  | .call (.release _ _ _ _ _) => inferInstanceAs (Decidable (∀ g ∈ s.held, _))
  | .call (.disconnect _ _ _ _) => inferInstanceAs (Decidable (_ ∧ _))
  | .call (.alloc _ _) | .call (.request _ _ _) | .call (.configDisplay _ _ _ _ _) | .call (.producerDied _)
  | .call (.consumerDied _ _) | .died _ => isTrue trivial

/-- Two consumers, of which one dies with a buffer and the other releases its own before it disconnects. -/
theorem holders_keep_items_two :
    let moves : List SystemMove := [.call (.alloc 1 0x800), .call (.acquire 2 1 1 0 ⟨false, 0⟩),
      .call (.acquire 3 1 1 0 ⟨false, 1⟩), .call (.free 1 1), .died 2, .call (.consumerDied 2 1),
      .call (.release 3 1 1 0 1), .call (.disconnect 3 1 1 0)]
    (machine.exec moves).2.pool.poolList.size = 0 ∧ ∀ x ∈ (machine.exec moves).1, HoldersSafe x :=
  ⟨by decide +kernel,
    holders_keep_items (machine.run_exec (of_decide_eq_true rfl)) (machine.exec_along (of_decide_eq_true rfl))⟩

/-- Two consumers hold a buffer each; one of them gives its own back and disconnects, and when the producer then frees
    the item it goes, although the other is alive and has its buffer. -/
theorem item_gone_under_holder :
    let moves : List SystemMove := [.call (.alloc 1 0x800), .call (.acquire 2 1 1 0 ⟨false, 0⟩),
      .call (.acquire 3 1 1 0 ⟨false, 1⟩), .call (.release 3 1 1 0 1), .call (.disconnect 3 1 1 0), .call (.free 1 1)]
    machine.Run (machine.exec moves).1 (machine.exec moves).2 ∧
      Effect.removed 1 ∈ Transducer.outs (machine.exec moves).1 ∧
      ⟨2, 1, 1, 0, 0⟩ ∈ (machine.exec moves).2.held ∧ 2 ∉ (machine.exec moves).2.dead ∧
      ¬∀ x ∈ (machine.exec moves).1, HoldersSafe x := by
  intro moves
  refine ⟨machine.run_exec (of_decide_eq_true rfl), by decide +kernel, by decide +kernel, by decide +kernel, fun hall => ?_⟩
  have hfree : machine.entry (machine.exec (moves.take 5)).2 (.call (.free 1 1)) ∈ (machine.exec moves).1 :=
    mem_append_right _ (mem_singleton_self _)
  have hdead := (hall _ hfree 1 (by decide +kernel)).2 ⟨2, 1, 1, 0, 0⟩ (by decide +kernel) rfl
  exact absurd hdead (by decide +kernel)

end System

end HuaweiY5.GuiExt
