import HuaweiY5.GuiExt.Slots

/-!
# `GuiExt.SlotKeys` — the keys of the slots

A slot is found by `POOL_COMBINED_ID`, which has three bits for the index of the buffer, while the number of buffers of a
display is whatever `configDisplay` was called with.
-/

namespace HuaweiY5.GuiExt

open PoolItem

variable {displays : KeyedVector UInt32 DispInfo}

/-- What `configDisplay` accepts for the three types of display. -/
def Accepted (displays : KeyedVector UInt32 DispInfo) : Prop :=
  ∀ type d, displays.valueFor type = some d → type.toNat < numDisplayTypes ∧ 0 < d.bufNum

/-- A buffer of an item that was allocated with these displays. -/
def IsBuffer (displays : KeyedVector UInt32 DispInfo) (type idx : UInt32) : Prop :=
  ∃ d, displays.valueFor type = some d ∧ idx < d.bufNum

/-- Different buffers have different slots, and what happens to one buffer leaves the slot of another as it is: that it
    is acquired or released, or that its holder dies. -/
structure Separate (displays : KeyedVector UInt32 DispInfo) : Prop where
  keys : ∀ type idx type' idx', IsBuffer displays type idx → IsBuffer displays type' idx' →
    poolCombinedId usageHwc type idx = poolCombinedId usageHwc type' idx' → type = type' ∧ idx = idx'
  owners : ∀ type idx type' idx', IsBuffer displays type idx → IsBuffer displays type' idx' → (type, idx) ≠ (type', idx') →
    ∀ item : PoolItem, item.WellSlotted →
      let slot := fun i : PoolItem => i.consumerList.valueFor (poolCombinedId usageHwc type' idx')
      (∀ token (a : Dequeued), a.buf.toUInt32 = idx → slot (item.acquire token usageHwc type a).1 = slot item) ∧
        slot (item.release usageHwc type idx).1 = slot item ∧
        ∀ who, (slot item).bind (·.token) ≠ some who → slot (item.consumerDied who) = slot item

/-- The condition: there are so few buffers that no index reaches into the bits of the type. -/
def Few (displays : KeyedVector UInt32 DispInfo) : Prop :=
  (∀ d, displays.valueFor 0 = some d → d.bufNum ≤ 64 ∧ ((displays.valueFor 1).isSome → d.bufNum ≤ 8) ∧
    ((displays.valueFor 2).isSome → d.bufNum ≤ 16)) ∧
  (∀ d, displays.valueFor 1 = some d → d.bufNum ≤ 8) ∧ ∀ d, displays.valueFor 2 = some d → d.bufNum ≤ 16

/-- The indices for which nothing is lost. -/
def room (type : UInt32) : Nat := if type = 0 then 64 else if type = 1 then 8 else 16

theorem type_cases {type : UInt32} (h : type.toNat < numDisplayTypes) : type = 0 ∨ type = 1 ∨ type = 2 := by
  have : type.toNat < 3 := h
  rw [← UInt32.toNat_inj, ← UInt32.toNat_inj, ← UInt32.toNat_inj]
  simp only [UInt32.reduceToNat]
  omega

theorem combinedId_toNat {type idx : UInt32} (htype : type.toNat < numDisplayTypes) (hidx : idx.toNat < room type) :
    (poolCombinedId usageHwc type idx).toNat = 64 + 8 * type.toNat + idx.toNat := by
  have hor : (poolCombinedId usageHwc type idx).toNat = (usageHwc <<< 6 ||| type <<< 3).toNat ||| idx.toNat :=
    UInt32.toNat_or _ _
  rw [hor]
  generalize idx.toNat = n at hidx
  rcases type_cases htype with rfl | rfl | rfl
  · exact (by decide : ∀ n < 64, 64 ||| n = 64 + n) n hidx
  · exact (by decide : ∀ n < 8, 72 ||| n = 72 + n) n hidx
  · exact (by decide : ∀ n < 16, 80 ||| n = 80 + n) n hidx

theorem Few.lt_room (h : Few displays) (hacc : Accepted displays) {type idx : UInt32} (hbuf : IsBuffer displays type idx) :
    type.toNat < numDisplayTypes ∧ idx.toNat < room type := by
  obtain ⟨d, hd, hidx⟩ := hbuf
  have htype := (hacc type d hd).1
  have hlt : idx.toNat < d.bufNum.toNat := hidx
  refine ⟨htype, Nat.lt_of_lt_of_le hlt ?_⟩
  rcases type_cases htype with rfl | rfl | rfl
  · exact (h.1 d hd).1
  · exact h.2.1 d hd
  · exact h.2.2 d hd

theorem Few.below (h : Few displays) (hacc : Accepted displays) {type idx type' idx' : UInt32}
    (hbuf : IsBuffer displays type idx) (hbuf' : IsBuffer displays type' idx') (hlt : type.toNat < type'.toNat) :
    8 * type.toNat + idx.toNat < 8 * type'.toNat := by
  obtain ⟨d, hd, hidx⟩ := hbuf
  obtain ⟨d', hd', -⟩ := hbuf'
  have hlt' : idx.toNat < d.bufNum.toNat := hidx
  have hsome : (displays.valueFor type').isSome := Option.isSome_of_mem hd'
  rcases type_cases (hacc type d hd).1 with rfl | rfl | rfl <;>
    rcases type_cases (hacc type' d' hd').1 with rfl | rfl | rfl <;> simp only [UInt32.reduceToNat] at hlt ⊢
  · omega
  · have hle : d.bufNum.toNat ≤ 8 := (h.1 d hd).2.1 hsome
    omega
  · have hle : d.bufNum.toNat ≤ 16 := (h.1 d hd).2.2 hsome
    omega
  · omega
  · omega
  · have hle : d.bufNum.toNat ≤ 8 := h.2.1 d hd
    omega
  · omega
  · omega
  · omega

theorem Few.keys (h : Few displays) (hacc : Accepted displays) {type idx type' idx' : UInt32}
    (hbuf : IsBuffer displays type idx) (hbuf' : IsBuffer displays type' idx')
    (hkey : poolCombinedId usageHwc type idx = poolCombinedId usageHwc type' idx') : type = type' ∧ idx = idx' := by
  obtain ⟨htype, hidx⟩ := h.lt_room hacc hbuf
  obtain ⟨htype', hidx'⟩ := h.lt_room hacc hbuf'
  have hnat := congrArg UInt32.toNat hkey
  rw [combinedId_toNat htype hidx, combinedId_toNat htype' hidx'] at hnat
  have hsame : type.toNat = type'.toNat := by
    rcases Nat.lt_trichotomy type.toNat type'.toNat with hlt | heq | hlt
    · have := h.below hacc hbuf hbuf' hlt
      omega
    · exact heq
    · have := h.below hacc hbuf' hbuf hlt
      omega
  exact ⟨UInt32.toNat_inj.mp hsame, UInt32.toNat_inj.mp (by omega)⟩

theorem owners_of_key_ne {type idx key : UInt32} (hkey : key ≠ poolCombinedId usageHwc type idx) (item : PoolItem) :
    (∀ token (a : Dequeued), a.buf.toUInt32 = idx →
        (item.acquire token usageHwc type a).1.consumerList.valueFor key = item.consumerList.valueFor key) ∧
      (item.release usageHwc type idx).1.consumerList.valueFor key = item.consumerList.valueFor key := by
  refine ⟨fun token a ha => ?_, ?_⟩
  · rcases acquire_cases token usageHwc type a item with ⟨heq, -⟩ | ⟨-, -, -, slot, -, heq⟩
    · rw [heq]
    · rw [heq, ha]
      split_ifs
      · rw [KeyedVector.valueFor_add, if_neg hkey]
      · rfl
  · rcases release_cases usageHwc type idx item with ⟨heq, -⟩ | ⟨-, -, heq⟩
    · rw [heq]
    · rw [heq]
      exact (KeyedVector.valueFor_modify _ _ _ _).trans (if_neg hkey)

theorem consumerDied_other {item : PoolItem} (hwell : item.WellSlotted) {who : Binder} {key : UInt32}
    (hother : (item.consumerList.valueFor key).bind (·.token) ≠ some who) :
    (item.consumerDied who).consumerList.valueFor key = item.consumerList.valueFor key := by
  rw [consumerDied_valueFor hwell]
  rcases hslot : item.consumerList.valueFor key with _ | slot
  · rfl
  · rw [hslot] at hother
    exact congrArg some (if_neg hother)

/-- **Slots are separate.** Different buffers of an item have different slots exactly if there are few of them. -/
theorem slots_separate_iff (hacc : Accepted displays) : Separate displays ↔ Few displays := by
  constructor
  · intro h
    have hbuf : ∀ {type d idx}, displays.valueFor type = some d → ¬d.bufNum ≤ idx → IsBuffer displays type idx :=
      fun hd hlt => ⟨_, hd, UInt32.not_le.mp hlt⟩
    have hzero : ∀ {type d}, displays.valueFor type = some d → IsBuffer displays type 0 :=
      fun hd => ⟨_, hd, (hacc _ _ hd).2⟩
    refine ⟨fun d hd => ⟨?_, fun h1 => ?_, fun h2 => ?_⟩, fun d hd => ?_, fun d hd => ?_⟩ <;> by_contra hmany
    · exact absurd (h.keys 0 64 0 0 (hbuf hd hmany) (hzero hd) (by decide)).2 (by decide)
    · obtain ⟨d', hd'⟩ := Option.isSome_iff_exists.mp h1
      exact absurd (h.keys 0 8 1 0 (hbuf hd hmany) (hzero hd') (by decide)).1 (by decide)
    · obtain ⟨d', hd'⟩ := Option.isSome_iff_exists.mp h2
      exact absurd (h.keys 0 16 2 0 (hbuf hd hmany) (hzero hd') (by decide)).1 (by decide)
    · exact absurd (h.keys 1 8 1 0 (hbuf hd hmany) (hzero hd) (by decide)).2 (by decide)
    · exact absurd (h.keys 2 16 2 0 (hbuf hd hmany) (hzero hd) (by decide)).2 (by decide)
  · intro h
    refine ⟨fun _ _ _ _ hbuf hbuf' => h.keys hacc hbuf hbuf', fun type idx type' idx' hbuf hbuf' hne item hwell => ?_⟩
    have hkey : poolCombinedId usageHwc type' idx' ≠ poolCombinedId usageHwc type idx := fun heq => by
      obtain ⟨rfl, rfl⟩ := h.keys hacc hbuf' hbuf heq
      exact hne rfl
    obtain ⟨hacquire, hrelease⟩ := owners_of_key_ne hkey item
    exact ⟨hacquire, hrelease, fun who hother => consumerDied_other hwell hother⟩

/-- Three buffers for each of three displays. -/
theorem slots_separate_three : Separate (((KeyedVector.empty.add 0 ⟨0, 3⟩).add 1 ⟨1, 3⟩).add 2 ⟨2, 3⟩) := by
  refine (slots_separate_iff fun type d h => ?_).mpr ⟨fun d h => ?_, fun d h => ?_, fun d h => ?_⟩
  · simp only [KeyedVector.valueFor_add, KeyedVector.valueFor_empty] at h
    split_ifs at h with h2 h1 h0
    · rw [h2, ← Option.some.inj h]
      decide
    · rw [h1, ← Option.some.inj h]
      decide
    · rw [h0, ← Option.some.inj h]
      decide
  · rw [← Option.some.inj h]
    exact ⟨by decide, fun _ => by decide, fun _ => by decide⟩
  · rw [← Option.some.inj h]
    decide
  · rw [← Option.some.inj h]
    decide

/-- With nine buffers for the primary display, its last one has the slot of the first one of the second display. -/
theorem ninth_buffer_shares_slot :
    let displays : KeyedVector UInt32 DispInfo := (KeyedVector.empty.add 0 ⟨0, 9⟩).add 1 ⟨1, 3⟩
    let item := ((PoolItem.create 5 true 1 displays).acquire 6 usageHwc 1 ⟨false, 0⟩).1
    poolCombinedId usageHwc 0 8 = poolCombinedId usageHwc 1 0 ∧
      (item.consumerList.valueFor (poolCombinedId usageHwc 0 8)).bind (·.token) = some 6 := by
  decide +kernel

end HuaweiY5.GuiExt
