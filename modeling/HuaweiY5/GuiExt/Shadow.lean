import HuaweiY5.GuiExt.Client
import Mathlib.Algebra.Ring.Nat

/-!
# `GuiExt.Shadow` — the shadow slots and what is out

The flag of a shadow slot goes up when the slot is made and when its buffer is given out as a backup, but not when the
service grants the buffer again. From then on the flag says that the buffer is free while the caller has it: the next
`acquire` that is refused gives it out a second time, and `disconnect` does not give it back. As long as the service
grants nothing that was given out as a backup, and no `acquire` is refused and nothing is disconnected while a buffer is
out that was granted again, what the caller has is what the flags and the service's grants say.
-/

namespace HuaweiY5.GuiExt

open List Option
open KeyedVector (erase_eq mem_items_iff size valueFor_add)

/-! ## The keys -/

def Grant.Small (g : Grant) : Prop :=
  g.poolId.toNat < 2 ^ 22 ∧ g.usage.toNat < usageMax ∧ g.type ≤ displayVirtual ∧ g.idx.toNat < 8

theorem toNat_shiftLeft_of_lt {a b : UInt32} (hb : b.toNat < 32) (h : a.toNat * 2 ^ b.toNat < 2 ^ 32) :
    (a <<< b).toNat = a.toNat * 2 ^ b.toNat := by
  rw [UInt32.toNat_shiftLeft, Nat.mod_eq_of_lt hb, Nat.shiftLeft_eq, Nat.mod_eq_of_lt h]

theorem Grant.toNat_key {g : Grant} (h : g.Small) :
    g.key.toNat = g.poolId.toNat * 2 ^ 10 + (g.usage.toNat * 2 ^ 6 + (g.type.toNat * 2 ^ 3 + g.idx.toNat)) := by
  obtain ⟨hpool, husage, htype, hidx⟩ := h
  have htype' : g.type.toNat ≤ 2 := UInt32.le_iff_toNat_le.mp htype
  unfold usageMax at husage
  have h10 : (g.poolId <<< 10).toNat = g.poolId.toNat <<< 10 := by
    rw [toNat_shiftLeft_of_lt (by decide) (by show g.poolId.toNat * 2 ^ 10 < _; omega), Nat.shiftLeft_eq]; rfl
  have h6 : (g.usage <<< 6).toNat = g.usage.toNat <<< 6 := by
    rw [toNat_shiftLeft_of_lt (by decide) (by show g.usage.toNat * 2 ^ 6 < _; omega), Nat.shiftLeft_eq]; rfl
  have h3 : (g.type <<< 3).toNat = g.type.toNat <<< 3 := by
    rw [toNat_shiftLeft_of_lt (by decide) (by show g.type.toNat * 2 ^ 3 < _; omega), Nat.shiftLeft_eq]; rfl
  rw [Grant.key, UInt32.toNat_or, UInt32.toNat_or, UInt32.toNat_or, h10, h6, h3, Nat.or_assoc, Nat.or_assoc,
    ← Nat.shiftLeft_add_eq_or_of_lt (i := 3) (by omega),
    ← Nat.shiftLeft_add_eq_or_of_lt (i := 6) (by rw [Nat.shiftLeft_eq]; omega),
    ← Nat.shiftLeft_add_eq_or_of_lt (i := 10) (by rw [Nat.shiftLeft_eq]; omega)]
  simp [Nat.shiftLeft_eq]

theorem Grant.key_inj {g g' : Grant} (h : g.Small) (h' : g'.Small) (heq : g.key = g'.key) : g = g' := by
  have hnat := congrArg UInt32.toNat heq
  rw [toNat_key h, toNat_key h'] at hnat
  obtain ⟨-, husage, htype, hidx⟩ := h
  obtain ⟨-, husage', htype', hidx'⟩ := h'
  have ht : g.type.toNat ≤ 2 := UInt32.le_iff_toNat_le.mp htype
  have ht' : g'.type.toNat ≤ 2 := UInt32.le_iff_toNat_le.mp htype'
  unfold usageMax at husage husage'
  obtain ⟨hpool, hu, hty, hi⟩ : g.poolId.toNat = g'.poolId.toNat ∧ g.usage.toNat = g'.usage.toNat ∧
      g.type.toNat = g'.type.toNat ∧ g.idx.toNat = g'.idx.toNat := by omega
  cases g
  cases g'
  rw [Grant.mk.injEq]
  exact ⟨UInt32.toNat_inj.mp hpool, UInt32.toNat_inj.mp hu, UInt32.toNat_inj.mp hty, UInt32.toNat_inj.mp hi⟩
/-! ## The slots -/

namespace Client

/-- The slots of a client: each is under its key and has a buffer object of its own. -/
structure ShadowOk (c : Client) : Prop where
  keyed : ∀ key slot, c.slots.valueFor key = some slot → key = slot.grant.key ∧ slot.grant.Small
  buffers : ∀ key slot, c.slots.valueFor key = some slot → ∃ b, slot.buffer = some b ∧ b < c.nextBuffer
  distinct : ∀ key key' slot slot', c.slots.valueFor key = some slot → c.slots.valueFor key' = some slot' →
    slot.buffer = slot'.buffer → key = key'

variable {c c' : Client} {key : UInt32} {slot : BufferSlot} {poolId usage type : UInt32} {b : Buffer}

theorem ShadowOk.of_subset (h : ShadowOk c) (hnext : c'.nextBuffer = c.nextBuffer)
    (hsub : ∀ key slot, c'.slots.valueFor key = some slot →
      ∃ old, c.slots.valueFor key = some old ∧ slot.buffer = old.buffer ∧ slot.grant = old.grant) : ShadowOk c' := by
  refine ⟨fun k slot hslot => ?_, fun k slot hslot => ?_, fun k k' slot slot' hslot hslot' heq => ?_⟩
  · obtain ⟨old, hold, -, hgrant⟩ := hsub k slot hslot
    exact hgrant ▸ h.keyed k old hold
  · obtain ⟨old, hold, hbuffer, -⟩ := hsub k slot hslot
    exact hbuffer ▸ hnext ▸ h.buffers k old hold
  · obtain ⟨old, hold, hbuffer, -⟩ := hsub k slot hslot
    obtain ⟨old', hold', hbuffer', -⟩ := hsub k' slot' hslot'
    exact h.distinct k k' old old' hold hold' (hbuffer ▸ hbuffer' ▸ heq)

/-- The flag of a slot set. -/
def marked (key : UInt32) (flag : Bool) (c : Client) : Client := { c with slots := c.slots.modify key (mark flag) }

theorem valueFor_marked (flag : Bool) (key' : UInt32) :
    (c.marked key flag).slots.valueFor key' =
      (c.slots.valueFor key').map fun slot => if key' = key then mark flag slot else slot := by
  rw [marked, KeyedVector.valueFor_modify]
  split_ifs
  · rfl
  · rw [Option.map_id']

theorem ShadowOk.marked (h : ShadowOk c) (key : UInt32) (flag : Bool) : ShadowOk (c.marked key flag) := by
  refine h.of_subset rfl fun k slot hslot => ?_
  rw [valueFor_marked] at hslot
  obtain ⟨old, hold, rfl⟩ := map_eq_some_iff.mp hslot
  refine ⟨old, hold, ?_⟩
  split_ifs <;> exact ⟨rfl, rfl⟩

theorem ShadowOk.add (h : ShadowOk c) {g : Grant} (hg : g.Small) :
    ShadowOk ⟨c.slots.add g.key ⟨some c.nextBuffer, g, true⟩, c.nextBuffer + 1⟩ := by
  have hcases : ∀ {k slot}, (c.slots.add g.key ⟨some c.nextBuffer, g, true⟩).valueFor k = some slot →
      (k = g.key ∧ slot = ⟨some c.nextBuffer, g, true⟩) ∨ c.slots.valueFor k = some slot := by
    intro k slot hslot
    rw [valueFor_add] at hslot
    split_ifs at hslot with hk
    · exact .inl ⟨hk, (some.inj hslot).symm⟩
    · exact .inr hslot
  have hold : ∀ {k slot}, c.slots.valueFor k = some slot → slot.buffer ≠ some c.nextBuffer := by
    intro k slot hslot heq
    obtain ⟨b, hb, hlt⟩ := h.buffers k slot hslot
    exact absurd (some.inj (hb.symm.trans heq)) (Nat.ne_of_lt hlt)
  refine ⟨fun k slot hslot => ?_, fun k slot hslot => ?_, fun k k' slot slot' hslot hslot' heq => ?_⟩
  · rcases hcases hslot with ⟨rfl, rfl⟩ | hslot
    · exact ⟨rfl, hg⟩
    · exact h.keyed k slot hslot
  · rcases hcases hslot with ⟨rfl, rfl⟩ | hslot
    · exact ⟨c.nextBuffer, rfl, Nat.lt_succ_self _⟩
    · obtain ⟨b, hb, hlt⟩ := h.buffers k slot hslot
      exact ⟨b, hb, Nat.lt_succ_of_lt hlt⟩
  · rcases hcases hslot with ⟨rfl, rfl⟩ | hslot <;> rcases hcases hslot' with ⟨rfl, rfl⟩ | hslot'
    · rfl
    · exact absurd heq.symm (hold hslot')
    · exact absurd heq (hold hslot)
    · exact h.distinct k k' slot slot' hslot hslot' heq

theorem ShadowOk.same_slot (h : ShadowOk c) {key' : UInt32} {slot' : BufferSlot}
    (hslot : c.slots.valueFor key = some slot) (hslot' : c.slots.valueFor key' = some slot')
    (heq : slot.buffer = slot'.buffer) : key = key' ∧ slot = slot' := by
  obtain rfl := h.distinct key key' slot slot' hslot hslot' heq
  exact ⟨rfl, some.inj (hslot.symm.trans hslot')⟩

theorem getSlotFromBufferLocked_eq (buffer : Buffer) {l : List (UInt32 × BufferSlot)}
    (h : ∀ x ∈ l, ∃ b, x.2.buffer = some b) :
    getSlotFromBufferLocked buffer l = some ((l.find? fun x => decide (x.2.buffer = some buffer)).map (·.2.grant.idx)) := by
  induction l with
  | nil => rfl
  | cons x l ih =>
    obtain ⟨⟨b, hb⟩, htail⟩ := forall_mem_cons.mp h
    by_cases heq : b = buffer
    · simp [getSlotFromBufferLocked, hb, heq]
    · simp [getSlotFromBufferLocked, hb, heq, ih htail]

theorem ShadowOk.getSlotFromBufferLocked (h : ShadowOk c) (b : Buffer) :
    Client.getSlotFromBufferLocked b c.slots.items =
      some ((c.slots.items.find? fun x => decide (x.2.buffer = some b)).map (·.2.grant.idx)) := by
  refine getSlotFromBufferLocked_eq b fun x hx => ?_
  obtain ⟨b, hb, -⟩ := h.buffers x.1 x.2 (mem_items_iff.mp hx)
  exact ⟨b, hb⟩

theorem not_neg_of_small {idx : UInt32} (h : idx.toNat < 8) : ¬idx.toInt32 < 0 := by
  have htoInt : idx.toInt32.toInt = idx.toNat := BitVec.toInt_eq_toNat_of_lt (by change 2 * idx.toNat < 2 ^ 32; omega)
  rw [Int32.lt_iff_toInt_lt, htoInt]
  exact Int.not_lt.mpr (Int.natCast_nonneg _)

theorem grant_of_matches (h : slot.Matches poolId usage type) : ⟨poolId, usage, type, slot.grant.idx⟩ = slot.grant := by
  obtain ⟨rfl, rfl, rfl⟩ := h
  rfl

/-- **`releaseLocked` of a buffer with a slot** lowers the flag of the slot and tells the service. -/
theorem ShadowOk.releaseLocked (h : ShadowOk c) (hslot : c.slots.valueFor key = some slot) (hb : slot.buffer = some b)
    (hm : slot.Matches poolId usage type) :
    c.releaseLocked b poolId usage type = (c.marked key false, [.sentRelease slot.grant]) := by
  cases hfind : c.slots.items.find? fun x => decide (x.2.buffer = some b) with
  | none => exact absurd hb (by simpa using find?_eq_none.mp hfind _ (mem_items_iff.mpr hslot))
  | some x =>
    have hx : x.2.buffer = some b := by simpa using find?_some hfind
    obtain ⟨rfl, rfl⟩ := h.same_slot hslot (mem_items_iff.mp (mem_of_find?_eq_some hfind)) (hb.trans hx.symm)
    have hkey := h.keyed _ _ hslot
    simp [Client.releaseLocked, h.getSlotFromBufferLocked, hfind, not_neg_of_small hkey.2.2.2.2, grant_of_matches hm,
      ← hkey.1, Client.marked]

theorem ShadowOk.releaseLocked_unknown (h : ShadowOk c)
    (hb : ∀ key slot, c.slots.valueFor key = some slot → slot.buffer ≠ some b) :
    c.releaseLocked b poolId usage type = (c, [.error]) := by
  have hfind : c.slots.items.find? (fun x => decide (x.2.buffer = some b)) = none :=
    find?_eq_none.mpr fun x hx => by simpa using hb x.1 x.2 (mem_items_iff.mp hx)
  simp [Client.releaseLocked, h.getSlotFromBufferLocked, hfind]

theorem ShadowOk.giveUp (h : ShadowOk c) (hslot : c.slots.valueFor key = some slot)
    (hm : slot.Matches poolId usage type) :
    ∃ c', c.giveUp poolId usage type slot = (c', if slot.isAcquired = true then [.sentRelease slot.grant] else []) ∧
      { c' with slots := c'.slots.removeItem key } = { c with slots := c.slots.removeItem key } := by
  unfold Client.giveUp
  by_cases hflag : slot.isAcquired = true
  · obtain ⟨b, hb, -⟩ := h.buffers key slot hslot
    simp only [hflag, hb, h.releaseLocked hslot hb hm]
    exact ⟨_, rfl, by simp [Client.marked, KeyedVector.removeItem_modify]⟩
  · simp only [hflag]
    exact ⟨c, rfl, rfl⟩

/-- **The loop of `disconnect`.** From an index down it drops the matching slots in front of the index, and tells the
    service of those whose flag is up. -/
theorem ShadowOk.disconnectFrom (h : ShadowOk c) (poolId usage type : UInt32) (i : Nat) :
    (c.disconnectFrom poolId usage type i).1.nextBuffer = c.nextBuffer ∧
      (c.disconnectFrom poolId usage type i).1.slots.items =
        (c.slots.items.take i).filter (fun x => decide ¬x.2.Matches poolId usage type) ++ c.slots.items.drop i ∧
      (c.disconnectFrom poolId usage type i).2 =
        ((c.slots.items.take i).filter fun x => decide (x.2.Matches poolId usage type ∧ x.2.isAcquired = true)).reverse.map
          fun x => ClientEffect.sentRelease x.2.grant := by
  induction i generalizing c with
  | zero => simp [Client.disconnectFrom]
  | succ i ih =>
    rw [Client.disconnectFrom]
    rcases hx : c.slots.items[i]? with _ | ⟨key, slot⟩
    · -- the index is behind the last slot
      have hlen := getElem?_eq_none_iff.mp hx
      rw [take_of_length_le (Nat.le_succ_of_le hlen), drop_of_length_le (Nat.le_succ_of_le hlen)]
      have hi := ih h
      rwa [take_of_length_le hlen, drop_of_length_le hlen] at hi
    · have hslot : c.slots.valueFor key = some slot := mem_items_iff.mp (mem_of_getElem? hx)
      obtain ⟨hi, hget⟩ := List.getElem?_eq_some_iff.mp hx
      have hdrop := drop_eq_getElem_cons hi
      rw [hget] at hdrop
      rw [take_add_one, hx]
      by_cases hm : slot.Matches poolId usage type
      · obtain ⟨c', hgive, hsame⟩ := h.giveUp hslot hm
        have hkey : Grant.key ⟨poolId, usage, type, slot.grant.idx⟩ = key := by
          rw [grant_of_matches hm]
          exact (h.keyed key slot hslot).1.symm
        have hok : ShadowOk { c with slots := c.slots.removeItem key } := by
          refine h.of_subset rfl fun k slot hk => ?_
          rw [KeyedVector.valueFor_removeItem] at hk
          split_ifs at hk
          exact ⟨slot, hk, rfl, rfl⟩
        obtain ⟨hnext, hitems, hout⟩ := ih hok
        have herase : (c.slots.removeItem key).items = c.slots.items.take i ++ c.slots.items.drop (i + 1) :=
          erase_eq c.slots.ascending hx
        have hlen : (c.slots.items.take i).length = i := length_take_of_le (Nat.le_of_lt hi)
        simp only [herase, take_left' hlen, drop_left' hlen] at hitems hout
        have hquiet : ClientEffect.crash ∉ (if slot.isAcquired = true then [ClientEffect.sentRelease slot.grant] else []) := by
          split_ifs <;> simp
        simp only [hm, hgive, hkey, hquiet, hsame]
        refine ⟨hnext, by simp [hitems, hm], ?_⟩
        by_cases hflag : slot.isAcquired = true <;> simp [hout, hm, hflag]
      · obtain ⟨hnext, hitems, hout⟩ := ih h
        simp only [hm]
        exact ⟨hnext, by simp [hitems, hm, hdrop], by simp [hout, hm]⟩

end Client

/-! ## Runs -/

namespace ClientSystem

open Client

/-- No slot that looks free is of a buffer the service has granted. -/
def NoneRegranted (s : ClientSystem) (poolId usage type : UInt32) : Prop :=
  ∀ x ∈ s.client.slots.items, Backup poolId usage type x → x.2.grant ∉ s.outstanding
  deriving Decidable

/-- An orderly call: where a flag that is down is relied on, the buffer has not been granted again; what the service
    grants has small numbers, can be requested, and was not given out as a backup; and a buffer is released for the pool,
    usage and type it is of. -/
def Orderly (s : ClientSystem) : ClientCall → Prop
  | .acquire poolId usage type _ .refused => NoneRegranted s poolId usage type
  | .acquire poolId usage type _ (.granted idx request) =>
    poolId.toNat < 2 ^ 22 ∧ idx.toNat < 8 ∧ request = .buffer ∧
      ∀ x ∈ s.client.slots.items, x.1 = Grant.key ⟨poolId, usage, type, idx⟩ → x.2.isAcquired = false
  | .release buffer poolId usage type _ =>
    ∀ x ∈ s.client.slots.items, x.2.buffer = buffer → x.2.Matches poolId usage type
  | .disconnect poolId usage type _ => NoneRegranted s poolId usage type

/-- What holds in every orderly run: what the service has granted has its slot, and what the caller has is in a slot
    whose flag is up or that the service has granted. -/
structure Shadowed (s : ClientSystem) : Prop where
  ok : ShadowOk s.client
  recorded : ∀ g ∈ s.outstanding, ∃ slot, s.client.slots.valueFor g.key = some slot ∧ slot.grant = g
  handed : ∀ e ∈ s.handed, ∃ key slot, s.client.slots.valueFor key = some slot ∧ slot.buffer = some e.buffer ∧
    slot.Matches e.poolId e.usage e.type ∧ (slot.isAcquired = true ∨ slot.grant ∈ s.outstanding)

variable {s : ClientSystem} {call : ClientCall} {c c' : Client} {out : List ClientEffect} {outstanding : List Grant}
  {handed : List Handed} {crashed : Bool}

/-! ### What is kept -/

/-- There is a slot of the grant. -/
def Recorded (c : Client) (g : Grant) : Prop := ∃ slot, c.slots.valueFor g.key = some slot ∧ slot.grant = g

/-- There is a slot of what was handed out, with its flag up or granted. -/
def Out (c : Client) (outstanding : List Grant) (e : Handed) : Prop :=
  ∃ key slot, c.slots.valueFor key = some slot ∧ slot.buffer = some e.buffer ∧
    slot.Matches e.poolId e.usage e.type ∧ (slot.isAcquired = true ∨ slot.grant ∈ outstanding)

theorem Recorded.marked {g : Grant} (h : Recorded c g) (key : UInt32) (flag : Bool) : Recorded (c.marked key flag) g := by
  obtain ⟨slot, hslot, hgrant⟩ := h
  refine ⟨if g.key = key then mark flag slot else slot, by rw [valueFor_marked, hslot, map_some], ?_⟩
  split_ifs <;> exact hgrant

theorem Out.mono {e : Handed} (h : Out c outstanding e) {outstanding' : List Grant}
    (hout : ∀ g ∈ outstanding, g ∈ outstanding') : Out c outstanding' e := by
  obtain ⟨key, slot, hslot, hb, hm, hcase⟩ := h
  exact ⟨key, slot, hslot, hb, hm, hcase.imp id (hout _)⟩

theorem Out.marked {e : Handed} (h : Out c outstanding e) (key : UInt32) : Out (c.marked key true) outstanding e := by
  obtain ⟨key', slot, hslot, hb, hm, hcase⟩ := h
  refine ⟨key', if key' = key then mark true slot else slot, by rw [valueFor_marked, hslot, map_some], ?_⟩
  split_ifs
  · exact ⟨hb, hm, .inl rfl⟩
  · exact ⟨hb, hm, hcase⟩

theorem Shadowed.out_of_handed (h : Shadowed s) {key : UInt32} {slot : BufferSlot} {b : Buffer}
    (hslot : s.client.slots.valueFor key = some slot) (hb : slot.buffer = some b) {e : Handed} (he : e ∈ s.handed)
    (heq : e.buffer = b) : slot.isAcquired = true ∨ slot.grant ∈ s.outstanding := by
  obtain ⟨key', slot', hslot', hb', -, hout⟩ := h.handed e he
  obtain ⟨-, rfl⟩ := h.ok.same_slot hslot hslot' (hb.trans (heq ▸ hb'.symm))
  exact hout

/-! ### The calls -/

/-- The call keeps the flags right and gives out no buffer twice. -/
def Fine (s : ClientSystem) (call : ClientCall) : Prop :=
  Shadowed (machine.next s call) ∧ NotTwice (machine.entry s call)

theorem shadowed_of_run (hrun : run s.client call = (c', out))
    (hs : Shadowed ⟨c', outstandingAfter out s call, handedAfter out s call, decide (ClientEffect.crash ∈ out)⟩)
    (hone : ∀ b, ClientEffect.handed b ∈ out → ∀ e ∈ s.handed, e.buffer ≠ b) :
    Fine s call := by
  simp only [Fine, NotTwice, machine, Transducer.next, Transducer.entry_out, Transducer.out, step, hrun]
  exact ⟨hs, hone⟩

theorem Shadowed.failed (h : Shadowed s) (hrun : run s.client call = (s.client, [.error]))
    (hout : ∀ g, g ∈ outstandingAfter [.error] s call ↔ g ∈ s.outstanding)
    (hhanded : ∀ e ∈ handedAfter [.error] s call, e ∈ s.handed) :
    Fine s call := by
  refine shadowed_of_run hrun ⟨h.ok, fun g hg => h.recorded g ((hout g).mp hg), fun e he => ?_⟩ (by simp)
  exact Out.mono (h.handed e (hhanded e he)) fun g => (hout g).mpr

variable {poolId usage type : UInt32} {connected : Bool}

theorem Shadowed.refused (h : Shadowed s) (hc : NoneRegranted s poolId usage type) :
    Fine s (.acquire poolId usage type connected .refused) := by
  by_cases hreach : Reaches usage type connected
  · cases hfind : s.client.slots.items.find? fun x => decide (Backup poolId usage type x) with
    | none => exact h.failed (by simp [run, acquire, hfind]) (by simp [outstandingAfter]) fun _ he => he
    | some x =>
      -- the slot is not granted, and its flag is down: the caller does not have its buffer
      have hmem := mem_of_find?_eq_some hfind
      have hbackup : Backup poolId usage type x := by simpa using find?_some hfind
      have hslot := mem_items_iff.mp hmem
      obtain ⟨b, hb, -⟩ := h.ok.buffers x.1 x.2 hslot
      have hrun : run s.client (.acquire poolId usage type connected .refused) = (s.client.marked x.1 true, [.handed b]) := by
        simp [run, acquire, if_pos hreach, hfind, hb, give, Client.marked]
      refine shadowed_of_run hrun ⟨h.ok.marked x.1 true, fun g hg => ?_, fun e he => ?_⟩ fun b' hb' e he heq => ?_
      · exact Recorded.marked (h.recorded g (mem_filter.mp hg).1) x.1 true
      · rcases mem_cons.mp he with rfl | he
        · refine ⟨x.1, mark true x.2, ?_, hb, hbackup.1, .inl rfl⟩
          rw [valueFor_marked, hslot, map_some, if_pos rfl]
        · exact ((show Out _ _ _ from h.handed e he).marked x.1).mono fun g hg => by simp [outstandingAfter, hg]
      · obtain rfl := ClientEffect.handed.inj (mem_singleton.mp hb')
        rcases h.out_of_handed hslot hb he heq with hflag | hgranted
        · exact absurd (hbackup.2.symm.trans hflag) Bool.false_ne_true
        · exact hc x hmem hbackup hgranted
  · exact h.failed (by simp [run, acquire, if_neg hreach]) (by simp [outstandingAfter]) fun _ he => he

theorem Shadowed.granted (h : Shadowed s) {idx : UInt32} {request : RequestAnswer}
    (hen : Enabled s (.acquire poolId usage type connected (.granted idx request)))
    (hc : Orderly s (.acquire poolId usage type connected (.granted idx request))) :
    Fine s (.acquire poolId usage type connected (.granted idx request)) := by
  obtain ⟨hpool, hidx, rfl, hflag⟩ := hc
  by_cases hreach : Reaches usage type connected
  · let g : Grant := ⟨poolId, usage, type, idx⟩
    have hsmall : g.Small := ⟨hpool, hreach.1, hreach.2.1, hidx⟩
    have hnew : g ∉ s.outstanding := hen.2
    have hout : ∀ out, outstandingAfter out s (.acquire poolId usage type connected (.granted idx .buffer)) =
        g :: s.outstanding := fun _ => if_pos hreach
    rcases hslot : s.client.slots.valueFor g.key with _ | slot
    · -- a new slot, with a buffer object that no one has
      let slots := s.client.slots.add g.key ⟨some s.client.nextBuffer, g, true⟩
      have hself : slots.valueFor g.key = some ⟨some s.client.nextBuffer, g, true⟩ := by
        rw [valueFor_add, if_pos rfl]
      have hkeep : ∀ {key slot}, s.client.slots.valueFor key = some slot → slots.valueFor key = some slot := by
        intro key slot' hslot'
        rw [valueFor_add, if_neg]
        · exact hslot'
        · rintro rfl
          exact absurd (hslot'.symm.trans hslot) (some_ne_none slot')
      refine shadowed_of_run (show _ = (⟨slots, s.client.nextBuffer + 1⟩, [.handed s.client.nextBuffer]) from ?_)
        ⟨h.ok.add hsmall, fun g' hg => ?_, fun e he => ?_⟩ fun b hb e he heq => ?_
      · simp [run, acquire, if_pos hreach, hslot, give, g, slots]
      · rcases mem_cons.mp (hout _ ▸ hg) with rfl | hg
        · exact ⟨_, hself, rfl⟩
        · obtain ⟨old, hold, hgrant⟩ := h.recorded g' hg
          exact ⟨old, hkeep hold, hgrant⟩
      · rw [hout]
        rcases mem_cons.mp he with rfl | he
        · exact ⟨_, _, hself, rfl, ⟨rfl, rfl, rfl⟩, .inl rfl⟩
        · obtain ⟨key', slot', hslot', hb', hm', hcase⟩ := h.handed e he
          exact ⟨key', slot', hkeep hslot', hb', hm', hcase.imp id (mem_cons_of_mem _)⟩
      · obtain rfl := ClientEffect.handed.inj (mem_singleton.mp hb)
        obtain ⟨key', slot', hslot', hb', -⟩ := h.handed e he
        obtain ⟨b, hb'', hlt⟩ := h.ok.buffers key' slot' hslot'
        rw [hb', heq] at hb''
        exact absurd (some.inj hb'') (Nat.ne_of_gt hlt)
    · -- the slot is there: its flag is down, and the service had not granted it
      have hgrant : slot.grant = g := (Grant.key_inj hsmall (h.ok.keyed _ slot hslot).2 (h.ok.keyed _ slot hslot).1).symm
      have hdown : slot.isAcquired = false := hflag (_, slot) (mem_items_iff.mpr hslot) rfl
      obtain ⟨b, hb, -⟩ := h.ok.buffers _ slot hslot
      refine shadowed_of_run (show _ = (s.client, [.handed b]) from ?_) ⟨h.ok, fun g' hg => ?_, fun e he => ?_⟩
        fun b' hb' e he heq => ?_
      · simp [run, acquire, if_pos hreach, hslot, hb, give, g]
      · rcases mem_cons.mp (hout _ ▸ hg) with rfl | hg
        · exact ⟨slot, hslot, hgrant⟩
        · exact h.recorded g' hg
      · rw [hout]
        rcases mem_cons.mp he with rfl | he
        · exact ⟨_, slot, hslot, hb, by rw [BufferSlot.Matches, hgrant]; exact ⟨rfl, rfl, rfl⟩, .inr (hgrant ▸ mem_cons_self)⟩
        · exact Out.mono (h.handed e he) fun _ => mem_cons_of_mem _
      · obtain rfl := ClientEffect.handed.inj (mem_singleton.mp hb')
        rcases h.out_of_handed hslot hb he heq with hup | hout
        · exact absurd (hdown.symm.trans hup) Bool.false_ne_true
        · exact hnew (hgrant ▸ hout)
  · exact h.failed (by simp [run, acquire, if_neg hreach]) (by simp [outstandingAfter, hreach]) fun _ he => he

theorem Shadowed.release (h : Shadowed s) {buffer : Option Buffer}
    (hc : Orderly s (.release buffer poolId usage type connected)) :
    Fine s (.release buffer poolId usage type connected) := by
  by_cases hreach : Reaches usage type connected
  · have hhanded : ∀ e, e ∈ handedAfter [] s (.release buffer poolId usage type connected) ↔
        e ∈ s.handed ∧ some e.buffer ≠ buffer := by simp [handedAfter, hreach]
    have hfailed := fun (hrun : run s.client (.release buffer poolId usage type connected) = _) => h.failed hrun
      (by simp [outstandingAfter]) fun e he => ((hhanded e).mp he).1
    cases buffer with
    | none => exact hfailed (by simp [run, Client.release])
    | some b =>
      have hrel : run s.client (.release (some b) poolId usage type connected) = s.client.releaseLocked b poolId usage type := by
        simp [run, Client.release, if_pos hreach]
      by_cases hex : ∃ key slot, s.client.slots.valueFor key = some slot ∧ slot.buffer = some b
      · obtain ⟨key, slot, hslot, hb⟩ := hex
        have hm : slot.Matches poolId usage type := hc (key, slot) (mem_items_iff.mpr hslot) hb
        refine shadowed_of_run (hrel.trans (h.ok.releaseLocked hslot hb hm))
          ⟨h.ok.marked key false, fun g hg => ?_, fun e he => ?_⟩
          (by simp)
        · exact Recorded.marked (h.recorded g (mem_filter.mp hg).1) key false
        · -- the slot of another buffer stays as it is, and the service keeps what it has granted of it
          obtain ⟨he, hne⟩ := (hhanded e).mp he
          obtain ⟨key', slot', hslot', hb', hm', hcase⟩ := h.handed e he
          have hkey : key' ≠ key := by
            rintro rfl
            rw [some.inj (hslot.symm.trans hslot'), hb'] at hb
            exact hne hb
          have hgrant : slot'.grant ≠ slot.grant := fun heq =>
            hkey (by rw [(h.ok.keyed key' slot' hslot').1, (h.ok.keyed key slot hslot).1, heq])
          refine ⟨key', slot', by rw [valueFor_marked, hslot', map_some, if_neg hkey], hb', hm', hcase.imp id fun hg => ?_⟩
          exact mem_filter.mpr ⟨hg, by simp [hgrant]⟩
      · exact hfailed (hrel.trans (h.ok.releaseLocked_unknown fun key slot hslot hb => hex ⟨key, slot, hslot, hb⟩))
  · exact h.failed (by simp [run, Client.release, if_neg hreach]) (by simp [outstandingAfter])
      (by simp [handedAfter, hreach])

theorem Shadowed.flag_up (h : Shadowed s) (hc : NoneRegranted s poolId usage type) {g : Grant} (hg : g ∈ s.outstanding)
    (hm : g.poolId = poolId ∧ g.usage = usage ∧ g.type = type) :
    ∃ slot, (g.key, slot) ∈ s.client.slots.items ∧ slot.grant = g ∧ slot.Matches poolId usage type ∧
      slot.isAcquired = true := by
  obtain ⟨slot, hslot, rfl⟩ := h.recorded g hg
  have hmem := mem_items_iff.mpr hslot
  refine ⟨slot, hmem, rfl, hm, ?_⟩
  by_contra hdown
  exact hc _ hmem ⟨hm, (Bool.not_eq_true _).mp hdown⟩ hg

theorem givenBack_of (h : Reaches usage type connected → ∀ g ∈ s.outstanding,
      g.poolId = poolId ∧ g.usage = usage ∧ g.type = type →
        ClientEffect.sentRelease g ∈ (run s.client (.disconnect poolId usage type connected)).2) :
    GivenBack (machine.entry s (.disconnect poolId usage type connected)) := by
  intro poolId' usage' type' connected' heq hreach g hg hpool husage htype
  obtain ⟨rfl, rfl, rfl, rfl⟩ := ClientCall.disconnect.inj heq
  exact h hreach g hg ⟨hpool, husage, htype⟩

theorem Shadowed.disconnect (h : Shadowed s) (hc : NoneRegranted s poolId usage type) :
    Fine s (.disconnect poolId usage type connected) ∧
      GivenBack (machine.entry s (.disconnect poolId usage type connected)) := by
  by_cases hreach : Reaches usage type connected
  · have hhanded : ∀ e, e ∈ handedAfter [] s (.disconnect poolId usage type connected) ↔
        e ∈ s.handed ∧ ¬(e.poolId = poolId ∧ e.usage = usage ∧ e.type = type) := by
      simp only [handedAfter, if_pos hreach, mem_filter, decide_eq_true_eq, implies_true]
    by_cases hsize : s.client.slots.size = 0
    · -- without a slot, nothing is granted
      refine ⟨h.failed (by simp [run, Client.disconnect, hsize]) (by simp [outstandingAfter])
        fun e he => ((hhanded e).mp he).1, givenBack_of fun _ g hg hm => ?_⟩
      obtain ⟨slot, hmem, -⟩ := h.flag_up hc hg hm
      rw [eq_nil_of_length_eq_zero hsize] at hmem
      exact absurd hmem not_mem_nil
    · obtain ⟨hnext, hitems, hout⟩ := h.ok.disconnectFrom poolId usage type s.client.slots.size
      have hrun : run s.client (.disconnect poolId usage type connected) =
          let r := s.client.disconnectFrom poolId usage type s.client.slots.size
          if ClientEffect.crash ∈ r.2 then r else (r.1, r.2 ++ [.sentDisconnect poolId usage type]) := by
        simp [run, Client.disconnect, hreach, hsize]
      generalize s.client.disconnectFrom poolId usage type s.client.slots.size = r at hnext hitems hout hrun
      rw [size] at hitems hout
      have hkeep : ∀ key slot, r.1.slots.valueFor key = some slot ↔
          s.client.slots.valueFor key = some slot ∧ ¬slot.Matches poolId usage type := by
        simp [← mem_items_iff, hitems]
      have hsent : ∀ g, ClientEffect.sentRelease g ∈ r.2 ++ [.sentDisconnect poolId usage type] ↔
          ∃ x ∈ s.client.slots.items, (x.2.Matches poolId usage type ∧ x.2.isAcquired = true) ∧ x.2.grant = g := by
        simp [hout, and_assoc]
      have hgiven : ∀ g ∈ s.outstanding, g.poolId = poolId ∧ g.usage = usage ∧ g.type = type →
          ClientEffect.sentRelease g ∈ r.2 ++ [.sentDisconnect poolId usage type] := by
        intro g hg hm
        obtain ⟨slot, hmem, hgrant, hm, hflag⟩ := h.flag_up hc hg hm
        exact (hsent g).mpr ⟨_, hmem, ⟨hm, hflag⟩, hgrant⟩
      have hrun' := hrun.trans (if_neg (by simp [hout]))
      refine ⟨shadowed_of_run hrun' ⟨?_, fun g hg => ?_, fun e he => ?_⟩ (by simp [hout]), givenBack_of fun _ g hg hm => ?_⟩
      · exact h.ok.of_subset hnext fun key slot hslot => ⟨slot, ((hkeep key slot).mp hslot).1, rfl, rfl⟩
      · obtain ⟨hg, hnot⟩ := mem_filter.mp hg
        obtain ⟨slot, hslot, rfl⟩ := h.recorded g hg
        exact ⟨slot, (hkeep _ slot).mpr ⟨hslot, fun hm => of_decide_eq_true hnot (hgiven _ hg hm)⟩, rfl⟩
      · -- the slot is of another pool, usage or display: it stays, and nothing is given back of it
        obtain ⟨he, hne⟩ := (hhanded e).mp he
        obtain ⟨key, slot, hslot, hb, hm, hcase⟩ := h.handed e he
        have hother : ¬slot.Matches poolId usage type := fun hm' =>
          hne ⟨hm.1.symm.trans hm'.1, hm.2.1.symm.trans hm'.2.1, hm.2.2.symm.trans hm'.2.2⟩
        refine ⟨key, slot, (hkeep key slot).mpr ⟨hslot, hother⟩, hb, hm, hcase.imp id fun hg => mem_filter.mpr ⟨hg, ?_⟩⟩
        refine decide_eq_true fun hs => hother ?_
        obtain ⟨x, -, hxm, hgrant⟩ := (hsent _).mp hs
        rw [BufferSlot.Matches, ← hgrant]
        exact hxm.1
      · rw [hrun']
        exact hgiven g hg hm
  · exact ⟨h.failed (by simp [run, Client.disconnect, hreach]) (by simp [outstandingAfter])
      (by simp [handedAfter, hreach]), givenBack_of fun hreach' => absurd hreach' hreach⟩

theorem Shadowed.init : Shadowed ClientSystem.init where
  ok := ⟨fun _ _ h => absurd h.symm (some_ne_none _), fun _ _ h => absurd h.symm (some_ne_none _),
    fun _ _ _ _ h => absurd h.symm (some_ne_none _)⟩
  recorded := fun _ hg => absurd hg not_mem_nil
  handed := fun _ he => absurd he not_mem_nil

/-- **One call.** -/
theorem Shadowed.step (h : Shadowed s) {call : ClientCall} (hen : Enabled s call) (hc : Orderly s call) :
    Fine s call ∧ GivenBack (machine.entry s call) := by
  have hother : (∀ poolId usage type connected, call ≠ .disconnect poolId usage type connected) →
      GivenBack (machine.entry s call) :=
    fun hne poolId usage type connected heq => absurd heq (hne poolId usage type connected)
  match call, hen, hc, hother with
  | .acquire poolId usage type connected .refused, _, hc, hother =>
    exact ⟨h.refused hc, hother fun _ _ _ _ => by simp⟩
  | .acquire poolId usage type connected (.granted idx request), hen, hc, hother =>
    exact ⟨h.granted hen hc, hother fun _ _ _ _ => by simp⟩
  | .release buffer poolId usage type connected, _, hc, hother =>
    exact ⟨h.release hc, hother fun _ _ _ _ => by simp⟩
  | .disconnect poolId usage type connected, _, hc, _ => exact h.disconnect hc

/-- **A buffer is given out once, and all are given back.** In every run whose calls are all orderly, a buffer that
    `acquire` returns is not one that it has returned and that was neither released nor disconnected, and `disconnect`
    gives back to the service all that it has granted of the pool. -/
theorem buffers_given_once {tr : List (Transducer.Entry ClientSystem ClientCall ClientEffect)} {s : ClientSystem}
    (h : machine.Run tr s) (hc : ∀ x ∈ tr, Orderly x.pre x.event) : ∀ x ∈ tr, NotTwice x ∧ GivenBack x :=
  (h.outputs_along (M := machine) (I := Shadowed) (C := fun x => Orderly x.pre x.event)
    (O := fun x => NotTwice x ∧ GivenBack x) Shadowed.init (fun _ _ hs hen hord => and_assoc.mp (hs.step hen hord)) hc).2

instance instDecidableOrderly (s : ClientSystem) : (call : ClientCall) → Decidable (Orderly s call)
  | .acquire poolId usage type _ .refused | .disconnect poolId usage type _ =>
    inferInstanceAs (Decidable (NoneRegranted s poolId usage type))
  | .acquire _ _ _ _ (.granted _ _) => inferInstanceAs (Decidable (_ ∧ _))
  | .release _ _ _ _ _ => inferInstanceAs (Decidable (∀ x ∈ s.client.slots.items, _))

/-- A buffer is granted, released, granted again and released again, then given out as a backup and disconnected. -/
theorem buffers_given_once_again :
    let calls : List ClientCall := [.acquire 1 1 0 true (.granted 0 .buffer), .release (some 0) 1 1 0 true,
      .acquire 1 1 0 true (.granted 0 .buffer), .release (some 0) 1 1 0 true, .acquire 1 1 0 true .refused,
      .acquire 1 1 0 true (.granted 1 .buffer), .disconnect 1 1 0 true]
    (machine.exec calls).2.handed = [] ∧ ∀ x ∈ (machine.exec calls).1, NotTwice x ∧ GivenBack x :=
  ⟨by decide +kernel,
    buffers_given_once (machine.run_exec (of_decide_eq_true rfl)) (machine.exec_along (of_decide_eq_true rfl))⟩

/-- A buffer is granted, released and granted again; the next `acquire` is refused, and gives it out a second time. -/
theorem buffer_given_twice :
    let calls : List ClientCall := [.acquire 1 1 0 true (.granted 0 .buffer), .release (some 0) 1 1 0 true,
      .acquire 1 1 0 true (.granted 0 .buffer), .acquire 1 1 0 true .refused]
    machine.Run (machine.exec calls).1 (machine.exec calls).2 ∧
      Transducer.outs (machine.exec calls).1 = [.handed 0, .sentRelease ⟨1, 1, 0, 0⟩, .handed 0, .handed 0] ∧
      ¬∀ x ∈ (machine.exec calls).1, NotTwice x ∧ GivenBack x := by
  intro calls
  refine ⟨machine.run_exec (of_decide_eq_true rfl), by decide +kernel, fun hall => ?_⟩
  have hlast : machine.entry (machine.exec (calls.take 3)).2 (.acquire 1 1 0 true .refused) ∈ (machine.exec calls).1 :=
    mem_append_right _ (mem_singleton_self _)
  exact (hall _ hlast).1 0 (by decide +kernel) ⟨0, 1, 1, 0⟩ (by decide +kernel) rfl

end ClientSystem

end HuaweiY5.GuiExt
