import Mathlib.Data.List.Induction
import Mathlib.Data.Nat.ModEq

/-!
# `Gem.RingBuffer` — the history ring

`RingBuffer<TYPE>` without a custom pusher against the list of what was pushed since its size last changed.
-/

namespace HuaweiY5.Gem

open List

variable {α : Type}

/-- `RingBuffer<TYPE>`. -/
structure RingBuffer (α : Type) where
  mBuffer : List α
  mHead : Nat
  mSize : Nat
  mCount : Nat

namespace RingBuffer

def new : RingBuffer α := ⟨[], 0, 0, 0⟩

variable (r : RingBuffer α)

def getValidSize : Nat := if r.mSize < r.mCount then r.mSize else r.mCount

/-- `Dumper::getItem`; `idx` and the sum are of type `uint32_t`. -/
def getItem (idx : Nat) : Option α :=
  let oldest := if r.mSize < r.mCount then r.mHead else 0
  r.mBuffer[(oldest + idx) % 2 ^ 32 % r.mSize]?

def resize [Inhabited α] (r : RingBuffer α) (size : Nat) : RingBuffer α :=
  if r.mSize ≠ size then ⟨replicate size default, 0, size, 0⟩ else r

/-- `push`, which writes the item at `mHead`. -/
def push (x : α) : RingBuffer α where
  mBuffer := r.mBuffer.set r.mHead x
  mHead := if r.mSize ≤ r.mHead + 1 then 0 else r.mHead + 1
  mSize := r.mSize
  mCount := (r.mCount + 1) % 2 ^ 64

inductive Op (α : Type)
  | resize (size : Nat)
  | push (x : α)

def apply [Inhabited α] (r : RingBuffer α) : Op α → RingBuffer α
  | .resize size => r.resize size
  | .push x => r.push x

/-- The size, and what was pushed since it last changed. -/
def since : List (Op α) → Nat × List α :=
  foldl (fun p op => match op with
    | .resize size => if p.1 ≠ size then (size, []) else p
    | .push x => (p.1, p.2 ++ [x])) (0, [])

theorem since_snoc (ops : List (Op α)) (op : Op α) : since (ops ++ [op]) = match op with
      | .resize size => if (since ops).1 ≠ size then (size, []) else since ops
      | .push x => ((since ops).1, (since ops).2 ++ [x]) := foldl_append

theorem since_pushes (n : Nat) (hn : 0 < n) (l : List α) : since (.resize n :: l.map .push) = (n, l) := by
  induction l using reverseRecOn with
  | nil => exact if_pos hn.ne
  | append_singleton l x ih =>
    rw [map_append, ← cons_append, map_singleton, since_snoc, ih]

/-- The ring of size `m` after the items `l`. -/
structure Holds (r : RingBuffer α) (m : Nat) (l : List α) : Prop where
  positive : 0 < m
  size : r.mSize = m
  length : r.mBuffer.length = m
  head : r.mHead = l.length % m
  count : r.mCount = l.length % 2 ^ 64
  cells : ∀ j < l.length, l.length ≤ j + m → r.mBuffer[j % m]? = l[j]?

variable {r : RingBuffer α} {m : Nat} {l : List α}

theorem Holds.push (h : r.Holds m l) (x : α) : (r.push x).Holds m (l ++ [x]) := by
  have hm := h.positive
  have hhead : r.mHead < m := h.head ▸ Nat.mod_lt _ hm
  refine ⟨hm, h.size, length_set.trans h.length, ?_, ?_, fun j hj hrecent => ?_⟩
  · rw [length_append, length_singleton, Nat.add_mod_eq_ite, ← h.head]
    show (if r.mSize ≤ _ then _ else _) = _
    rw [h.size]
    rcases Nat.eq_or_lt_of_le hm with rfl | hm'
    · rw [Nat.lt_one_iff.mp hhead]
      rfl
    · rw [Nat.mod_eq_of_lt hm']
      split_ifs <;> omega
  · show (r.mCount + 1) % _ = _
    rw [h.count, Nat.mod_add_mod, length_append]
    rfl
  · rw [length_append, length_singleton] at hj hrecent
    show (r.mBuffer.set _ _)[_]? = _
    rcases Nat.lt_succ_iff_lt_or_eq.mp hj with hold | rfl
    · -- the entry overwritten is the one of `m` pushes before
      have hne : r.mHead ≠ j % m := by
        rw [h.head]
        intro heq
        have hdvd := Nat.sub_mod_eq_zero_of_mod_eq heq
        rw [Nat.mod_eq_of_lt (by omega)] at hdvd
        omega
      rw [getElem?_set_ne hne, h.cells j hold (by omega), getElem?_append_left hold]
    · rw [← h.head, getElem?_set_self (h.length ▸ hhead), getElem?_concat_length]

theorem Holds.getItem (h : r.Holds m l) (hsize : m ≤ 2 ^ 31) (hcount : l.length < 2 ^ 64) :
    r.getValidSize = min m l.length ∧ ∀ i < r.getValidSize, r.getItem i = (l.drop (l.length - m))[i]? := by
  have hvalid : r.getValidSize = min m l.length := by
    rw [getValidSize, h.size, h.count]
    split_ifs <;> omega
  refine ⟨hvalid, fun i hi => ?_⟩
  have hm := h.positive
  have hhead : r.mHead < m := h.head ▸ Nat.mod_lt _ hm
  rw [RingBuffer.getItem, h.size, h.count, Nat.mod_eq_of_lt hcount, getElem?_drop, ← h.cells _ (by omega) (by omega)]
  split_ifs with hwrapped
  · rw [Nat.mod_eq_of_lt (a := r.mHead + i) (by omega), h.head, Nat.mod_add_mod,
      show l.length + i = l.length - m + i + m from by omega, Nat.add_mod_right]
  · rw [Nat.mod_eq_of_lt (a := 0 + i) (by omega), Nat.sub_eq_zero_of_le (Nat.not_lt.mp hwrapped)]

variable [Inhabited α]

theorem holds_nil {size : Nat} (h : 0 < size) : Holds ⟨replicate size (default : α), 0, size, 0⟩ size [] :=
  ⟨h, rfl, length_replicate, (Nat.zero_mod _).symm, rfl, fun _ hj => absurd hj (Nat.not_lt_zero _)⟩

/-- **Whole sequences.** After a first `resize` and any operations the ring holds what was pushed, and its size is one
    it was given. -/
theorem holds_since {n : Nat} (ops : List (Op α)) (hsizes : ∀ size, .resize size ∈ .resize n :: ops → 0 < size) :
    ((.resize n :: ops).foldl apply new).Holds (since (.resize n :: ops)).1 (since (.resize n :: ops)).2 ∧
      .resize (since (.resize n :: ops)).1 ∈ .resize n :: ops := by
  induction ops using reverseRecOn with
  | nil =>
    have hn : 0 < n := hsizes n mem_cons_self
    have hsince : since [Op.resize (α := α) n] = (n, []) := if_pos hn.ne
    rw [hsince, foldl_cons, apply, RingBuffer.resize, if_pos (show new.mSize ≠ n from hn.ne)]
    exact ⟨holds_nil hn, mem_cons_self⟩
  | append_singleton ops op ih =>
    obtain ⟨hbefore, hgiven⟩ := ih fun size hmem => hsizes size (mem_append_left [op] hmem)
    rw [← cons_append, foldl_append, since_snoc]
    cases op with
    | resize size =>
      have hmem : Op.resize size ∈ .resize n :: ops ++ [.resize size] := mem_append_right _ (mem_singleton_self _)
      show (RingBuffer.resize _ size).Holds _ _ ∧ _
      rw [RingBuffer.resize, hbefore.size]
      dsimp only
      split_ifs
      · exact ⟨holds_nil (hsizes size hmem), hmem⟩
      · exact ⟨hbefore, mem_append_left _ hgiven⟩
    | push x => exact ⟨hbefore.push x, mem_append_left _ hgiven⟩

/-- **The ring is a bounded queue.** After a first `resize` and any operations, no push is outside the buffer; with
    sizes of at most `2 ^ 31` and fewer than `2 ^ 64` pushes since the size last changed, the items read are the last
    ones pushed, the oldest first. -/
theorem ring_is_bounded_queue {n : Nat} (ops : List (Op α))
    (hsizes : ∀ size, .resize size ∈ .resize n :: ops → 0 < size ∧ size ≤ 2 ^ 31)
    (hcount : (since (.resize n :: ops)).2.length < 2 ^ 64) :
    let r := (.resize n :: ops).foldl apply new
    let p := since (.resize n :: ops)
    r.mHead < r.mBuffer.length ∧ r.getValidSize = min p.1 p.2.length ∧
      ∀ i < r.getValidSize, r.getItem i = (p.2.drop (p.2.length - p.1))[i]? := by
  obtain ⟨h, hgiven⟩ := holds_since ops fun size hmem => (hsizes size hmem).1
  refine ⟨?_, h.getItem (hsizes _ hgiven).2 hcount⟩
  rw [h.head, h.length]
  exact Nat.mod_lt _ h.positive

/-- Two entries and three pushes: the oldest has been overwritten. -/
theorem ring_is_bounded_queue_two :
    let r := [.resize 2, .push 'a', .push 'b', .push 'c'].foldl apply new
    r.getValidSize = 2 ∧ r.getItem 1 = some 'c' := by
  intro r
  have h := ring_is_bounded_queue (n := 2) [.push 'a', .push 'b', .push 'c'] (by simp) (by decide)
  exact ⟨h.2.1, h.2.2 1 (by rw [h.2.1]; decide)⟩

/-- In a ring of `2 ^ 31 + 1` entries that has wrapped round, the sum in `getItem` does so too: the entry read is
    another one. -/
theorem large_ring_misread :
    let r := ((.resize (2 ^ 31 + 1) : Op Nat) :: (range (2 ^ 32 + 1)).map .push).foldl apply new
    2 ^ 31 < r.getValidSize ∧ r.getItem (2 ^ 31) = some (2 ^ 31 + 1) ∧
      ((range (2 ^ 32 + 1)).drop (2 ^ 31))[2 ^ 31]? = some (2 ^ 32) := by
  obtain ⟨h, -⟩ := holds_since (n := 2 ^ 31 + 1) ((range (2 ^ 32 + 1)).map .push) (by simp)
  rw [since_pushes _ (by decide)] at h
  dsimp only at h
  have hcount := h.count
  have hhead := h.head
  have hcell := h.cells (2 ^ 31 + 1) (by simp) (by simp)
  rw [length_range] at hcount hhead
  refine ⟨?_, ?_, ?_⟩
  · rw [getValidSize, h.size, hcount]
    decide
  · rw [RingBuffer.getItem, h.size, hcount, hhead]
    rw [getElem?_range (by decide)] at hcell
    exact hcell
  · rw [getElem?_drop]
    exact getElem?_range (by decide)

end RingBuffer

end HuaweiY5.Gem
