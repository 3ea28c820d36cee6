import HuaweiY5.Fm.Seek
import Mathlib.Algebra.Ring.Int.Defs
import Mathlib.Algebra.Ring.Nat

/-!
# `Fm.SeekBand` — which channels a seek probes, and which it returns

The channels of a band are a grid, `lower + k * space`. A seek is to go round the grid from where it starts, to the
first channel that passes, and to take the better one of the next two, if they are in the band. `FMR_seek` counts in
`int` and looks ahead in `unsigned int`; `seek_sought_iff` says for which bands, starts and directions that makes no
difference.
-/

namespace HuaweiY5.Fm

open List Option
open Core (ahead countUp fmrSeek init moreFreq passes scan scan_of_none)

/-- `radio_direction_t`. -/
inductive Direction
  | up
  | down
  deriving DecidableEq

def Direction.code : Direction → UInt32
  | up => 0
  | down => 1

/-- A band to seek in: the limits are in order, and the first spacing is a byte and not zero. -/
structure SeekBand where
  config : BandConfig
  ordered : config.lowerLimit ≤ config.upperLimit
  spaced : 0 < config.spacings.headD 0
  narrow : config.spacings.headD 0 ≤ 255

namespace SeekBand

variable (b : SeekBand)

/-! ## The grid -/

def lower : Nat := b.config.lowerLimit.toNat

def upper : Nat := b.config.upperLimit.toNat

def space : Nat := (b.config.spacings.headD 0).toNat

def count : Nat := (b.upper - b.lower) / b.space + 1

def channel (k : Nat) : Nat := b.lower + k * b.space

def freq (k : Nat) : UInt32 := UInt32.ofNat (b.channel k)

def clamp (startFreq : UInt32) : UInt32 := if b.config.Within startFreq then startFreq else b.config.lowerLimit

def index (startFreq : UInt32) : Nat := ((b.clamp startFreq).toNat - b.lower) / b.space

/-- The indices other than the start's, round the grid in the direction. -/
def circular (start : Nat) : Direction → List Nat
  | .up => (List.range (b.count - 1)).map fun j => (start + 1 + j) % b.count
  | .down => (List.range (b.count - 1)).map fun j => (start + (b.count - 1 - j)) % b.count

/-- The next index in the direction, if the band has one. -/
def next (dir : Direction) (k : Nat) : Option Nat :=
  match dir with
  | .up => if k + 1 < b.count then some (k + 1) else none
  | .down => if 0 < k then some (k - 1) else none

/-- The next `n` indices in the direction, as far as the band goes. -/
def nexts (dir : Direction) : Nat → Nat → List Nat
  | 0, _ => []
  | n + 1, k =>
    match b.next dir k with
    | none => []
    | some k' => k' :: nexts dir n k'

def nextTwo (dir : Direction) (k : Nat) : List Nat := b.nexts dir 2 k

end SeekBand

/-- What is expected of the outcome of a seek. -/
structure Sought (b : SeekBand) (dir : Direction) (startFreq : UInt32) (driver : Driver) (fakeChan : List FakeChannel)
    (o : Outcome) : Prop where
  /-- No channel passes: the whole grid has been probed, and the start channel is reported. -/
  fails : (∀ k ∈ b.circular (b.index startFreq) dir, ¬passes driver fakeChan (b.freq k)) →
    o = ⟨-1, b.clamp startFreq, (b.circular (b.index startFreq) dir).map b.freq⟩
  /-- The first channel that passes: it has been probed behind those before it, then the next two in the band. The
      result is this channel, or one of the two that passes and is stronger. -/
  finds : ∀ before k after, b.circular (b.index startFreq) dir = before ++ k :: after →
    (∀ j ∈ before, ¬passes driver fakeChan (b.freq j)) → passes driver fakeChan (b.freq k) →
      o.ret = 0 ∧ o.probed = (before ++ k :: b.nextTwo dir k).map b.freq ∧
        (o.channel = b.freq k ∨ ∃ k' ∈ b.nextTwo dir k, o.channel = b.freq k' ∧
          passes driver fakeChan (b.freq k') ∧ (driver (b.freq k)).rssi < (driver (b.freq k')).rssi)
  /-- A channel that is found is one of the band. -/
  inBand : o.ret = 0 → ∃ k, o.channel.toNat = b.channel k ∧ b.lower ≤ b.channel k ∧ b.channel k ≤ b.upper

namespace SeekBand

/-- The loops count the indices right: they fit an `int`, or the start is where the numbers change their sign. -/
def Counts (b : SeekBand) (start : Nat) : Direction → Prop
  | .up => b.count < 2 ^ 31 ∨ (b.count < 2 ^ 32 ∧ start = 2 ^ 31 - 1)
  | .down => b.count ≤ 2 ^ 31 ∨ (b.count < 2 ^ 32 ∧ start = 2 ^ 31)

/-- The look-ahead does not wrap around behind the last channel. -/
def Stays (b : SeekBand) : Direction → Prop
  | .up => b.channel b.count < 2 ^ 32
  | .down => b.space ≤ b.lower

variable {b : SeekBand} {k : Nat}

theorem space_pos (b : SeekBand) : 0 < b.space := UInt32.lt_iff_toNat_lt.mp b.spaced

theorem space_le (b : SeekBand) : b.space ≤ 255 := UInt32.le_iff_toNat_le.mp b.narrow

theorem lower_le (b : SeekBand) : b.lower ≤ b.upper := UInt32.le_iff_toNat_le.mp b.ordered

theorem upper_lt (b : SeekBand) : b.upper < 2 ^ 32 := b.config.upperLimit.toNat_lt

theorem count_pos (b : SeekBand) : 0 < b.count := Nat.succ_pos _

theorem lt_count_iff : k < b.count ↔ b.channel k ≤ b.upper := by
  have hle := b.lower_le
  rw [count, Nat.lt_succ_iff, Nat.le_div_iff_mul_le b.space_pos, channel]
  omega

theorem channel_lt (h : k < b.count) : b.channel k < 2 ^ 32 := Nat.lt_of_le_of_lt (lt_count_iff.mp h) b.upper_lt

theorem toNat_freq (h : k < b.count) : (b.freq k).toNat = b.channel k := UInt32.toNat_ofNat_of_lt' (channel_lt h)

theorem channel_inj {j : Nat} (h : b.channel j = b.channel k) : j = k :=
  Nat.eq_of_mul_eq_mul_right b.space_pos (Nat.add_left_cancel h)

theorem freq_inj {j : Nat} (hj : j < b.count) (hk : k < b.count) (h : b.freq j = b.freq k) : j = k := by
  apply channel_inj (b := b)
  rw [← toNat_freq hj, ← toNat_freq hk, h]

theorem count_le (b : SeekBand) : b.count ≤ 2 ^ 32 := by
  have hlast : b.channel (b.count - 1) < 2 ^ 32 := channel_lt (by have := b.count_pos; omega)
  have hmul : b.count - 1 ≤ (b.count - 1) * b.space := Nat.le_mul_of_pos_right _ b.space_pos
  rw [channel] at hlast
  omega

theorem channel_succ (b : SeekBand) (k : Nat) : b.channel (k + 1) = b.channel k + b.space := by
  rw [channel, channel, Nat.succ_mul, Nat.add_assoc]

theorem clamp_bounds (b : SeekBand) (startFreq : UInt32) :
    b.lower ≤ (b.clamp startFreq).toNat ∧ (b.clamp startFreq).toNat ≤ b.upper := by
  unfold clamp
  split
  · rename_i h
    simp only [BandConfig.Within, not_or, UInt32.not_lt] at h
    exact h
  · exact ⟨Nat.le_refl _, b.lower_le⟩

theorem index_lt (b : SeekBand) (startFreq : UInt32) : b.index startFreq < b.count := by
  obtain ⟨_, hle⟩ := b.clamp_bounds startFreq
  exact Nat.lt_succ_of_le (Nat.div_le_div_right (Nat.sub_le_sub_right hle _))

/-! ## The loops -/

/-- The indices of the loops of `FMR_seek`: a loop whose limit has become negative does not run, nor does one that
    would have to start from a negative number. -/
def loops (b : SeekBand) (start : Nat) : Direction → List Nat
  | .up =>
    (if b.count < 2 ^ 31 ∨ 2 ^ 31 ≤ start + 1 then (List.range (b.count - 1 - start)).map (start + 1 + ·) else []) ++
      (if start < 2 ^ 31 then List.range start else [])
  | .down =>
    (if start ≤ 2 ^ 31 then (List.range start).map (start - 1 - ·) else []) ++
      (if b.count ≤ 2 ^ 31 ∨ 2 ^ 31 ≤ start then (List.range (b.count - 1 - start)).map (b.count - 1 - ·) else [])

end SeekBand

namespace Core

theorem toInt_eq (n : UInt32) : toInt n = if n.toNat < 2 ^ 31 then (n.toNat : Int) else (n.toNat : Int) - 2 ^ 32 := by
  show n.toBitVec.toInt = _
  rw [BitVec.toInt_eq_toNat_cond]
  have hnat : n.toBitVec.toNat = n.toNat := rfl
  split <;> split <;> omega

theorem channels_of_up {p : SeekParm} (h : p.dir = 0) (startFreq number : UInt32) :
    channels p startFreq number =
      (countUp (toInt ((startFreq - p.minFreq) / p.space + 1)) (toInt number) ++
        countUp 0 (toInt ((startFreq - p.minFreq) / p.space))).map fun i => p.minFreq + p.space * UInt32.ofInt i := by
  unfold channels
  dsimp only
  rw [if_pos h]

theorem channels_of_down {p : SeekParm} (h : p.dir ≠ 0) (startFreq number : UInt32) :
    channels p startFreq number =
      (countDown (toInt ((startFreq - p.minFreq) / p.space - 1)) 0 ++
        countDown (toInt (number - 1)) (toInt ((startFreq - p.minFreq) / p.space) + 1)).map
          fun i => p.minFreq + p.space * UInt32.ofInt i := by
  unfold channels
  dsimp only
  rw [if_neg h]

theorem ofInt_eq_ofNat {i : Int} {k : Nat} (h : (i - k) % 2 ^ 32 = 0) : UInt32.ofInt i = UInt32.ofNat k := by
  apply UInt32.toNat_inj.mp
  rw [UInt32.ofInt, UInt32.toNat_ofNat', UInt32.toNat_ofNat']
  omega

end Core

namespace SeekBand

variable {b : SeekBand} {start : Nat} {startFreq : UInt32}

variable {k : Nat} {dir : Direction}

theorem freq_of_ofInt (b : SeekBand) {i : Int} (h : (i - k) % 2 ^ 32 = 0) :
    b.config.lowerLimit + b.config.spacings.headD 0 * UInt32.ofInt i = b.freq k := by
  rw [Core.ofInt_eq_ofNat h, freq, channel, UInt32.ofNat_add, UInt32.ofNat_mul, lower, space, UInt32.ofNat_toNat,
    UInt32.ofNat_toNat, UInt32.mul_comm]

def parm (b : SeekBand) (startFreq : UInt32) (dir : Direction) : SeekParm :=
  ⟨dir.code, b.config.spacings.headD 0, b.config.lowerLimit, b.config.upperLimit, b.clamp startFreq⟩

theorem map_countUp (b : SeekBand) {lo hi : Int} {n : Nat} {c : Prop} [Decidable c]
    (hlen : (hi - lo).toNat = if c then n else 0) (hlo : (lo - k) % 2 ^ 32 = 0) :
    ((countUp lo hi).map fun i => b.config.lowerLimit + b.config.spacings.headD 0 * UInt32.ofInt i) =
      (if c then (List.range n).map (k + ·) else []).map b.freq := by
  have hlist : (if c then (List.range n).map (k + ·) else []) = (List.range (if c then n else 0)).map (k + ·) := by
    split <;> rfl
  rw [countUp, hlist, hlen, List.map_map, List.map_map]
  refine map_congr_left fun j _ => ?_
  have hdiff : (lo + (j : Int) - ((k + j : Nat) : Int)) % 2 ^ 32 = 0 := by omega
  exact b.freq_of_ofInt hdiff

theorem map_countDown (b : SeekBand) {hi lo : Int} {n : Nat} {c : Prop} [Decidable c]
    (hlen : (hi - lo + 1).toNat = if c then n else 0) (hle : n ≤ k + 1)
    (hhi : c → 0 < n → (hi - k) % 2 ^ 32 = 0) :
    ((Core.countDown hi lo).map fun i => b.config.lowerLimit + b.config.spacings.headD 0 * UInt32.ofInt i) =
      (if c then (List.range n).map (k - ·) else []).map b.freq := by
  rw [Core.countDown, hlen]
  split
  · rename_i hc
    rw [List.map_map, List.map_map]
    refine map_congr_left fun j hj => ?_
    have hlt := mem_range.mp hj
    have hmod := hhi hc (by omega)
    have hdiff : (hi - (j : Int) - ((k - j : Nat) : Int)) % 2 ^ 32 = 0 := by omega
    exact b.freq_of_ofInt hdiff
  · rfl

theorem toNat_start (b : SeekBand) (startFreq : UInt32) :
    ((b.clamp startFreq - b.config.lowerLimit) / b.config.spacings.headD 0).toNat = b.index startFreq := by
  obtain ⟨hle, _⟩ := b.clamp_bounds startFreq
  rw [UInt32.toNat_div, UInt32.toNat_sub_of_le _ _ (UInt32.le_iff_toNat_le.mpr hle)]
  rfl

theorem toNat_bandChannelNo (b : SeekBand) :
    ((b.config.upperLimit - b.config.lowerLimit) / b.config.spacings.headD 0 + 1).toNat = b.count % 2 ^ 32 := by
  rw [UInt32.toNat_add, UInt32.toNat_div, UInt32.toNat_sub_of_le _ _ b.ordered]
  rfl

theorem channels_eq (b : SeekBand) (dir : Direction) (startFreq : UInt32) (h : b.count < 2 ^ 32) :
    Core.channels (b.parm startFreq dir) (b.clamp startFreq)
        ((b.config.upperLimit - b.config.lowerLimit) / b.config.spacings.headD 0 + 1) =
      (b.loops (b.index startFreq) dir).map b.freq := by
  have hstart := b.toNat_start startFreq
  have hcount := b.toNat_bandChannelNo.trans (Nat.mod_eq_of_lt h)
  have hlt := b.index_lt startFreq
  generalize (b.config.upperLimit - b.config.lowerLimit) / b.config.spacings.headD 0 + 1 = number at hcount
  generalize b.index startFreq = k at hstart hlt
  cases dir with
  | up =>
    rw [Core.channels_of_up rfl, map_append, loops, map_append]
    dsimp only [parm]
    generalize (b.clamp startFreq - b.config.lowerLimit) / b.config.spacings.headD 0 = start at hstart
    have hsucc : (start + 1).toNat = k + 1 := by
      rw [UInt32.toNat_add, hstart]
      show (k + 1) % 2 ^ 32 = k + 1
      omega
    have hnumber := Core.toInt_eq number
    have hk := Core.toInt_eq start
    have hk' := Core.toInt_eq (start + 1)
    congr 1
    · exact b.map_countUp (by split at hk' <;> split at hnumber <;> split <;> omega) (by split at hk' <;> omega)
    · rw [b.map_countUp (k := 0) (n := k) (c := k < 2 ^ 31) (by split at hk <;> split <;> omega) (by decide)]
      simp
  | down =>
    rw [Core.channels_of_down (show Direction.down.code ≠ 0 by decide), map_append, loops, map_append]
    dsimp only [parm]
    generalize (b.clamp startFreq - b.config.lowerLimit) / b.config.spacings.headD 0 = start at hstart
    have hpred : (start - 1).toNat = if k = 0 then 2 ^ 32 - 1 else k - 1 := by
      rw [UInt32.toNat_sub, hstart]
      show (2 ^ 32 - 1 + k) % 2 ^ 32 = _
      split <;> omega
    have hlast : (number - 1).toNat = b.count - 1 := by
      rw [UInt32.toNat_sub, hcount]
      show (2 ^ 32 - 1 + b.count) % 2 ^ 32 = _
      omega
    have hnumber := Core.toInt_eq (number - 1)
    have hk := Core.toInt_eq start
    have hk' := Core.toInt_eq (start - 1)
    rw [hpred] at hk'
    congr 1
    · exact b.map_countDown (by split at hk' <;> split <;> omega) (by omega) fun _ _ => by split at hk' <;> omega
    · exact b.map_countDown (by split at hk <;> split at hnumber <;> split <;> omega) (by omega)
        fun _ _ => by split at hnumber <;> omega

/-! ## Round the grid -/

theorem circular_eq (h : start < b.count) (dir : Direction) : b.circular start dir = match dir with
      | .up => (List.range (b.count - 1 - start)).map (start + 1 + ·) ++ List.range start
      | .down => (List.range start).map (start - 1 - ·) ++
          (List.range (b.count - 1 - start)).map (b.count - 1 - ·) := by
  cases dir with
  | up =>
    have hsplit : b.count - 1 = (b.count - 1 - start) + start := by omega
    rw [circular, hsplit, range_add, map_append, List.map_map, ← hsplit]
    refine congrArg₂ _ (map_congr_left fun j hj => ?_) ?_
    · have hlt := mem_range.mp hj
      exact Nat.mod_eq_of_lt (by omega)
    · refine (map_congr_left fun j hj => ?_).trans (List.map_id _)
      have hlt := mem_range.mp hj
      show (start + 1 + (b.count - 1 - start + j)) % b.count = j
      rw [Nat.mod_eq_sub_mod (by omega), Nat.mod_eq_of_lt (by omega)]
      omega
  | down =>
    have hsplit : b.count - 1 = start + (b.count - 1 - start) := by omega
    rw [circular, hsplit, range_add, map_append, List.map_map, ← hsplit]
    refine congrArg₂ _ (map_congr_left fun j hj => ?_) (map_congr_left fun j hj => ?_)
    · have hlt := mem_range.mp hj
      rw [Nat.mod_eq_sub_mod (by omega), Nat.mod_eq_of_lt (by omega)]
      omega
    · have hlt := mem_range.mp hj
      show (start + (b.count - 1 - (start + j))) % b.count = b.count - 1 - j
      rw [Nat.mod_eq_of_lt (by omega)]
      omega

theorem mem_circular (h : start < b.count) (dir : Direction) : k ∈ b.circular start dir ↔ k < b.count ∧ k ≠ start := by
  rw [circular_eq h]
  cases dir with
  | up =>
    simp only [mem_append, List.mem_map, mem_range]
    constructor
    · rintro (⟨j, hj, rfl⟩ | hk) <;> omega
    · rintro ⟨hk, hne⟩
      by_cases hbehind : start < k
      · exact .inl ⟨k - start - 1, by omega, by omega⟩
      · exact .inr (by omega)
  | down =>
    simp only [mem_append, List.mem_map, mem_range]
    constructor
    · rintro (⟨j, hj, rfl⟩ | ⟨j, hj, rfl⟩) <;> omega
    · rintro ⟨hk, hne⟩
      by_cases hbehind : start < k
      · exact .inr ⟨b.count - 1 - k, by omega, by omega⟩
      · exact .inl ⟨start - 1 - k, by omega, by omega⟩

theorem loops_subset (h : start < b.count) (dir : Direction) : b.loops start dir ⊆ b.circular start dir := by
  have hsub : ∀ (c : Prop) [Decidable c] (l : List Nat), (if c then l else []).Sublist l := by
    intro c _ l
    split
    · exact Sublist.refl l
    · exact nil_sublist l
  rw [circular_eq h]
  cases dir with
  | up | down => exact ((hsub _ _).append (hsub _ _)).subset

theorem loops_eq_circular (h : start < b.count) (hcounts : b.Counts start dir) :
    b.loops start dir = b.circular start dir := by
  rw [circular_eq h]
  cases dir with
  | up | down =>
    simp only [Counts] at hcounts
    rw [loops, if_pos (by omega), if_pos (by omega)]

theorem exists_missed (h : start < b.count) (hcounts : ¬b.Counts start dir) (hcount : b.count < 2 ^ 32) :
    ∃ k ∈ b.circular start dir, k ∉ b.loops start dir := by
  cases dir with
  | up =>
    simp only [Counts] at hcounts
    by_cases hlow : start < 2 ^ 31
    · -- the first loop does not run
      refine ⟨start + 1, (mem_circular h _).mpr ⟨by omega, by omega⟩, ?_⟩
      rw [loops, if_neg (by omega), if_pos hlow, nil_append, mem_range]
      omega
    · -- the second one does not
      refine ⟨0, (mem_circular h _).mpr ⟨by omega, by omega⟩, ?_⟩
      rw [loops, if_pos (by omega), if_neg hlow, append_nil, List.mem_map]
      rintro ⟨j, -, hj⟩
      omega
  | down =>
    simp only [Counts] at hcounts
    by_cases hlow : start ≤ 2 ^ 31
    · -- the second loop does not run
      refine ⟨b.count - 1, (mem_circular h _).mpr ⟨by omega, by omega⟩, ?_⟩
      rw [loops, if_pos hlow, if_neg (by omega), append_nil, List.mem_map]
      rintro ⟨j, hj, hk⟩
      have hlt := mem_range.mp hj
      omega
    · -- the first one does not
      refine ⟨0, (mem_circular h _).mpr ⟨by omega, by omega⟩, ?_⟩
      rw [loops, if_neg hlow, if_pos (by omega), nil_append, List.mem_map]
      rintro ⟨j, hj, hk⟩
      have hlt := mem_range.mp hj
      omega

/-! ## The look-ahead -/

section Ahead

variable {dir : Direction} {k k' : Nat}

theorem next_eq_some (h : b.next dir k = some k') : match dir with
    | .up => k' = k + 1 ∧ k + 1 < b.count
    | .down => k = k' + 1 := by
  cases dir with
  | up =>
    rw [next] at h
    split at h
    · exact ⟨(some.inj h).symm, by assumption⟩
    · cases h
  | down =>
    rw [next] at h
    split at h
    · have := some.inj h
      omega
    · cases h

theorem next_lt (h : b.next dir k = some k') (hk : k < b.count) : k' < b.count := by
  have hnext := next_eq_some h
  cases dir with
  | up | down => dsimp only at hnext; omega

theorem toUInt32_step (b : SeekBand) : (b.config.spacings.headD 0).toUInt8.toUInt32 = UInt32.ofNat b.space := by
  have hle : (b.config.spacings.headD 0).toNat ≤ 255 := b.space_le
  apply UInt32.toNat_inj.mp
  rw [UInt8.toNat_toUInt32, UInt32.toNat_toUInt8, UInt32.toNat_ofNat', space]
  omega

theorem freq_succ (b : SeekBand) (k : Nat) : b.freq (k + 1) = b.freq k + UInt32.ofNat b.space := by
  rw [freq, channel_succ, UInt32.ofNat_add]
  rfl

theorem moreFreq_up (b : SeekBand) (startFreq freq : UInt32) :
    moreFreq (b.parm startFreq .up) freq =
      if freq + UInt32.ofNat b.space > b.config.upperLimit then none else some (freq + UInt32.ofNat b.space) := by
  rw [← b.toUInt32_step]
  rfl

theorem moreFreq_down (b : SeekBand) (startFreq freq : UInt32) :
    moreFreq (b.parm startFreq .down) freq =
      if freq - UInt32.ofNat b.space < b.config.lowerLimit then none else some (freq - UInt32.ofNat b.space) := by
  rw [← b.toUInt32_step]
  rfl

theorem moreFreq_freq (startFreq : UInt32) (h : b.next dir k = some k') (hk : k < b.count) :
    moreFreq (b.parm startFreq dir) (b.freq k) = some (b.freq k') := by
  have hk' := next_lt h hk
  have hin := lt_count_iff.mp hk'
  have hnext := next_eq_some h
  cases dir with
  | up =>
    obtain ⟨rfl, -⟩ := hnext
    rw [moreFreq_up, ← freq_succ, if_neg]
    rw [gt_iff_lt, UInt32.lt_iff_toNat_lt, toNat_freq hk']
    exact Nat.not_lt.mpr hin
  | down =>
    obtain rfl : k = k' + 1 := hnext
    rw [moreFreq_down, freq_succ, UInt32.add_sub_cancel, if_neg]
    rw [UInt32.lt_iff_toNat_lt, toNat_freq hk']
    exact Nat.not_lt.mpr (Nat.le_add_right _ _)

theorem moreFreq_last (startFreq : UInt32) (h : b.next dir k = none) (hk : k < b.count) :
    moreFreq (b.parm startFreq dir) (b.freq k) = none ↔ b.Stays dir := by
  have hspace := b.space_le
  have hpos := b.space_pos
  have hin := lt_count_iff.mp hk
  have hnone : ∀ (c : Prop) [Decidable c] (f : UInt32), (if c then none else some f) = none ↔ c := by
    intro c _ f
    split <;> simp_all
  cases dir with
  | up =>
    obtain hlast : k + 1 = b.count := by
      simp only [next, ite_eq_right_iff, reduceCtorEq, imp_false] at h
      omega
    have hout : b.upper < b.channel (k + 1) := Nat.lt_of_not_le fun hle => absurd (lt_count_iff.mpr hle) (by omega)
    have hsum : (b.freq k + UInt32.ofNat b.space).toNat = b.channel (k + 1) % 2 ^ 32 := by
      rw [← freq_succ, freq, UInt32.toNat_ofNat']
    have hsucc := b.channel_succ k
    rw [moreFreq_up, hnone, Stays, ← hlast, gt_iff_lt, UInt32.lt_iff_toNat_lt]
    show b.upper < _ ↔ _
    omega
  | down =>
    obtain rfl : k = 0 := by simpa [next] using h
    have hlower : b.channel 0 = b.lower := by rw [channel, Nat.zero_mul, Nat.add_zero]
    have hdiff : (b.freq 0 - UInt32.ofNat b.space).toNat = (2 ^ 32 - b.space + b.lower) % 2 ^ 32 := by
      rw [UInt32.toNat_sub, toNat_freq hk, hlower, UInt32.toNat_ofNat_of_lt' (show b.space < 2 ^ 32 by omega)]
    rw [moreFreq_down, hnone, Stays, UInt32.lt_iff_toNat_lt]
    show _ < b.lower ↔ _
    omega

theorem ahead_eq (startFreq : UInt32) (hstays : b.Stays dir) (n : Nat) (hk : k < b.count) :
    ahead (b.parm startFreq dir) n (b.freq k) = (b.nexts dir n k).map b.freq := by
  induction n generalizing k with
  | zero => rfl
  | succ n ih =>
    rw [ahead, nexts]
    cases hnext : b.next dir k with
    | none => rw [(moreFreq_last startFreq hnext hk).mpr hstays]; rfl
    | some k' =>
      rw [moreFreq_freq startFreq hnext hk]
      exact congrArg _ (ih (next_lt hnext hk))

theorem exists_ahead_ne (startFreq : UInt32) (h : start < b.count) (hstays : ¬b.Stays dir) (hcount : b.count ≠ 1) :
    ∃ k ∈ b.circular start dir, ahead (b.parm startFreq dir) 2 (b.freq k) ≠ (b.nextTwo dir k).map b.freq := by
  -- from the last channel in one step; if the seek starts there, from the one before it in two
  have hends : ∃ last before, b.next dir last = none ∧ b.next dir before = some last ∧ last < b.count ∧
      before < b.count ∧ before ≠ last := by
    cases dir with
    | up =>
      refine ⟨b.count - 1, b.count - 2, ?_, ?_, by omega, by omega, by omega⟩
      · rw [next, if_neg (by omega)]
      · rw [next, if_pos (by omega)]
        exact congrArg some (by omega)
    | down =>
      refine ⟨0, 1, ?_, ?_, by omega, by omega, by omega⟩
      · rw [next, if_neg (by omega)]
      · rw [next, if_pos (by omega)]
  obtain ⟨last, before, hlast, hbefore, hlt, hblt, hne⟩ := hends
  obtain ⟨w, hw⟩ : ∃ w, moreFreq (b.parm startFreq dir) (b.freq last) = some w :=
    ne_none_iff_exists'.mp fun hnone => hstays ((moreFreq_last startFreq hlast hlt).mp hnone)
  by_cases hstart : last = start
  · refine ⟨before, (mem_circular h dir).mpr ⟨hblt, by omega⟩, fun heq => ?_⟩
    have hlen := congrArg List.length heq
    simp [ahead, nextTwo, nexts, moreFreq_freq startFreq hbefore hblt, hw, hbefore, hlast] at hlen
  · refine ⟨last, (mem_circular h dir).mpr ⟨hlt, hstart⟩, fun heq => ?_⟩
    have hlen := congrArg List.length heq
    simp [ahead, nextTwo, nexts, hw, hlast] at hlen

end Ahead

/-! ## The whole call -/

/-- The indices that a call probes: none, if the number of channels wraps around to zero. -/
def probes (b : SeekBand) (startFreq : UInt32) (dir : Direction) : List Nat :=
  if b.count < 2 ^ 32 then b.loops (b.index startFreq) dir else []

theorem returns_fmrSeek (b : SeekBand) (dir : Direction) (startFreq : UInt32) (driver : Driver) {s : FmrData}
    (hidle : s.seek = .idle) :
    Returns driver (fmrSeek b.config startFreq dir.code s)
      (scan driver s.fakeChan (b.parm startFreq dir) ((b.probes startFreq dir).map b.freq)) := by
  have hpos := b.count_pos
  unfold fmrSeek probes
  have hnumber := b.toNat_bandChannelNo
  by_cases hcount : b.count < 2 ^ 32
  · rw [if_neg, if_pos hcount]
    · have hchannels := b.channels_eq dir startFreq hcount
      rw [← hchannels]
      exact Core.returns_scan (s := { s with scanStop := false }) _ rfl
    · rw [UInt32.le_iff_toNat_le, hnumber, Nat.mod_eq_of_lt hcount]
      exact Nat.not_le.mpr hpos
  · have hle := b.count_le
    rw [if_pos, if_neg hcount]
    · exact .done hidle
    · rw [UInt32.le_iff_toNat_le]
      omega

theorem probes_eq (hcounts : b.Counts (b.index startFreq) dir) :
    b.probes startFreq dir = b.circular (b.index startFreq) dir := by
  have hcount : b.count < 2 ^ 32 := by
    cases dir with
    | up | down => simp only [Counts] at hcounts; omega
  rw [probes, if_pos hcount, loops_eq_circular (b.index_lt startFreq) hcounts]

theorem lt_of_mem_probes (h : k ∈ b.probes startFreq dir) : k < b.count := by
  have hlt := b.index_lt startFreq
  rw [probes] at h
  split at h
  · exact ((mem_circular hlt dir).mp (loops_subset hlt dir h)).1
  · cases h

theorem exists_not_probed (hcounts : ¬b.Counts (b.index startFreq) dir) :
    ∃ k ∈ b.circular (b.index startFreq) dir, k ∉ b.probes startFreq dir := by
  have hlt := b.index_lt startFreq
  unfold probes
  by_cases hcount : b.count < 2 ^ 32
  · rw [if_pos hcount]
    exact exists_missed hlt hcounts hcount
  · rw [if_neg hcount]
    by_cases hzero : b.index startFreq = 0
    · exact ⟨1, (mem_circular hlt dir).mpr ⟨by omega, by omega⟩, not_mem_nil⟩
    · exact ⟨0, (mem_circular hlt dir).mpr ⟨by omega, by omega⟩, not_mem_nil⟩

theorem mem_nexts_lt {n k' : Nat} (h : k' ∈ b.nexts dir n k) (hk : k < b.count) : k' < b.count := by
  induction n generalizing k with
  | zero => cases h
  | succ n ih =>
    rw [nexts] at h
    cases hnext : b.next dir k with
    | none => rw [hnext] at h; cases h
    | some j =>
      rw [hnext] at h
      rcases mem_cons.mp h with rfl | hmem
      · exact next_lt hnext hk
      · exact ih hmem (next_lt hnext hk)

section Law

variable {dir : Direction} {driver : Driver} {fakeChan : List FakeChannel}

theorem scan_circular (hstays : b.count = 1 ∨ b.Stays dir) {before after : List Nat} {k : Nat}
    (hsplit : b.circular (b.index startFreq) dir = before ++ k :: after)
    (hbefore : ∀ j ∈ before, ¬passes driver fakeChan (b.freq j)) (hpass : passes driver fakeChan (b.freq k)) :
    ∃ k', (k' = k ∨ k' ∈ b.nextTwo dir k ∧ passes driver fakeChan (b.freq k') ∧
        (driver (b.freq k)).rssi < (driver (b.freq k')).rssi) ∧
      scan driver fakeChan (b.parm startFreq dir) ((b.circular (b.index startFreq) dir).map b.freq) =
        ⟨0, b.freq k', (before ++ k :: b.nextTwo dir k).map b.freq⟩ := by
  have hlt := b.index_lt startFreq
  have hmem : k ∈ b.circular (b.index startFreq) dir := by rw [hsplit]; exact mem_append_cons_self
  have hk := (mem_circular hlt dir).mp hmem
  -- a grid of one channel has nothing to probe
  have hahead : ahead (b.parm startFreq dir) 2 (b.freq k) = (b.nextTwo dir k).map b.freq :=
    ahead_eq startFreq (hstays.resolve_left (by omega)) 2 hk.1
  have hscan : scan driver fakeChan (b.parm startFreq dir)
      (before.map b.freq ++ b.freq k :: after.map b.freq) = _ :=
    Core.scan_append (List.forall_mem_map.mpr hbefore) hpass
  rw [hsplit, map_append, map_cons, hscan, map_append, map_cons, ← hahead]
  rcases Core.foldl_better driver fakeChan (ahead (b.parm startFreq dir) 2 (b.freq k))
    ⟨b.freq k, (driver (b.freq k)).rssi⟩ with hsame | ⟨c, hc, hbest, hcpass, hstronger⟩
  · exact ⟨k, .inl rfl, by rw [Core.lookAhead, hsame]⟩
  · rw [hahead] at hc
    obtain ⟨k', hk', rfl⟩ := List.mem_map.mp hc
    exact ⟨k', .inr ⟨hk', hcpass, hstronger⟩, by rw [Core.lookAhead, hbest]⟩

theorem sought_scan (hstays : b.count = 1 ∨ b.Stays dir) :
    Sought b dir startFreq driver fakeChan (scan driver fakeChan (b.parm startFreq dir)
      ((b.circular (b.index startFreq) dir).map b.freq)) where
  fails h := scan_of_none (List.forall_mem_map.mpr h)
  finds before k after hsplit hbefore hpass := by
    obtain ⟨k', hk', hscan⟩ := scan_circular hstays hsplit hbefore hpass
    rw [hscan]
    refine ⟨rfl, rfl, ?_⟩
    rcases hk' with rfl | ⟨hnext, hstronger⟩
    · exact .inl rfl
    · exact .inr ⟨k', hnext, rfl, hstronger⟩
  inBand hret := by
    cases hfind : (b.circular (b.index startFreq) dir).find? fun k => passes driver fakeChan (b.freq k) with
    | none =>
      rw [scan_of_none (List.forall_mem_map.mpr (find?_eq_none.mp hfind))] at hret
      cases hret
    | some k =>
      obtain ⟨hpass, before, after, hsplit, hbefore⟩ := find?_eq_some_iff_append.mp hfind
      obtain ⟨k', hk', hscan⟩ := scan_circular hstays hsplit (fun j hj => by simpa using hbefore j hj) hpass
      have hmem : k ∈ b.circular (b.index startFreq) dir := mem_of_find?_eq_some hfind
      have hk := ((mem_circular (b.index_lt startFreq) dir).mp hmem).1
      have hlt : k' < b.count := by
        rcases hk' with rfl | ⟨hnext, -⟩
        · exact hk
        · exact mem_nexts_lt hnext hk
      rw [hscan]
      exact ⟨k', toNat_freq hlt, Nat.le_add_right _ _, lt_count_iff.mp hlt⟩

def only (freq : UInt32) : Driver := fun c => ⟨true, c = freq, 0, 0, true⟩

theorem passes_only (freq c : UInt32) : passes (only freq) [] c ↔ c = freq := by
  simp [passes, only, Core.severeDensense]

theorem Sought.only {k : Nat} {o : Outcome} (hk : k ∈ b.circular (b.index startFreq) dir)
    (h : Sought b dir startFreq (SeekBand.only (b.freq k)) [] o) :
    ∃ before after, b.circular (b.index startFreq) dir = before ++ k :: after ∧
      (∀ j ∈ before, ¬passes (SeekBand.only (b.freq k)) [] (b.freq j)) ∧ o.ret = 0 ∧
      o.probed = (before ++ k :: b.nextTwo dir k).map b.freq := by
  have hlt := b.index_lt startFreq
  obtain ⟨before, after, hsplit, hnew⟩ := eq_append_cons_of_mem hk
  have hbefore : ∀ j ∈ before, ¬passes (SeekBand.only (b.freq k)) [] (b.freq j) := by
    intro j hj hpass
    have hjmem : j ∈ b.circular (b.index startFreq) dir := by
      rw [hsplit]
      exact mem_append_left _ hj
    have hsame := freq_inj ((mem_circular hlt dir).mp hjmem).1 ((mem_circular hlt dir).mp hk).1
      ((passes_only _ _).mp hpass)
    exact hnew (hsame ▸ hj)
  obtain ⟨hret, hprobed, -⟩ := h.finds before k after hsplit hbefore ((passes_only _ _).mpr rfl)
  exact ⟨before, after, hsplit, hbefore, hret, hprobed⟩

end Law

/-- **A seek.** For every band, start channel and direction: against every driver the call comes to its end, having
    probed the channels of the grid but the start's in circular order up to the first one that passes, with `-1` and
    the start channel if there is none, and otherwise with `0` and that channel or one of the next two in the band that
    passes and is stronger, if and only if the loops count the channels right and the look-ahead does not wrap around
    behind the last one. -/
theorem seek_sought_iff (b : SeekBand) (dir : Direction) (startFreq : UInt32) :
    (∀ (driver : Driver) (s : FmrData), s.seek = .idle →
      ∃ o, Returns driver (fmrSeek b.config startFreq dir.code s) o ∧
        Sought b dir startFreq driver s.fakeChan o) ↔
      b.Counts (b.index startFreq) dir ∧ (b.count = 1 ∨ b.Stays dir) := by
  constructor
  · intro h
    -- the outcome for a driver with a single valid channel
    have honly : ∀ k, Sought b dir startFreq (only (b.freq k)) []
        (scan (only (b.freq k)) [] (b.parm startFreq dir) ((b.probes startFreq dir).map b.freq)) := by
      intro k
      obtain ⟨o, hreturns, hsought⟩ := h (only (b.freq k)) (init []) rfl
      have hscan := b.returns_fmrSeek dir startFreq (only (b.freq k)) (s := init []) rfl
      rwa [hreturns.unique hscan] at hsought
    have hlt := b.index_lt startFreq
    have hcounts : b.Counts (b.index startFreq) dir := by
      by_contra hnot
      obtain ⟨k, hk, hmissed⟩ := exists_not_probed hnot
      obtain ⟨_, _, _, _, hret, -⟩ := Sought.only hk (honly k)
      -- nothing that is probed passes
      have hnone : ∀ c ∈ (b.probes startFreq dir).map b.freq, ¬passes (only (b.freq k)) [] c := by
        refine List.forall_mem_map.mpr fun j hj hpass => ?_
        have hsame := freq_inj (lt_of_mem_probes hj) ((mem_circular hlt dir).mp hk).1 ((passes_only _ _).mp hpass)
        exact hmissed (hsame ▸ hj)
      rw [scan_of_none hnone] at hret
      cases hret
    refine ⟨hcounts, ?_⟩
    by_contra hnot
    obtain ⟨hcount, hstays⟩ := not_or.mp hnot
    obtain ⟨k, hk, hne⟩ := exists_ahead_ne startFreq hlt hstays hcount
    obtain ⟨before, after, hsplit, hbefore, -, hprobed⟩ := Sought.only hk (honly k)
    have hscan : scan (only (b.freq k)) [] (b.parm startFreq dir)
        (before.map b.freq ++ b.freq k :: after.map b.freq) = _ :=
      Core.scan_append (List.forall_mem_map.mpr hbefore) ((passes_only _ _).mpr rfl)
    rw [probes_eq hcounts, hsplit, map_append, map_cons, hscan, map_append] at hprobed
    exact hne (List.cons.inj (append_cancel_left hprobed)).2
  · rintro ⟨hcounts, hstays⟩ driver s hidle
    have hreturns := b.returns_fmrSeek dir startFreq driver hidle
    rw [probes_eq hcounts] at hreturns
    exact ⟨_, hreturns, sought_scan hstays⟩

def lowBand : SeekBand := ⟨⟨.fm, true, 100, 900, [200], 0, true, 1, false, false⟩, by decide, by decide, by decide⟩

/-- Two channels are valid, and the stronger one is outside the band. -/
def outside : Driver := fun c => ⟨true, c = 100 ∨ c = 4294967196, if c = 100 then -80 else -50, 0, true⟩

/-- Downwards from 500, the look-ahead goes from 100 to 100 - 200, which is 4294967196 and returned. -/
theorem seek_leaves_band :
    Returns outside (fmrSeek lowBand.config 500 Direction.down.code (init []))
        ⟨0, 4294967196, [300, 100, 4294967196, 4294966996]⟩ ∧
      ¬∃ o, Returns outside (fmrSeek lowBand.config 500 Direction.down.code (init [])) o ∧
        Sought lowBand .down 500 outside [] o := by
  have hscan := lowBand.returns_fmrSeek .down 500 outside (s := init []) rfl
  refine ⟨hscan, ?_⟩
  rintro ⟨o, hreturns, hsought⟩
  obtain rfl := hreturns.unique hscan
  obtain ⟨k, hk, -, hle⟩ := hsought.inBand rfl
  rw [← hk] at hle
  exact absurd hle (by decide)

end SeekBand

end HuaweiY5.Fm
