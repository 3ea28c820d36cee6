import Mathlib.Data.Int.DivMod
import Mathlib.Data.Nat.Bitwise
import Mathlib.Tactic.Linarith
import Mathlib.Tactic.Ring

/-!
# `Gem.DrawLine` — drawing a pattern

`GraphicBufferUtil::drawLine` as the list of its `memset` calls: the buffer is divided into blocks, a power of two of them
in each direction, and the position selects one.
-/

namespace HuaweiY5.Gem

/-! ## Pixel formats -/

def formatRgba8888 : Int := 1

def formatRgbx8888 : Int := 2

def formatRgb888 : Int := 3

def formatRgb565 : Int := 4

def formatBgra8888 : Int := 5

def formatYcbcr420888 : Int := 0x23

def formatYuyv : Int := 0x10c

def formatYv12 : Int := 0x32315659

def formatI420 : Int := 0x32315659 + 0x10

def formatYuvPrivate : Int := 0x32315659 + 0x20

def formatYuvPrivate10bit : Int := 0x32315659 + 0x30

/-- `HAL_PIXEL_FORMAT_NV12_BLK`, and `HAL_PIXEL_FORMAT_NV12_BLK_FCM` for the field mode. -/
def formatNv12Blk : Int := 0x7f000001

def formatNv12BlkFcm : Int := 0x7f000002

/-- The four block formats of 10 bits: horizontal and vertical, without and with UFO. -/
def formatsBlk10bit : List Int := [0x7f000004, 0x7f000005, 0x7f000006, 0x7f000007]

/-- `getBitsPerPixel`. -/
def getBitsPerPixel (format : Int) : Nat :=
  if format ∈ [formatRgba8888, formatRgbx8888, formatBgra8888, 0x1ff] then 32
  else if format = formatRgb888 then 24
  else if format ∈ [formatRgb565, formatYuyv] then 16
  else if format ∈ formatYuvPrivate10bit :: formatsBlk10bit then 15
  else if format ∈ [formatI420, formatNv12Blk, formatNv12BlkFcm, formatYv12, formatYuvPrivate, formatYcbcr420888] then 12
  else 0

namespace DrawLine

/-- The logarithm of a pattern size, with `log2` as the exact one. -/
def logOf (ptn : Nat) : Nat := if 5 < Nat.log2 ptn then 5 else Nat.log2 ptn

/-- The buffer with the bits of its format, and the pattern. -/
structure Pattern where
  width : Nat
  height : Nat
  stride : Nat
  bits : Nat
  ptnW : Nat
  ptnH : Nat
  deriving DecidableEq

theorem pair_unique {s q r p t : Int} (hr : 0 ≤ r) (hrs : r < s) (ht : 0 ≤ t) (hts : t < s)
    (h : s * q + r = s * p + t) : q = p ∧ r = t := by
  have hs : 0 < s := by omega
  obtain ⟨hq, hm⟩ := (Int.ediv_emod_unique hs).mpr ⟨Int.add_comm r _, hr, hrs⟩
  obtain ⟨hp, hn⟩ := (Int.ediv_emod_unique hs).mpr ⟨Int.add_comm t _, ht, hts⟩
  rw [h] at hq hm
  exact ⟨hq.symm.trans hp, hm.symm.trans hn⟩

namespace Pattern

variable (d : Pattern)

/-- The block that a position selects, its column and its line. -/
def block (pos : Int) : Nat × Nat :=
  let n := (pos % 2 ^ 32).toNat
  if d.ptnW = 1 then (0, n &&& (2 ^ logOf d.ptnH - 1))
  else (n &&& (2 ^ logOf d.ptnW - 1), n / 2 ^ logOf d.ptnW &&& (2 ^ logOf d.ptnH - 1))

variable (block : Nat × Nat)

/-- The `memset` calls of a block, as offset and length. -/
def memsets : List (Nat × Nat) :=
  if d.ptnW = 1 then
    let bsize := (d.stride * d.height * d.bits) >>> 3 >>> logOf d.ptnH
    [(bsize * block.2, bsize)]
  else
    let blockH := d.height >>> logOf d.ptnH
    let blockW := ((d.width >>> logOf d.ptnW) * d.bits) >>> 3
    (List.range blockH).map fun j => ((d.stride * block.2 * blockH * d.bits) >>> 3 + blockW * block.1 +
      j * ((d.stride * d.bits) >>> 3), blockW)

/-- A byte that a block sets. -/
def Sets (a : Nat) : Prop := ∃ m ∈ d.memsets block, m.1 ≤ a ∧ a < m.1 + m.2

/-- The block is one of the tiling. -/
def InTiling : Prop := block.2 < 2 ^ logOf d.ptnH ∧ (d.ptnW ≠ 1 → block.1 < 2 ^ logOf d.ptnW)

theorem block_inTiling (pos : Int) : d.InTiling (d.block pos) := by
  unfold InTiling block
  dsimp only
  split_ifs with h
  · rw [Nat.and_two_pow_sub_one_eq_mod]
    exact ⟨Nat.mod_lt _ (Nat.two_pow_pos _), fun hne => absurd h hne⟩
  · rw [Nat.and_two_pow_sub_one_eq_mod, Nat.and_two_pow_sub_one_eq_mod]
    exact ⟨Nat.mod_lt _ (Nat.two_pow_pos _), fun _ => Nat.mod_lt _ (Nat.two_pow_pos _)⟩

variable {d}

theorem Sets.line {block : Nat × Nat} {a : Nat} (hw : d.ptnW ≠ 1) (hwidth : d.width ≤ d.stride) (hin : d.InTiling block)
    (h : d.Sets block a) : let r := d.stride * d.bits / 8
    let w := d.width / 2 ^ logOf d.ptnW * d.bits / 8
    let base := d.stride * block.2 * (d.height / 2 ^ logOf d.ptnH) * d.bits / 8
    ∃ j s, a = base + (r * j + s) ∧ r * j + s < d.height / 2 ^ logOf d.ptnH * r ∧ s < r ∧ w * block.1 ≤ s ∧
      s < w * (block.1 + 1) := by
  intro r w base
  obtain ⟨m, hm, hle, hlt⟩ := h
  rw [memsets, if_neg hw] at hm
  simp only [List.mem_map, List.mem_range, Nat.shiftRight_eq_div_pow] at hm
  obtain ⟨j, hj, rfl⟩ := hm
  have hcolumns : w * (block.1 + 1) ≤ r := calc
    w * (block.1 + 1) ≤ w * 2 ^ logOf d.ptnW := Nat.mul_le_mul_left w (hin.2 hw)
    _ ≤ 2 ^ logOf d.ptnW * (d.width / 2 ^ logOf d.ptnW * d.bits) / 8 := by
      rw [Nat.mul_comm]
      exact Nat.mul_div_le_mul_div_assoc _ _ _
    _ ≤ r := by
      refine Nat.div_le_div_right ?_
      rw [← Nat.mul_assoc]
      exact Nat.mul_le_mul_right _ (Nat.le_trans (Nat.mul_div_le _ _) hwidth)
  change base + w * block.1 + j * r ≤ a at hle
  change a < base + w * block.1 + j * r + w at hlt
  rw [Nat.mul_comm j] at hle hlt
  have hrow : r * (j + 1) ≤ r * (d.height / 2 ^ logOf d.ptnH) := Nat.mul_le_mul_left r hj
  rw [Nat.mul_succ] at hcolumns hrow
  refine ⟨j, a - (base + r * j), ?_⟩
  rw [Nat.mul_comm _ r, Nat.mul_succ]
  omega

theorem lines_le (d : Pattern) {y y' : Nat} (h : y < y') :
    d.stride * y * (d.height / 2 ^ logOf d.ptnH) * d.bits / 8 + d.height / 2 ^ logOf d.ptnH * (d.stride * d.bits / 8) ≤
      d.stride * y' * (d.height / 2 ^ logOf d.ptnH) * d.bits / 8 := by
  have hlines := Nat.mul_div_le_mul_div_assoc (d.height / 2 ^ logOf d.ptnH) (d.stride * d.bits) 8
  have hsum : d.stride * y * (d.height / 2 ^ logOf d.ptnH) * d.bits + d.height / 2 ^ logOf d.ptnH * (d.stride * d.bits) ≤
      d.stride * y' * (d.height / 2 ^ logOf d.ptnH) * d.bits := calc
    _ = d.stride * (y + 1) * (d.height / 2 ^ logOf d.ptnH) * d.bits := by ring
    _ ≤ _ := by gcongr; exact h
  omega

/-- **One block.** Its bytes are those of the buffer. -/
theorem Sets.inside {block : Nat × Nat} {a : Nat} (hwidth : d.width ≤ d.stride) (hin : d.InTiling block)
    (h : d.Sets block a) : a < d.stride * d.height * d.bits / 8 := by
  by_cases hw : d.ptnW = 1
  · obtain ⟨m, hm, -, hlt⟩ := h
    rw [memsets, if_pos hw, List.mem_singleton] at hm
    rw [hm, Nat.shiftRight_eq_div_pow, Nat.shiftRight_eq_div_pow] at hlt
    exact Nat.lt_of_lt_of_le hlt (Nat.le_trans (Nat.mul_le_mul_left _ hin.1) (Nat.div_mul_le_self _ _))
  · obtain ⟨j, s, rfl, hlines, -⟩ := h.line hw hwidth hin
    have hblock := d.lines_le (Nat.lt_add_one block.2)
    have hlast : d.stride * (block.2 + 1) * (d.height / 2 ^ logOf d.ptnH) * d.bits / 8 ≤ d.stride * d.height * d.bits / 8 := by
      refine Nat.div_le_div_right (Nat.mul_le_mul_right _ ?_)
      rw [Nat.mul_assoc]
      exact Nat.mul_le_mul_left _ (Nat.le_trans (Nat.mul_le_mul_right _ hin.1) (Nat.mul_div_le _ _))
    omega

/-- **Two blocks.** A byte that both set is in one block. -/
theorem Sets.unique {b b' : Nat × Nat} {a : Nat} (hwidth : d.width ≤ d.stride) (hin : d.InTiling b) (hin' : d.InTiling b')
    (h : d.Sets b a) (h' : d.Sets b' a) : b.2 = b'.2 ∧ (d.ptnW ≠ 1 → b.1 = b'.1) := by
  by_cases hw : d.ptnW = 1
  · refine ⟨?_, fun hne => absurd hw hne⟩
    obtain ⟨m, hm, hle, hlt⟩ := h
    obtain ⟨m', hm', hle', hlt'⟩ := h'
    rw [memsets, if_pos hw, List.mem_singleton] at hm hm'
    rw [hm, ← Nat.mul_succ] at hlt
    rw [hm', ← Nat.mul_succ] at hlt'
    rw [hm] at hle
    rw [hm'] at hle'
    have h₁ := Nat.lt_of_mul_lt_mul_left (Nat.lt_of_le_of_lt hle hlt')
    have h₂ := Nat.lt_of_mul_lt_mul_left (Nat.lt_of_le_of_lt hle' hlt)
    omega
  · obtain ⟨j, s, ha, hlines, hr, hs, hs'⟩ := h.line hw hwidth hin
    obtain ⟨k, t, ha', hlines', hr', ht, ht'⟩ := h'.line hw hwidth hin'
    have hline : b.2 = b'.2 := by
      rcases Nat.lt_trichotomy b.2 b'.2 with hlt | heq | hlt
      · have := d.lines_le hlt
        omega
      · exact heq
      · have := d.lines_le hlt
        omega
    refine ⟨hline, fun _ => ?_⟩
    rw [hline] at ha
    have hsame : s = t := by
      have := pair_unique (s := (d.stride * d.bits / 8 : Nat)) (q := j) (p := k) (Int.natCast_nonneg s)
        (Int.ofNat_lt.mpr hr) (Int.natCast_nonneg t) (Int.ofNat_lt.mpr hr') (by norm_cast; omega)
      exact Int.natCast_inj.mp this.2
    rw [hsame] at hs hs'
    have h₁ := Nat.lt_of_mul_lt_mul_left (Nat.lt_of_le_of_lt hs ht')
    have h₂ := Nat.lt_of_mul_lt_mul_left (Nat.lt_of_le_of_lt ht hs')
    omega

end Pattern

/-- What `drawLine` makes of its arguments: a custom format counts as one byte a pixel, and a pattern is not zero. -/
def pattern (width height stride : Nat) (format : Int) (ptnW ptnH : Nat) : Pattern where
  width := width
  height := height
  stride := stride
  bits := if format < 0x100 then getBitsPerPixel format else 8
  ptnW := if ptnW = 0 then 1 else ptnW
  ptnH := if ptnH = 0 then 1 else ptnH

/-- The `memset` calls of `drawLine`; one position only makes it wait for the buffer. -/
def drawLine (d : Pattern) (pos : Int) : List (Nat × Nat) := if pos = 5670766 then [] else d.memsets (d.block pos)

/-- **Drawing stays in its block.** Every byte set is one of the buffer, and two positions that select different blocks
    set no byte in common. -/
theorem drawLine_blocks (width height stride : Nat) (format : Int) (ptnW ptnH : Nat)
    (hwidth : width ≤ stride) {d : Pattern} (hd : d = pattern width height stride format ptnW ptnH) :
    (∀ pos, ∀ m ∈ drawLine d pos, ∀ a, m.1 ≤ a → a < m.1 + m.2 → a < stride * height * d.bits / 8) ∧
      ∀ pos pos', d.block pos ≠ d.block pos' → ∀ m ∈ drawLine d pos, ∀ m' ∈ drawLine d pos',
        m.1 + m.2 ≤ m'.1 ∨ m'.1 + m'.2 ≤ m.1 ∨ m.2 = 0 ∨ m'.2 = 0 := by
  have hwidth' : d.width ≤ d.stride := hd ▸ hwidth
  have hsets : ∀ {pos m a}, m ∈ drawLine d pos → m.1 ≤ a → a < m.1 + m.2 → d.Sets (d.block pos) a := by
    intro pos m a hm hle hlt
    unfold drawLine at hm
    split_ifs at hm
    · cases hm
    · exact ⟨m, hm, hle, hlt⟩
  refine ⟨fun pos m hm a hle hlt => ?_, fun pos pos' hne m hm m' hm' => ?_⟩
  · have hin := (hsets hm hle hlt).inside hwidth' (d.block_inTiling pos)
    subst hd
    exact hin
  by_contra hboth
  -- a byte that two overlapping calls would both set
  have hcommon := (hsets (a := max m.1 m'.1) hm (by omega) (by omega)).unique hwidth' (d.block_inTiling pos)
    (d.block_inTiling pos') (hsets hm' (by omega) (by omega))
  refine hne (Prod.ext ?_ hcommon.1)
  by_cases hw : d.ptnW = 1
  · unfold Pattern.block
    rw [if_pos hw, if_pos hw]
  · exact hcommon.2 hw

theorem drawLine_blocks_rgb :
    let d := pattern 16 16 20 formatRgb888 4 2
    d.block 1 ≠ d.block 6 ∧ ∀ m ∈ drawLine d 1, ∀ m' ∈ drawLine d 6,
      m.1 + m.2 ≤ m'.1 ∨ m'.1 + m'.2 ≤ m.1 ∨ m.2 = 0 ∨ m'.2 = 0 :=
  ⟨by decide, (drawLine_blocks 16 16 20 formatRgb888 4 2 (by decide) rfl).2 1 6 (by decide)⟩

end DrawLine

end HuaweiY5.Gem
