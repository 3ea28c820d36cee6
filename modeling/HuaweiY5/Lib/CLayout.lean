import HuaweiY5.Lib.Codec

/-!
# `Lib.CLayout` — the bytes of a C object

The layout of a C type is its size, its alignment and its scalars, each with its offset and its width. Two programs
that copy an object as bytes agree on its value if their layouts do; `size_t` and pointers are as wide as the data
model says.
-/

namespace CLayout

open List Codec

/-! ## Little-endian numbers -/

/-- The number that bytes stand for, the lowest first. -/
def littleEndian : List Byte → Nat
  | [] => 0
  | b :: bs => b.toNat + 256 * littleEndian bs

theorem littleEndian_append (xs ys : List Byte) :
    littleEndian (xs ++ ys) = littleEndian xs + 256 ^ xs.length * littleEndian ys := by
  induction xs with
  | nil => simp [littleEndian]
  | cons x xs ih =>
    rw [cons_append, littleEndian, littleEndian, ih, length_cons, Nat.pow_succ', Nat.mul_add,
      Nat.mul_assoc, Nat.add_assoc]

theorem littleEndian_lt (bs : List Byte) : littleEndian bs < 256 ^ bs.length := by
  induction bs with
  | nil => decide
  | cons b bs ih =>
    rw [littleEndian, length_cons]
    omega

theorem littleEndian_eq_zero_iff (bs : List Byte) : littleEndian bs = 0 ↔ ∀ b ∈ bs, b = 0 := by
  induction bs with
  | nil => simp [littleEndian]
  | cons b bs ih =>
    have hb : b.toNat = 0 ↔ b = 0 := by rw [← BitVec.toNat_inj]; rfl
    rw [littleEndian, forall_mem_cons, ← ih, ← hb]
    omega

theorem littleEndian_append_eq_iff (xs ys : List Byte) :
    littleEndian (xs ++ ys) = littleEndian xs ↔ ∀ b ∈ ys, b = 0 := by
  have hpos : 256 ^ xs.length ≠ 0 := by simp
  rw [littleEndian_append, ← littleEndian_eq_zero_iff, Nat.add_eq_left, Nat.mul_eq_zero, or_iff_right hpos]

/-! ## Layouts -/

structure Leaf where
  offset : Nat
  width : Nat
deriving DecidableEq

structure Layout where
  size : Nat
  align : Nat
  leaves : List Leaf
deriving DecidableEq

/-- The scalars of an object that starts at an offset. -/
def shift (off : Nat) (leaves : List Leaf) : List Leaf := leaves.map fun l => ⟨off + l.offset, l.width⟩

def alignUp (off align : Nat) : Nat := (off + align - 1) / align * align

def scalar (width : Nat) : Layout := ⟨width, width, [⟨0, width⟩]⟩

/-- `count` objects in a row. -/
def array (count : Nat) (l : Layout) : Layout :=
  ⟨count * l.size, l.align, (List.range count).flatMap fun i => shift (i * l.size) l.leaves⟩

/-- The fields from an offset on, each at the next offset with its alignment, and the offset behind them. -/
def place : Nat → List Layout → List Leaf × Nat
  | off, [] => ([], off)
  | off, l :: ls =>
    let start := alignUp off l.align
    let rest := place (start + l.size) ls
    (shift start l.leaves ++ rest.1, rest.2)

/-- A structure: the fields in order, padded to the largest alignment. -/
def struct (fields : List Layout) : Layout :=
  let align := fields.foldr (fun l a => max l.align a) 1
  let placed := place 0 fields
  ⟨alignUp placed.2 align, align, placed.1⟩

/-- The data models of 32- and 64-bit processes. -/
inductive Abi
  | ilp32
  | lp64
deriving DecidableEq

def Abi.word : Abi → Nat
  | ilp32 => 4
  | lp64 => 8

def sizeT (abi : Abi) : Layout := scalar abi.word
def pointer (abi : Abi) : Layout := scalar abi.word
def char : Layout := scalar 1
def bool : Layout := scalar 1
def short : Layout := scalar 2
def int : Layout := scalar 4
def int64 : Layout := scalar 8
def float : Layout := scalar 4
def double : Layout := scalar 8

/-! ## Values -/

def Leaf.read (l : Leaf) (bs : List Byte) : Nat := littleEndian ((bs.drop l.offset).take l.width)

/-- The value of an object: its scalars in order. -/
def Layout.value (l : Layout) (bs : List Byte) : List Nat := l.leaves.map fun leaf => leaf.read bs

def Image (l : Layout) : Type := { bs : List Byte // bs.length = l.size }

theorem Leaf.read_lt (l : Leaf) (bs : List Byte) : l.read bs < 256 ^ l.width := by
  refine (littleEndian_lt _).trans_le (Nat.pow_le_pow_right (by decide) ?_)
  rw [length_take]
  omega

theorem read_last_eq {l l' : Layout} {leaf leaf' : Leaf} {bs bs' : List Byte} (hl : l.leaves.getLast? = some leaf)
    (hl' : l'.leaves.getLast? = some leaf') (h : l.value bs = l'.value bs') : leaf.read bs = leaf'.read bs' := by
  have hlast := congrArg List.getLast? h
  rw [Layout.value, Layout.value, getLast?_map, getLast?_map, hl, hl'] at hlast
  exact Option.some.inj hlast

@[simp] theorem alignUp_zero (align : Nat) : alignUp 0 align = 0 := by
  rw [alignUp]
  cases align with
  | zero => rfl
  | succ n => rw [Nat.div_eq_of_lt (by omega), Nat.zero_mul]

theorem place_cons_congr {off off' : Nat} {l : Layout} (h : alignUp off l.align = alignUp off' l.align)
    (ls : List Layout) : place off (l :: ls) = place off' (l :: ls) := by
  rw [place, place, h]

theorem value_struct_scalar_cons (width : Nat) (ls : List Layout) (bs : List Byte) :
    (struct (scalar width :: ls)).value bs =
      littleEndian (bs.take width) :: (place width ls).1.map fun leaf => leaf.read bs := by
  simp [Layout.value, struct, place, scalar, shift, Leaf.read]

theorem value_sizeT_cons_iff {l : Layout} (halign : l.align = 8) (ls : List Layout) (abi : Abi) (bs : List Byte) :
    (struct (sizeT abi :: l :: ls)).value bs = (struct (sizeT .ilp32 :: l :: ls)).value bs ↔
      abi = .ilp32 ∨ ∀ b ∈ (bs.drop 4).take 4, b = 0 := by
  cases abi with
  | ilp32 => exact iff_of_true rfl (Or.inl rfl)
  | lp64 =>
    have hplace : place 8 (l :: ls) = place 4 (l :: ls) := place_cons_congr (by rw [halign]; rfl) ls
    have hsplit : bs.take 8 = bs.take 4 ++ (bs.drop 4).take 4 := take_add (i := 4) (j := 4)
    rw [or_iff_right nofun, sizeT, sizeT, value_struct_scalar_cons, value_struct_scalar_cons]
    simp only [Abi.word]
    rw [hplace, hsplit, cons_eq_cons, and_iff_left rfl, littleEndian_append_eq_iff]

/-! ## Uninitialised objects -/

/-- An object of `size` bytes with the content `garbage`, after `bs` is copied to its start. -/
def overwrite (garbage : Nat → Byte) (size : Nat) (bs : List Byte) : List Byte :=
  bs ++ ((List.range size).map garbage).drop bs.length

theorem overwrite_of_length_eq {garbage : Nat → Byte} {size : Nat} {bs : List Byte} (h : bs.length = size) :
    overwrite garbage size bs = bs := by
  rw [overwrite, drop_eq_nil_of_le (by rw [length_map, length_range, h]), append_nil]

theorem read_overwrite_const {b : Byte} {size off width : Nat} {bs : List Byte} (hoff : bs.length ≤ off)
    (hsize : off + width ≤ size) :
    (Leaf.mk off width).read (overwrite (fun _ => b) size bs) = littleEndian (List.replicate width b) := by
  have hdrop : (overwrite (fun _ => b) size bs).drop off = List.replicate (size - off) b := by
    rw [overwrite, drop_append, drop_eq_nil_of_le hoff, nil_append, drop_drop, map_const',
      length_range, drop_replicate]
    congr 1
    omega
  have hwidth : min width (size - off) = width := by omega
  rw [Leaf.read, hdrop, take_replicate, hwidth]

end CLayout
