import Mathlib.Data.List.DropRight

/-!
# `Lib.JavaString` — the Java string functions, on lists of characters

`String.split`, `TextUtils.join` and `Integer.parseInt` as the Java and Android libraries document them. The
one fact a round trip needs is `split_join`: a list of nonempty pieces without the separator survives being
joined and split again — except the empty list, whose text `""` splits into one empty piece.
-/

namespace JavaString

open List

/-- A `java.lang.String`. -/
abbrev JString := List Char

/-- `s.split(sep)` for a one-character separator: a text without the separator is returned whole, otherwise the
    trailing empty pieces are dropped. -/
def split (sep : Char) (s : JString) : List JString :=
  if sep ∈ s then (s.splitOn sep).rdropWhile List.isEmpty else [s]

/-- `TextUtils.join(sep, pieces)`. -/
def join (sep : Char) (pieces : List JString) : JString := [sep].intercalate pieces

/-- `xs.removeAll(ys)`. -/
def removeAll (xs ys : List JString) : List JString := xs.filter fun x => x ∉ ys

/-- The code points of the zeros of the decimal digits a `char` can be. -/
def decimalZeros : List Nat :=
  [0x0030, 0x0660, 0x06F0, 0x07C0, 0x0966, 0x09E6, 0x0A66, 0x0AE6, 0x0B66, 0x0BE6, 0x0C66, 0x0CE6, 0x0D66,
    0x0DE6, 0x0E50, 0x0ED0, 0x0F20, 0x1040, 0x1090, 0x17E0, 0x1810, 0x1946, 0x19D0, 0x1A80, 0x1A90, 0x1B50,
    0x1BB0, 0x1C40, 0x1C50, 0xA620, 0xA8D0, 0xA900, 0xA9D0, 0xA9F0, 0xAA50, 0xABF0, 0xFF10]

/-- `Character.digit(c, 10)`. -/
def digit (c : Char) : Option Nat := (decimalZeros.find? fun z => z ≤ c.toNat && c.toNat < z + 10).map (c.toNat - ·)

/-- The value of a nonempty sequence of decimal digits. -/
def magnitude : JString → Option Nat
  | [] => none
  | ds => ds.foldlM (fun acc c => (digit c).map (10 * acc + ·)) 0

/-- `Integer.parseInt(s)`; `none` is a `NumberFormatException`. -/
def parseInt (s : JString) : Option Int :=
  let value : Option Int :=
    match s with
    | '-' :: ds => (magnitude ds).map fun n => -(n : Int)
    | '+' :: ds => (magnitude ds).map fun n => (n : Int)
    | ds => (magnitude ds).map fun n => (n : Int)
  value.filter fun n => -2147483648 ≤ n ∧ n ≤ 2147483647

example : parseInt "-08".toList = some (-8) ∧ parseInt "2147483648".toList = none ∧
    parseInt "+".toList = none := by decide

/-! ## Joining and splitting -/

variable {sep : Char} {pieces : List JString} {x : JString}

theorem join_cons_cons (p q : JString) (ps : List JString) :
    join sep (p :: q :: ps) = p ++ sep :: join sep (q :: ps) := by
  simp [join]

theorem join_eq_nil_iff (h : ∀ p ∈ pieces, p ≠ []) : join sep pieces = [] ↔ pieces = [] := by
  match pieces with
  | [] => simp [join]
  | [p] => simpa [join] using h p mem_cons_self
  | p :: q :: ps => simp [join_cons_cons]

/-- **Round trip.** -/
theorem split_join (h : ∀ p ∈ pieces, p ≠ [] ∧ sep ∉ p) :
    split sep (join sep pieces) = if pieces = [] then [[]] else pieces := by
  match pieces with
  | [] => simp [split, join]
  | [p] => simp [split, join, (h p mem_cons_self).2]
  | p :: q :: ps =>
    have hmem : sep ∈ join sep (p :: q :: ps) := by simp [join_cons_cons]
    have hsplit : (join sep (p :: q :: ps)).splitOn sep = p :: q :: ps :=
      splitOn_intercalate sep (fun r hr => (h r hr).2) (cons_ne_nil _ _)
    rw [split, if_pos hmem, hsplit]
    refine rdropWhile_eq_self_iff.mpr fun hne => ?_
    rw [List.isEmpty_iff]
    exact (h _ (getLast_mem hne)).1

theorem mem_split_join (h : ∀ p ∈ pieces, p ≠ [] ∧ sep ∉ p) (hx : x ≠ []) :
    x ∈ split sep (join sep pieces) ↔ x ∈ pieces := by
  rw [split_join h]
  split
  · rename_i he; simp [he, hx]
  · rfl

@[simp] theorem mem_removeAll {xs ys : List JString} : x ∈ removeAll xs ys ↔ x ∈ xs ∧ x ∉ ys := by
  simp [removeAll]

end JavaString
