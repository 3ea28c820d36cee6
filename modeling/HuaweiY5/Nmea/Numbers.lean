import HuaweiY5.Nmea.Reader

/-!
# `Nmea.Numbers` — the numbers `str2int` reads

`str2int` takes a `-` and then digits; at any other character it returns `-1`, which is also the value of `-1`. A text of
digits that fits an `int` is read as the number it denotes. Of two characters it also reads `-` with a digit.
-/

namespace HuaweiY5.Nmea

open List

open Codec (Byte)

def IsDigit (b : Byte) : Prop := 48 ≤ b.toNat ∧ b.toNat < 58
  deriving Decidable

/-- The number that digits behind the number `n` denote. -/
def numberFrom (n : Nat) (text : List Byte) : Nat := text.foldl (fun n b => 10 * n + (b.toNat - 48)) n

def number (text : List Byte) : Nat := numberFrom 0 text

@[simp] theorem numberFrom_cons (n : Nat) (b : Byte) (text : List Byte) :
    numberFrom n (b :: text) = numberFrom (10 * n + (b.toNat - 48)) text := by
  simp [numberFrom]

variable {text : List Byte}

theorem numberFrom_lt (h : ∀ b ∈ text, IsDigit b) (n : Nat) : numberFrom n text < (n + 1) * 10 ^ text.length := by
  induction text generalizing n with
  | nil =>
    show n < (n + 1) * 10 ^ 0
    omega
  | cons b text ih =>
    obtain ⟨hb, htext⟩ := forall_mem_cons.mp h
    have hdigit : b.toNat - 48 ≤ 9 := by
      have := hb.2
      omega
    calc numberFrom n (b :: text)
      _ < (10 * n + (b.toNat - 48) + 1) * 10 ^ text.length := ih htext _
      _ ≤ ((n + 1) * 10) * 10 ^ text.length := Nat.mul_le_mul_right _ (by omega)
      _ = (n + 1) * 10 ^ (b :: text).length := by
          rw [length_cons, Nat.pow_succ', Nat.mul_assoc]

theorem le_numberFrom (text : List Byte) (n : Nat) : n ≤ numberFrom n text := by
  induction text generalizing n with
  | nil => exact Nat.le_refl n
  | cons b text ih =>
    have h := ih (10 * n + (b.toNat - 48))
    rw [numberFrom_cons]
    omega

theorem str2intLoop_isDigit {b : Byte} (hb : IsDigit b) (sign result : Int) (text : List Byte) :
    str2intLoop sign result (b :: text) = str2intLoop sign (int32 (result * 10 + (b.toNat - 48))) text := if_pos hb

theorem str2intLoop_other {b : Byte} (hb : ¬IsDigit b) (sign result : Int) (text : List Byte) :
    str2intLoop sign result (b :: text) = -1 := if_neg hb

theorem str2intLoop_number (sign : Int) (h : ∀ b ∈ text, IsDigit b) (n : Nat) (hfits : numberFrom n text < 2147483648) :
    str2intLoop sign n text = int32 (sign * numberFrom n text) := by
  induction text generalizing n with
  | nil => rfl
  | cons b text ih =>
    obtain ⟨hb, htext⟩ := forall_mem_cons.mp h
    rw [numberFrom_cons] at hfits
    have hle := le_numberFrom text (10 * n + (b.toNat - 48))
    have hstep : int32 ((n : Int) * 10 + (b.toNat - 48)) = ((10 * n + (b.toNat - 48) : Nat) : Int) := by
      have hlo := hb.1
      rw [int32_of_bounds (by omega) (by omega)]
      omega
    rw [str2intLoop_isDigit hb, hstep, ih htext _ hfits, numberFrom_cons]

theorem head_ne_minus (h : ∀ b ∈ text, IsDigit b) : text.head? ≠ some (chr '-') := by
  intro hhead
  have hdigit := h _ (mem_of_mem_head? hhead)
  exact absurd hdigit (by decide)

/-- **Digits.** `str2int` returns the number they denote. -/
theorem str2int_number (h : ∀ b ∈ text, IsDigit b) (hfits : number text < 2147483648) : str2int text = number text := by
  rw [str2int, if_neg (head_ne_minus h)]
  have hloop := str2intLoop_number 1 h 0 hfits
  rw [Int.one_mul] at hloop
  exact hloop.trans (int32_of_bounds (by omega) (by exact_mod_cast hfits))

variable (a b : Byte)

theorem str2int_pair : str2int [a, b] =
    if IsDigit a ∧ IsDigit b then (number [a, b] : Int)
    else if a = chr '-' ∧ IsDigit b then -((b.toNat - 48 : Nat) : Int) else -1 := by
  by_cases hminus : a = chr '-'
  · subst hminus
    have hno : ¬IsDigit (chr '-') := by decide
    rw [if_neg (fun h => hno h.1), str2int, if_pos (show [chr '-', b].head? = some (chr '-') from rfl), tail_cons]
    by_cases hb : IsDigit b
    · have hdigits : numberFrom 0 [b] = b.toNat - 48 := by simp [numberFrom]
      have hloop := str2intLoop_number (-1) (forall_mem_singleton.mpr hb) 0 (by rw [hdigits]; omega)
      rw [if_pos ⟨rfl, hb⟩]
      refine hloop.trans ?_
      unfold int32 Int.bmod
      simp only [Nat.cast_ofNat]
      omega
    · rw [if_neg (fun h => hb h.2), str2intLoop_other hb]
  · have hhead : [a, b].head? ≠ some (chr '-') := fun h => hminus (Option.some.inj h)
    by_cases ha : IsDigit a
    · by_cases hb : IsDigit b
      · have hall : ∀ x ∈ [a, b], IsDigit x := by
          intro x hx
          rcases mem_pair.mp hx with rfl | rfl
          · exact ha
          · exact hb
        have hlt := numberFrom_lt hall 0
        rw [if_pos ⟨ha, hb⟩]
        exact str2int_number hall (Nat.lt_trans hlt (show (0 + 1) * 10 ^ 2 < 2147483648 by decide))
      · rw [if_neg (fun h => hb h.2), if_neg (fun h => hb h.2), str2int, if_neg hhead, str2intLoop_isDigit ha,
          str2intLoop_other hb]
    · rw [if_neg (fun h => ha h.1), if_neg (fun h => hminus h.1), str2int, if_neg hhead, str2intLoop_other ha]

/-- Two characters that `str2int` does not take for an error: two digits, or `-0`. -/
def Passes : Prop := IsDigit a ∧ IsDigit b ∨ a = chr '-' ∧ b = chr '0'
  deriving Decidable

theorem str2int_pair_nonneg_iff : 0 ≤ str2int [a, b] ↔ Passes a b := by
  rw [str2int_pair, Passes]
  by_cases hdigits : IsDigit a ∧ IsDigit b
  · rw [if_pos hdigits]
    exact iff_of_true (by omega) (Or.inl hdigits)
  · rw [if_neg hdigits, or_iff_right hdigits]
    by_cases hminus : a = chr '-' ∧ IsDigit b
    · rw [if_pos hminus]
      have hb := hminus.2
      have hzero : b = chr '0' ↔ b.toNat = 48 := by
        rw [← BitVec.toNat_inj]
        rfl
      rw [hzero, and_iff_right hminus.1]
      have hlo := hb.1
      omega
    · rw [if_neg hminus]
      refine iff_of_false (by omega) ?_
      rintro ⟨ha, rfl⟩
      exact hminus ⟨ha, by decide⟩

theorem str2int_pair_bounds : -9 ≤ str2int [a, b] ∧ str2int [a, b] ≤ 99 := by
  rw [str2int_pair]
  split
  · next h =>
      have hall : ∀ x ∈ [a, b], IsDigit x := by
        intro x hx
        rcases mem_pair.mp hx with rfl | rfl
        · exact h.1
        · exact h.2
      have hlt : number [a, b] < (0 + 1) * 10 ^ 2 := numberFrom_lt hall 0
      omega
  · split
    · next h =>
        have hlt : b.toNat < 58 := h.2.2
        omega
    · omega

end HuaweiY5.Nmea
