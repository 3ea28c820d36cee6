import HuaweiY5.Nmea.Numbers

/-!
# `Nmea.Date` — the date of an RMC sentence

`nmea_reader_update_date` wants six characters, reads day, month and year from two each with `str2int`, and refuses the
date if one of the three is negative, which it finds out from their bitwise or. `str2int` answers `-1` for what is no
number. But 2000 is added to the year before the test, so that no year is ever refused, and `-0` passes for a day and for
a month.
-/

namespace HuaweiY5.Nmea

open List

open Codec (Byte)

variable {D : Type} (c : Libc D)

/-! ## The calls -/

/-- `nmea_reader_update_time`, with its status. -/
def readerUpdateTime (tok : Token) (r : Content D) : Int × Content D :=
  if tok.text.length < 6 then (-1, r) else (0, updateTime c tok r)

/-- `(day|mon|year) < 0`. -/
def orNegative (day mon year : Int) : Bool :=
  (BitVec.ofInt 32 day ||| BitVec.ofInt 32 mon ||| BitVec.ofInt 32 year).slt 0#32

/-- `nmea_reader_update_date`, with its status. -/
def readerUpdateDate (date time : Token) (r : Content D) : Int × Content D :=
  if date.text.length ≠ 6 then (-1, r)
  else
    let day := str2int (date.text.take 2)
    let mon := str2int ((date.text.drop 2).take 2)
    let year := str2int (date.text.drop 4) + 2000
    if orNegative day mon year then (-1, r)
    else readerUpdateTime c time { r with utcYear := year, utcMon := mon, utcDay := day }

/-! ## The sign of the or -/

theorem msb_ofInt {x : Int} (hlo : -2147483648 ≤ x) (hhi : x < 2147483648) :
    (BitVec.ofInt 32 x).msb = decide (x < 0) := by
  have hmod : (BitVec.ofInt 32 x).toInt = x := by
    rw [BitVec.toInt_ofInt]
    apply Int.bmod_eq_of_le
    · omega
    · omega
  rw [BitVec.msb_eq_toInt, hmod]

theorem orNegative_iff {day mon year : Int} (hd : -2147483648 ≤ day ∧ day < 2147483648)
    (hm : -2147483648 ≤ mon ∧ mon < 2147483648) (hy : -2147483648 ≤ year ∧ year < 2147483648) :
    orNegative day mon year = true ↔ day < 0 ∨ mon < 0 ∨ year < 0 := by
  unfold orNegative
  rw [BitVec.slt_zero_eq_msb, BitVec.msb_or, BitVec.msb_or, msb_ofInt hd.1 hd.2, msb_ofInt hm.1 hm.2,
    msb_ofInt hy.1 hy.2, Bool.or_eq_true, Bool.or_eq_true, decide_eq_true_iff, decide_eq_true_iff, decide_eq_true_iff,
    or_assoc]

/-! ## Which dates are taken -/

def Content.date (r : Content D) : Int × Int × Int := (r.utcYear, r.utcMon, r.utcDay)

def SixDigits (text : List Byte) : Prop := text.length = 6 ∧ ∀ b ∈ text, IsDigit b

def dateOf (text : List Byte) : Int × Int × Int :=
  (2000 + number (text.drop 4), number ((text.drop 2).take 2), number (text.take 2))

/-- Six digits set the date; anything else is refused with `-1` and leaves it as it was. -/
structure DateChecked (date : Token) : Prop where
  digits : SixDigits date.text → ∀ (time : Token) (r : Content D), (readerUpdateDate c date time r).2.date =
    dateOf date.text
  other : ¬SixDigits date.text → ∀ (time : Token) (r : Content D), (readerUpdateDate c date time r).1 = -1 ∧
    (readerUpdateDate c date time r).2.date = r.date

def DayAndMonthPass : List Byte → Prop
  | [d₁, d₂, m₁, m₂, _, _] => Passes d₁ d₂ ∧ Passes m₁ m₂
  | _ => False

theorem date_updateTime (tok : Token) (r : Content D) (hyear : 0 ≤ r.utcYear) :
    (readerUpdateTime c tok r).2.date = r.date := by
  have hnot : ¬r.utcYear < 0 := by omega
  by_cases hlen : tok.text.length < 6
  · rw [readerUpdateTime, if_pos hlen]
  · simp [readerUpdateTime, updateTime, hlen, hnot, Content.date]

theorem readerUpdateDate_six (d₁ d₂ m₁ m₂ y₁ y₂ : Byte) (head : Byte) (time : Token) (r : Content D) :
    readerUpdateDate c ⟨[d₁, d₂, m₁, m₂, y₁, y₂], head⟩ time r =
      if Passes d₁ d₂ ∧ Passes m₁ m₂ then
        readerUpdateTime c time
          { r with utcYear := str2int [y₁, y₂] + 2000, utcMon := str2int [m₁, m₂], utcDay := str2int [d₁, d₂] }
      else (-1, r) := by
  have hd := str2int_pair_bounds d₁ d₂
  have hm := str2int_pair_bounds m₁ m₂
  have hy := str2int_pair_bounds y₁ y₂
  have hor : orNegative (str2int [d₁, d₂]) (str2int [m₁, m₂]) (str2int [y₁, y₂] + 2000) = true ↔
      ¬(Passes d₁ d₂ ∧ Passes m₁ m₂) := by
    rw [orNegative_iff (by omega) (by omega) (by omega), ← str2int_pair_nonneg_iff, ← str2int_pair_nonneg_iff]
    -- the year is never below 1991
    omega
  unfold readerUpdateDate
  rw [if_neg (by simp)]
  simp only [take_succ_cons, take_zero, drop_succ_cons, drop_zero]
  by_cases hpass : Passes d₁ d₂ ∧ Passes m₁ m₂
  · rw [if_pos hpass, if_neg (fun h => hor.mp h hpass)]
  · rw [if_neg hpass, if_pos (hor.mpr hpass)]

theorem exists_six {text : List Byte} (h : text.length = 6) :
    ∃ d₁ d₂ m₁ m₂ y₁ y₂, text = [d₁, d₂, m₁, m₂, y₁, y₂] := by
  match text, h with
  | [d₁, d₂, m₁, m₂, y₁, y₂], _ => exact ⟨d₁, d₂, m₁, m₂, y₁, y₂, rfl⟩

theorem str2int_pair_digits {a b : Byte} (ha : IsDigit a) (hb : IsDigit b) : str2int [a, b] = number [a, b] := by
  rw [str2int_pair, if_pos ⟨ha, hb⟩]

theorem date_of_sixDigits {date : Token} (h : SixDigits date.text) (time : Token) (r : Content D) :
    (readerUpdateDate c date time r).2.date = dateOf date.text := by
  obtain ⟨text, head⟩ := date
  obtain ⟨hlen, hall⟩ := h
  obtain ⟨d₁, d₂, m₁, m₂, y₁, y₂, rfl⟩ := exists_six hlen
  simp only [forall_mem_cons] at hall
  obtain ⟨hd₁, hd₂, hm₁, hm₂, hy₁, hy₂, -⟩ := hall
  rw [readerUpdateDate_six, if_pos ⟨Or.inl ⟨hd₁, hd₂⟩, Or.inl ⟨hm₁, hm₂⟩⟩, str2int_pair_digits hd₁ hd₂,
    str2int_pair_digits hm₁ hm₂, str2int_pair_digits hy₁ hy₂, date_updateTime c _ _ (by show (0 : Int) ≤ _ + 2000; omega)]
  rw [Int.add_comm]
  rfl

/-- **Which dates are checked.** A date is handled as it should be exactly if it is six digits, or not six characters, or
    its day or its month is neither two digits nor `-0`: whatever stands for the year is taken. -/
theorem date_checked_iff (date : Token) : DateChecked c date ↔ SixDigits date.text ∨ ¬DayAndMonthPass date.text := by
  obtain ⟨text, head⟩ := date
  constructor
  · intro h
    by_cases hsix : SixDigits text
    · exact Or.inl hsix
    · right
      intro hpass
      -- a reader without a date gets one
      have hsame := (h.other hsix ⟨[], 0⟩ (readerInit c fun _ => false).content).2
      match text, hpass with
      | [d₁, d₂, m₁, m₂, y₁, y₂], hpass =>
        have hpass : Passes d₁ d₂ ∧ Passes m₁ m₂ := hpass
        have hy := str2int_pair_bounds y₁ y₂
        rw [readerUpdateDate_six, if_pos hpass] at hsame
        have hyear : str2int [y₁, y₂] + 2000 = -1 := congrArg Prod.fst hsame
        omega
  · intro h
    refine ⟨fun hsix time r => date_of_sixDigits c hsix time r, fun hsix time r => ?_⟩
    have hnot : ¬DayAndMonthPass text := h.resolve_left hsix
    by_cases hlen : text.length = 6
    · obtain ⟨d₁, d₂, m₁, m₂, y₁, y₂, rfl⟩ := exists_six hlen
      have hnot : ¬(Passes d₁ d₂ ∧ Passes m₁ m₂) := hnot
      rw [readerUpdateDate_six, if_neg hnot]
      exact ⟨rfl, rfl⟩
    · rw [readerUpdateDate, if_pos hlen]
      exact ⟨rfl, rfl⟩

/-- The date `0101ab` is taken, as the first of January 1999. -/
theorem date_letters_taken :
    let date : Token := ⟨"0101ab".toList.map chr, chr '0'⟩
    let r := readerUpdateDate exactLibc date ⟨"120000".toList.map chr, chr '1'⟩ (readerInit exactLibc fun _ => false).content
    ¬SixDigits date.text ∧ r.1 = 0 ∧ r.2.date = (1999, 1, 1) := by
  refine ⟨fun h => absurd (h.2 (chr 'a') (by decide)) (by decide), ?_, ?_⟩
  · decide +kernel
  · decide +kernel

end HuaweiY5.Nmea
